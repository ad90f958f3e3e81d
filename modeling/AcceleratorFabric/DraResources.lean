import AcceleratorFabric.Snapshot

/-! # Published DRA resources

`ResourcesForTopology` publishes every device of a valid topology with its attributes.  The
fabric attributes come from one loop over the links (`fabricByID`): a healthy link of another
type than PCIe inside a fabric group contributes to the facts of both its ends.

`factsAt_fabricByID`: a device has fabric facts exactly if such a link ends at it, and then
they bound every such link: the published bandwidth from below, the published hops from above. -/

namespace AcceleratorFabric.Dra

open GoMap AcceleratorFabric.Topology

def driverName : String := "accelerator.scheduling.bupt.dev"

def deviceClassName : String := "bupt-accelerator"

/-- The conversion of an integral `float64` to `int64`: exact in range, and up to the processor
outside of it. -/
class FloatConversion where
  toInt64 : ℤ → ℤ
  toInt64_of_mem : ∀ n, -2 ^ 63 ≤ n → n < 2 ^ 63 → toInt64 n = n

/-- The conversion on amd64. -/
@[reducible] def amd64 : FloatConversion where
  toInt64 n := if -2 ^ 63 ≤ n ∧ n < 2 ^ 63 then n else -2 ^ 63
  toInt64_of_mem := fun _ h1 h2 => if_pos ⟨h1, h2⟩

inductive AttributeValue where
  | string (value : String)
  | int (value : ℤ)
deriving DecidableEq, Repr

/-- A published device. -/
structure Device where
  name : String
  attributes : GoMap String AttributeValue
deriving DecidableEq

/-- `DriverResources`: the devices of every pool; a pool has one slice. -/
abbrev DriverResources := GoMap String (List Device)

inductive ResourcesError where
  | nilTopology
  | invalid (error : BuildError)
deriving DecidableEq, Repr

def ResourcesError.message [GoText.IsPrint] : ResourcesError → String
  | nilTopology => "topology is nil"
  | invalid e => e.message

/-! ### Fabric facts -/

structure FabricFacts where
  found : Bool
  linkType : LinkType
  minBandwidth : ℚ
  maxHops : ℤ
deriving DecidableEq, Repr

/-- The zero value. -/
def FabricFacts.zero : FabricFacts := ⟨false, .other "", 0, 0⟩

/-- The update of the facts of one end of a link. -/
def FabricFacts.add (facts : FabricFacts) (link : AcceleratorLink) : FabricFacts where
  found := true
  linkType := link.type
  minBandwidth := if !facts.found || link.bandwidthGBps < facts.minBandwidth then
      link.bandwidthGBps
    else facts.minBandwidth
  maxHops := if facts.maxHops < link.hops then link.hops else facts.maxHops

def deviceByID (devices : List AcceleratorDevice) : GoMap String AcceleratorDevice :=
  devices.foldl (fun byID device => byID.insert device.id device) ∅

/-- `deviceByID[id].FabricGroup`. -/
def groupOf (byID : GoMap String AcceleratorDevice) (id : String) : String :=
  ((byID.lookup id).map (·.fabricGroup)).getD ""

/-- `fabricByID[id]`. -/
def factsAt (fabricByID : GoMap String FabricFacts) (id : String) : FabricFacts :=
  (fabricByID.lookup id).getD .zero

/-- The body of the loop over the links. -/
def recordLink (byID : GoMap String AcceleratorDevice) (fabricByID : GoMap String FabricFacts)
    (link : AcceleratorLink) : GoMap String FabricFacts :=
  if link.type = .pcie ∨ link.health ≠ .healthy then fabricByID
  else if groupOf byID link.source = "" ∨ groupOf byID link.source ≠ groupOf byID link.target then
    fabricByID
  else [link.source, link.target].foldl (fun acc id => acc.insert id ((factsAt acc id).add link))
    fabricByID

def fabricByID (spec : AcceleratorTopologySpec) : GoMap String FabricFacts :=
  spec.links.foldl (recordLink (deviceByID spec.devices)) ∅

/-! ### Devices -/

section published

variable [Kube] [FloatConversion]

/-- The attributes of one device; the optional ones are absent without a value. -/
def attributesOf (spec : AcceleratorTopologySpec) (source : AcceleratorDevice) :
    GoMap String AttributeValue :=
  let always : GoMap String AttributeValue := literal [
    ("vendor", .string source.vendor.text),
    ("product", .string source.product),
    ("resourceName", .string source.resourceName),
    ("memoryMiB", .int source.memoryMiB),
    ("health", .string source.health.text),
    ("observedGeneration", .int spec.observedGeneration)]
  let numaNode := source.numaNode.map AttributeValue.int
  let pcieRoot := if source.pcieRoot ≠ "" then some (AttributeValue.string source.pcieRoot) else none
  let fabricGroup := if source.fabricGroup ≠ "" then
      some (AttributeValue.string source.fabricGroup)
    else none
  let facts := factsAt (fabricByID spec) source.id
  let ifFound (value : AttributeValue) := if facts.found then some value else none
  let located := insertSome (insertSome (insertSome always "numaNode" numaNode) "pcieRoot" pcieRoot)
    "fabricGroup" fabricGroup
  insertSome (insertSome (insertSome located
    "fabricType" (ifFound (.string facts.linkType.text)))
    "fabricBandwidthGBps" (ifFound (.int (FloatConversion.toInt64 ⌊facts.minBandwidth⌋))))
    "fabricHops" (ifFound (.int facts.maxHops))

/-- One published device. -/
def publish (spec : AcceleratorTopologySpec) (source : AcceleratorDevice) : Device :=
  ⟨source.id, attributesOf spec source⟩

def resourcesForTopology : Option AcceleratorTopology → Except ResourcesError DriverResources
  | none => .error .nilTopology
  | some object =>
      match build object.spec with
      | .error e => .error (.invalid e)
      | .ok _ => .ok (Finmap.singleton object.spec.nodeName
          (object.spec.devices.map (publish object.spec)))

def emptyResources : DriverResources := ∅

end published

/-! ### What the link loop computes -/

/-- A healthy link of another type than PCIe between two devices of one fabric group. -/
def InGroup (spec : AcceleratorTopologySpec) (l : AcceleratorLink) : Prop :=
  l.type ≠ .pcie ∧ l.health = .healthy ∧ groupOf (deviceByID spec.devices) l.source ≠ "" ∧
    groupOf (deviceByID spec.devices) l.source = groupOf (deviceByID spec.devices) l.target

instance (spec : AcceleratorTopologySpec) (l : AcceleratorLink) : Decidable (InGroup spec l) :=
  inferInstanceAs (Decidable (_ ∧ _))

/-- The links of the device's fabric group that end at it, in spec order. -/
def groupLinks (spec : AcceleratorTopologySpec) (id : String) : List AcceleratorLink :=
  spec.links.filter (fun l => InGroup spec l ∧ (id = l.source ∨ id = l.target))

theorem factsAt_insert (m : GoMap String FabricFacts) (k id : String) (f : FabricFacts) :
    factsAt (m.insert k f) id = if id = k then f else factsAt m id := by
  unfold factsAt
  rw [lookup_insert_ite]
  split_ifs <;> rfl

theorem factsAt_recordLink {spec : AcceleratorTopologySpec} {l : AcceleratorLink}
    (hne : l.source ≠ l.target) (m : GoMap String FabricFacts) (id : String) :
    factsAt (recordLink (deviceByID spec.devices) m l) id =
      if InGroup spec l ∧ (id = l.source ∨ id = l.target) then (factsAt m id).add l
      else factsAt m id := by
  by_cases hin : InGroup spec l
  · obtain ⟨h1, h2, h3, h4⟩ := hin
    have hrecord : recordLink (deviceByID spec.devices) m l =
        (m.insert l.source ((factsAt m l.source).add l)).insert l.target
          ((factsAt (m.insert l.source ((factsAt m l.source).add l)) l.target).add l) := by
      unfold recordLink
      rw [if_neg (by tauto), if_neg (by tauto)]
      rfl
    have htarget : factsAt (m.insert l.source ((factsAt m l.source).add l)) l.target =
        factsAt m l.target := by
      rw [factsAt_insert, if_neg (fun e => hne e.symm)]
    rw [hrecord, htarget, factsAt_insert, factsAt_insert]
    have hin : InGroup spec l := ⟨h1, h2, h3, h4⟩
    rcases eq_or_ne id l.target with rfl | ht
    · rw [if_pos rfl, if_pos ⟨hin, .inr rfl⟩]
    · rw [if_neg ht]
      rcases eq_or_ne id l.source with rfl | hs
      · rw [if_pos rfl, if_pos ⟨hin, .inl rfl⟩]
      · rw [if_neg hs, if_neg (by tauto)]
  · rw [if_neg (fun h => hin h.1)]
    have hrecord : recordLink (deviceByID spec.devices) m l = m := by
      unfold recordLink
      unfold InGroup at hin
      split_ifs with h1 h2
      · rfl
      · rfl
      · exact absurd (by tauto) hin
    rw [hrecord]

theorem factsAt_foldl {spec : AcceleratorTopologySpec} (id : String) :
    ∀ (ls : List AcceleratorLink) (m : GoMap String FabricFacts),
      (∀ l ∈ ls, l.source ≠ l.target) →
        factsAt (ls.foldl (recordLink (deviceByID spec.devices)) m) id =
          (ls.filter (fun l => InGroup spec l ∧ (id = l.source ∨ id = l.target))).foldl
            FabricFacts.add (factsAt m id)
  | [], _, _ => rfl
  | l :: ls, m, h => by
      have hne := h l List.mem_cons_self
      rw [List.foldl_cons, factsAt_foldl id ls _ (fun x hx => h x (List.mem_cons_of_mem _ hx)),
        factsAt_recordLink hne, List.filter_cons]
      by_cases hc : InGroup spec l ∧ (id = l.source ∨ id = l.target)
      · rw [if_pos hc, if_pos (decide_eq_true hc), List.foldl_cons]
      · rw [if_neg hc, if_neg (fun hd => hc (of_decide_eq_true hd))]

/-- The facts bound the link. -/
structure FabricFacts.Covers (facts : FabricFacts) (l : AcceleratorLink) : Prop where
  found : facts.found = true
  bandwidth : facts.minBandwidth ≤ l.bandwidthGBps
  hops : l.hops ≤ facts.maxHops

theorem FabricFacts.covers_add_self (facts : FabricFacts) (l : AcceleratorLink) :
    (facts.add l).Covers l := by
  refine ⟨rfl, ?_, ?_⟩
  · simp only [FabricFacts.add]
    split_ifs with h
    · exact le_refl _
    · rw [Bool.or_eq_true, not_or] at h
      exact not_lt.mp (fun hlt => h.2 (decide_eq_true hlt))
  · simp only [FabricFacts.add]
    split_ifs with h
    · exact le_refl _
    · exact not_lt.mp h

theorem FabricFacts.Covers.add {facts : FabricFacts} {l : AcceleratorLink} (h : facts.Covers l)
    (l' : AcceleratorLink) : (facts.add l').Covers l := by
  refine ⟨rfl, ?_, ?_⟩
  · simp only [FabricFacts.add, h.found, Bool.not_true, Bool.false_or, decide_eq_true_eq]
    split_ifs with hlt
    · exact hlt.le.trans h.bandwidth
    · exact h.bandwidth
  · simp only [FabricFacts.add]
    split_ifs with hlt
    · exact h.hops.trans hlt.le
    · exact h.hops

theorem FabricFacts.Covers.foldl {l : AcceleratorLink} : ∀ (ls : List AcceleratorLink)
    {facts : FabricFacts}, facts.Covers l → (ls.foldl FabricFacts.add facts).Covers l
  | [], _, h => h
  | l' :: ls, _, h => FabricFacts.Covers.foldl ls (h.add l')

theorem FabricFacts.covers_foldl (ls : List AcceleratorLink) (facts : FabricFacts) :
    ∀ l ∈ ls, (ls.foldl FabricFacts.add facts).Covers l := by
  induction ls generalizing facts with
  | nil => simp
  | cons l' ls ih =>
      intro l hl
      rw [List.foldl_cons]
      rcases List.mem_cons.mp hl with rfl | hl
      · exact (facts.covers_add_self l).foldl ls
      · exact ih (facts.add l') l hl

theorem FabricFacts.minBandwidth_foldl_nonneg (ls : List AcceleratorLink) (facts : FabricFacts)
    (hls : ∀ l ∈ ls, 0 ≤ l.bandwidthGBps) (hfacts : 0 ≤ facts.minBandwidth) :
    0 ≤ (ls.foldl FabricFacts.add facts).minBandwidth := by
  induction ls generalizing facts with
  | nil => exact hfacts
  | cons l ls ih =>
      rw [List.forall_mem_cons] at hls
      refine ih (facts.add l) hls.2 ?_
      simp only [FabricFacts.add]
      split_ifs
      · exact hls.1
      · exact hfacts

theorem mem_groupLinks {spec : AcceleratorTopologySpec} {id : String} {l : AcceleratorLink} :
    l ∈ groupLinks spec id ↔ l ∈ spec.links ∧ InGroup spec l ∧ (id = l.source ∨ id = l.target) := by
  unfold groupLinks
  rw [List.mem_filter, decide_eq_true_iff]

/-- The facts of a device are folded over its group links. -/
theorem factsAt_fabricByID_eq [Kube] {spec : AcceleratorTopologySpec} (ha : Accepted spec)
    (id : String) :
    factsAt (fabricByID spec) id = (groupLinks spec id).foldl FabricFacts.add .zero :=
  factsAt_foldl id spec.links ∅ (fun l hl => (ha.link_ok l hl).1)

/-- **Fabric facts.**  The facts of a device of a valid topology are those of its group links:
it has some exactly if it has such a link, and they bound every one of them. -/
theorem factsAt_fabricByID [Kube] {spec : AcceleratorTopologySpec} (ha : Accepted spec)
    (id : String) :
    ((factsAt (fabricByID spec) id).found = true ↔ groupLinks spec id ≠ []) ∧
      (∀ l ∈ groupLinks spec id, (factsAt (fabricByID spec) id).Covers l) ∧
      0 ≤ (factsAt (fabricByID spec) id).minBandwidth := by
  rw [factsAt_fabricByID_eq ha]
  have hlinks : ∀ l ∈ groupLinks spec id, 0 ≤ l.bandwidthGBps := by
    intro l hl
    obtain ⟨_, _, _, _, hbandwidth, _⟩ := ha.link_ok l (mem_groupLinks.mp hl).1
    exact hbandwidth
  refine ⟨?_, FabricFacts.covers_foldl _ _,
    FabricFacts.minBandwidth_foldl_nonneg _ _ hlinks (le_refl 0)⟩
  cases hl : groupLinks spec id with
  | nil => simp [FabricFacts.zero]
  | cons l ls =>
      have hcovers := FabricFacts.covers_foldl (l :: ls) .zero l List.mem_cons_self
      exact ⟨fun _ => List.cons_ne_nil l ls, fun _ => hcovers.found⟩

/-! ### Reading the published attributes -/

theorem lookup_foldl_insert_of_not_mem : ∀ (ds : List AcceleratorDevice)
    (m : GoMap String AcceleratorDevice) (x : String), x ∉ ds.map (·.id) →
      (ds.foldl (fun byID d => byID.insert d.id d) m).lookup x = m.lookup x
  | [], _, _, _ => rfl
  | d :: ds, m, x, hx => by
      rw [List.map_cons, List.mem_cons, not_or] at hx
      rw [List.foldl_cons, lookup_foldl_insert_of_not_mem ds _ x hx.2, lookup_insert_ite,
        if_neg hx.1]

theorem lookup_foldl_insert_of_mem (ds : List AcceleratorDevice)
    (m : GoMap String AcceleratorDevice) (hnd : (ds.map (·.id)).Nodup) : ∀ d ∈ ds,
      (ds.foldl (fun byID d => byID.insert d.id d) m).lookup d.id = some d := by
  induction ds generalizing m with
  | nil => simp
  | cons d' ds ih =>
      intro d hd
      rw [List.map_cons, List.nodup_cons] at hnd
      rw [List.foldl_cons]
      rcases List.mem_cons.mp hd with rfl | hd
      · rw [lookup_foldl_insert_of_not_mem ds _ _ hnd.1, lookup_insert_ite, if_pos rfl]
      · exact ih _ hnd.2 d hd

/-- The map from IDs to devices finds every device of a valid topology. -/
theorem groupOf_deviceByID [Kube] {spec : AcceleratorTopologySpec} (ha : Accepted spec)
    {d : AcceleratorDevice} (hd : d ∈ spec.devices) :
    groupOf (deviceByID spec.devices) d.id = d.fabricGroup := by
  unfold groupOf deviceByID
  rw [lookup_foldl_insert_of_mem spec.devices ∅ ha.ids_nodup d hd]
  rfl

section attributes

variable [FloatConversion]

/-- The attributes of a published device. -/
theorem lookup_attributesOf (spec : AcceleratorTopologySpec) (d : AcceleratorDevice) :
    (attributesOf spec d).lookup "health" = some (.string d.health.text) ∧
    (attributesOf spec d).lookup "vendor" = some (.string d.vendor.text) ∧
    (attributesOf spec d).lookup "product" = some (.string d.product) ∧
    (attributesOf spec d).lookup "memoryMiB" = some (.int d.memoryMiB) ∧
    (attributesOf spec d).lookup "fabricGroup" =
      (if d.fabricGroup ≠ "" then some (.string d.fabricGroup) else none) ∧
    (attributesOf spec d).lookup "fabricBandwidthGBps" =
      (if (factsAt (fabricByID spec) d.id).found then some (.int (FloatConversion.toInt64
        ⌊(factsAt (fabricByID spec) d.id).minBandwidth⌋)) else none) ∧
    (attributesOf spec d).lookup "fabricHops" =
      (if (factsAt (fabricByID spec) d.id).found then
        some (.int (factsAt (fabricByID spec) d.id).maxHops) else none) := by
  unfold attributesOf
  simp only [lookup_insertSome, literal, List.foldl_cons, List.foldl_nil, lookup_insert_ite]
  refine ⟨?_, ?_, ?_, ?_, ?_, ?_, ?_⟩ <;> simp

end attributes
end AcceleratorFabric.Dra
