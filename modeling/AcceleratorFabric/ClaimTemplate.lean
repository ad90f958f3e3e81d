import AcceleratorFabric.DraResources
import AcceleratorFabric.Hooks

/-! # Resource claim templates

`ResourceClaimTemplateForPolicy` translates a placement policy into CEL selectors and a
`matchAttribute` constraint of Kubernetes dynamic resource allocation.  The selectors are kept
as syntax (`CelSelector`) with their source text (`expression`) and the meaning Kubernetes gives
them (`eval`): reading an absent attribute, or one of another type, is an error.

* `clique_sound_iff`: when the translation of fabric-clique mode only admits cliques of the
  scheduler.
* `never_aborts_iff`: when no selector runs into an error on a published device. -/

namespace AcceleratorFabric.PolicyController

open GoMap GoText AcceleratorFabric.Topology AcceleratorFabric.TopologyFit AcceleratorFabric.Dra

/-! ### Selectors -/

/-- The forms of CEL expressions that the controller generates, over attributes of its driver. -/
inductive CelSelector where
  | stringEq (name value : String)
  | stringIn (name : String) (values : List String)
  | intAtLeast (name : String) (bound : ℤ)
  | intAtMost (name : String) (bound : ℤ)
deriving DecidableEq, Repr

/-- `attribute(name)`: how an expression reads an attribute of the driver. -/
def celAttribute (name : String) : String :=
  "device.attributes[\"" ++ driverName ++ "\"]." ++ name

/-- The text of the expression. -/
def CelSelector.expression [IsPrint] : CelSelector → String
  | stringEq name value => celAttribute name ++ " == " ++ quote value
  | stringIn name values =>
      celAttribute name ++ " in [" ++ ",".intercalate (values.map quote) ++ "]"
  | intAtLeast name bound => celAttribute name ++ " >= " ++ formatInt bound
  | intAtMost name bound => celAttribute name ++ " <= " ++ formatInt bound

/-- The value of a string attribute; `none` is a CEL error. -/
def readString (d : Device) (name : String) : Option String :=
  match d.attributes.lookup name with
  | some (.string value) => some value
  | _ => none

/-- The value of an integer attribute; `none` is a CEL error. -/
def readInt (d : Device) (name : String) : Option ℤ :=
  match d.attributes.lookup name with
  | some (.int value) => some value
  | _ => none

/-- The result on a device; `none` is a CEL error. -/
def CelSelector.eval (d : Device) : CelSelector → Option Bool
  | stringEq name value => (readString d name).map (fun v => decide (v = value))
  | stringIn name values => (readString d name).map (fun v => decide (v ∈ values))
  | intAtLeast name bound => (readInt d name).map (fun v => decide (bound ≤ v))
  | intAtMost name bound => (readInt d name).map (fun v => decide (v ≤ bound))

/-- The selectors in order, up to the first that is false or an error. -/
def evalSelectors (d : Device) : List CelSelector → Option Bool
  | [] => some true
  | s :: rest =>
      match s.eval d with
      | none => none
      | some false => some false
      | some true => evalSelectors d rest

theorem evalSelectors_eq_true_iff (d : Device) : ∀ ss : List CelSelector,
    evalSelectors d ss = some true ↔ ∀ s ∈ ss, s.eval d = some true
  | [] => by simp [evalSelectors]
  | s :: ss => by
      rw [List.forall_mem_cons, ← evalSelectors_eq_true_iff d ss]
      simp only [evalSelectors]
      cases s.eval d with
      | none => simp
      | some b => cases b <;> simp

theorem evalSelectors_append_eq_none_iff (d : Device) (ts : List CelSelector) :
    ∀ ss : List CelSelector, (∀ s ∈ ss, s.eval d ≠ none) →
      (evalSelectors d (ss ++ ts) = none ↔
        (∀ s ∈ ss, s.eval d = some true) ∧ evalSelectors d ts = none)
  | [], _ => by simp
  | s :: ss, h => by
      rw [List.forall_mem_cons] at h ⊢
      have ih := evalSelectors_append_eq_none_iff d ts ss h.2
      simp only [List.cons_append, evalSelectors]
      cases hs : s.eval d with
      | none => exact absurd hs h.1
      | some b =>
          cases b with
          | false => simp
          | true => simpa using ih

/-! ### Templates -/

structure AcceleratorPlacementPolicy where
  name : String
  namespaceName : String
  uid : String
  spec : AcceleratorPlacementPolicySpec
deriving DecidableEq

/-- A fully qualified attribute name, `domain/name`. -/
structure QualifiedName where
  domain : String
  name : String
deriving DecidableEq, Repr

structure DeviceConstraint where
  requests : List String
  matchAttribute : QualifiedName
deriving DecidableEq, Repr

/-- A resource claim template with its single request. -/
structure ResourceClaimTemplate where
  apiVersion : String
  kind : String
  name : String
  namespaceName : String
  labels : GoMap String String
  ownerReferences : List OwnerReference
  claimLabels : GoMap String String
  requestName : String
  deviceClassName : String
  selectors : List CelSelector
  allocationMode : String
  count : ℤ
  constraints : List DeviceConstraint
deriving DecidableEq

inductive TemplateError where
  | draRequired
  | deviceCount
  | unknownTopology
  | fabricConnected
  | topologyMode (mode : TopologyMode)
deriving DecidableEq, Repr

def TemplateError.message [IsPrint] : TemplateError → String
  | draRequired => "policy with DRA parameters is required"
  | deviceCount => "DRA device count must be positive"
  | unknownTopology => "DRA template generation requires known topology"
  | fabricConnected => "DRA template generation does not support fabric-connected mode"
  | topologyMode m => "unsupported topology mode " ++ quote m.text

def managedByLabel : String := "scheduling.bupt.dev/managed-by"

def managedByValue : String := "accelerator-policy-controller"

def policyLabel : String := "scheduling.bupt.dev/placement-policy"

def requestName : String := "accelerators"

/-- The selectors for health, vendor, product and memory. -/
def deviceSelectors (spec : AcceleratorPlacementPolicySpec) : List CelSelector :=
  [CelSelector.stringEq "health" "Healthy"] ++
  (if spec.vendor ≠ .unset ∧ spec.vendor ≠ .any then
      [CelSelector.stringEq "vendor" spec.vendor.text] else []) ++
  (if 0 < spec.products.length then [CelSelector.stringIn "product" spec.products] else []) ++
  (if 0 < spec.minimumMemoryMiB then
      [CelSelector.intAtLeast "memoryMiB" spec.minimumMemoryMiB] else [])

/-- The selectors that fabric-clique mode adds. -/
def fabricSelectors [FloatConversion] (spec : AcceleratorPlacementPolicySpec) : List CelSelector :=
  (if 0 < spec.minimumLinkBandwidthGBps then
    [.intAtLeast "fabricBandwidthGBps" (FloatConversion.toInt64 ⌈spec.minimumLinkBandwidthGBps⌉)]
  else []) ++
  [.intAtMost "fabricHops" spec.maxFabricHops]

/-- The selectors and the name of the matched attribute for the topology mode. -/
def modeSelection [FloatConversion] (spec : AcceleratorPlacementPolicySpec) :
    Except TemplateError (List CelSelector × Option String) :=
  match spec.topologyMode with
  | .singleNUMA => .ok ([], some "numaNode")
  | .samePCIeRoot => .ok ([], some "pcieRoot")
  | .fabricClique => .ok (fabricSelectors spec, some "fabricGroup")
  | .bestEffort => .ok ([], none)
  | .fabricConnected => .error .fabricConnected
  | .other text => .error (.topologyMode (.other text))

def resourceClaimTemplateForPolicy [FloatConversion] :
    Option AcceleratorPlacementPolicy → Except TemplateError ResourceClaimTemplate
  | none => .error .draRequired
  | some policy =>
      match policy.spec.dra with
      | none => .error .draRequired
      | some dra =>
          if dra.deviceCount < 1 then .error .deviceCount
          else if policy.spec.allowUnknownTopology then .error .unknownTopology
          else match modeSelection policy.spec with
            | .error e => .error e
            | .ok (selectors, matchAttribute) => .ok {
                apiVersion := "resource.k8s.io/v1"
                kind := "ResourceClaimTemplate"
                name := policy.name
                namespaceName := policy.namespaceName
                labels := literal [(managedByLabel, managedByValue), (policyLabel, policy.name)]
                ownerReferences := [⟨"scheduling.bupt.dev/v1alpha1", "AcceleratorPlacementPolicy",
                  policy.name, policy.uid, true, true⟩]
                claimLabels := literal [(policyLabel, policy.name)]
                requestName := requestName
                deviceClassName := deviceClassName
                selectors := deviceSelectors policy.spec ++ selectors
                allocationMode := "ExactCount"
                count := dra.deviceCount
                constraints := match matchAttribute with
                  | none => []
                  | some name => [⟨[requestName], ⟨driverName, name⟩⟩] }

theorem template_fields [FloatConversion] {policy : AcceleratorPlacementPolicy}
    {template : ResourceClaimTemplate}
    (h : resourceClaimTemplateForPolicy (some policy) = .ok template) :
    ∃ dra selectors matchAttribute, policy.spec.dra = some dra ∧
      policy.spec.allowUnknownTopology = false ∧
      modeSelection policy.spec = .ok (selectors, matchAttribute) ∧
      template.labels = literal [(managedByLabel, managedByValue), (policyLabel, policy.name)] ∧
      template.ownerReferences = [⟨"scheduling.bupt.dev/v1alpha1", "AcceleratorPlacementPolicy",
        policy.name, policy.uid, true, true⟩] ∧
      template.selectors = deviceSelectors policy.spec ++ selectors ∧
      template.constraints = (match matchAttribute with
        | none => []
        | some name => [⟨[requestName], ⟨driverName, name⟩⟩]) := by
  unfold resourceClaimTemplateForPolicy at h
  simp only at h
  cases hdra : policy.spec.dra with
  | none => rw [hdra] at h; cases h
  | some dra =>
      rw [hdra] at h
      simp only at h
      split_ifs at h with hcount hunknown
      cases hmode : modeSelection policy.spec with
      | error e => rw [hmode] at h; cases h
      | ok selection =>
          obtain ⟨selectors, matchAttribute⟩ := selection
          rw [hmode] at h
          cases h
          exact ⟨dra, selectors, matchAttribute, rfl, by simpa using hunknown, rfl, rfl, rfl, rfl,
            rfl⟩

theorem template_cases [FloatConversion] {policy : AcceleratorPlacementPolicy}
    {template : ResourceClaimTemplate}
    (h : resourceClaimTemplateForPolicy (some policy) = .ok template) :
    policy.spec.allowUnknownTopology = false ∧ ∃ selectors matchAttribute,
      modeSelection policy.spec = .ok (selectors, matchAttribute) ∧
      template.selectors = deviceSelectors policy.spec ++ selectors ∧
      template.constraints = (match matchAttribute with
        | none => []
        | some name => [⟨[requestName], ⟨driverName, name⟩⟩]) := by
  obtain ⟨_, selectors, matchAttribute, _, hknown, hmode, _, _, hselectors, hconstraints⟩ :=
    template_fields h
  exact ⟨hknown, selectors, matchAttribute, hmode, hselectors, hconstraints⟩

theorem count_of_template [FloatConversion] {policy : AcceleratorPlacementPolicy}
    {template : ResourceClaimTemplate}
    (h : resourceClaimTemplateForPolicy (some policy) = .ok template) :
    ∃ dra, policy.spec.dra = some dra ∧ template.count = dra.deviceCount ∧ 1 ≤ dra.deviceCount := by
  unfold resourceClaimTemplateForPolicy at h
  simp only at h
  split at h
  · cases h
  · rename_i dra hdra
    split_ifs at h with hcount
    split at h
    · cases h
    · cases h
      exact ⟨dra, hdra, rfl, not_lt.mp hcount⟩

theorem selectors_of_modeSelection [FloatConversion] {spec : AcceleratorPlacementPolicySpec}
    {selectors : List CelSelector} {matchAttribute : Option String}
    (h : modeSelection spec = .ok (selectors, matchAttribute)) :
    (spec.topologyMode = .fabricClique →
      selectors = fabricSelectors spec ∧ matchAttribute = some "fabricGroup") ∧
    (spec.topologyMode ≠ .fabricClique → selectors = []) := by
  unfold modeSelection at h
  cases hmode : spec.topologyMode with
  | fabricClique => rw [hmode] at h; cases h; simp
  | singleNUMA => rw [hmode] at h; cases h; simp
  | samePCIeRoot => rw [hmode] at h; cases h; simp
  | bestEffort => rw [hmode] at h; cases h; simp
  | fabricConnected => rw [hmode] at h; cases h
  | other text => rw [hmode] at h; cases h

/-! ### Allocation -/

/-- All devices carry the attribute, with the same value. -/
def DeviceConstraint.Satisfied (c : DeviceConstraint) (set : List Device) : Prop :=
  c.matchAttribute.domain = driverName ∧
    ∃ value, ∀ d ∈ set, d.attributes.lookup c.matchAttribute.name = some value

section allocation

variable [Kube] [FloatConversion]

/-- The devices `ResourcesForTopology` publishes. -/
def published (object : AcceleratorTopology) : List Device :=
  match resourcesForTopology (some object) with
  | .error _ => []
  | .ok resources => (resources.lookup object.spec.nodeName).getD []

/-- The set of devices could be allocated to a claim of the template. -/
structure Allocatable (object : AcceleratorTopology) (template : ResourceClaimTemplate)
    (set : List Device) : Prop where
  published : ∀ d ∈ set, d ∈ published object
  distinct : (set.map (·.name)).Nodup
  count : (set.length : ℤ) = template.count
  selected : ∀ d ∈ set, evalSelectors d template.selectors = some true
  matched : ∀ c ∈ template.constraints, c.Satisfied set

theorem published_eq {object : AcceleratorTopology} (ha : Accepted object.spec) :
    published object = object.spec.devices.map (publish object.spec) := by
  obtain ⟨snapshot, hs⟩ := (build_isOk_iff object.spec).mpr ha
  unfold published resourcesForTopology
  simp only [hs]
  rw [Finmap.lookup_singleton_eq]
  rfl

end allocation

/-! ### Evaluation on published devices -/

section evaluation

variable [FloatConversion]

/-- What the selectors for health, vendor, product and memory ask of a device. -/
def Selects (spec : AcceleratorPlacementPolicySpec) (d : AcceleratorDevice) : Prop :=
  d.health.text = "Healthy" ∧
  (spec.vendor ≠ .unset ∧ spec.vendor ≠ .any → d.vendor.text = spec.vendor.text) ∧
  (0 < spec.products.length → d.product ∈ spec.products) ∧
  (0 < spec.minimumMemoryMiB → spec.minimumMemoryMiB ≤ d.memoryMiB)

/-- Each of them has a result on a published device, and all are true on the devices they ask
for. -/
theorem eval_deviceSelectors (topology : AcceleratorTopologySpec)
    (spec : AcceleratorPlacementPolicySpec) (d : AcceleratorDevice) :
    (∀ s ∈ deviceSelectors spec, s.eval (publish topology d) ≠ none) ∧
      ((∀ s ∈ deviceSelectors spec, s.eval (publish topology d) = some true) ↔
        Selects spec d) := by
  obtain ⟨hhealth, hvendor, hproduct, hmemory, _⟩ := lookup_attributesOf topology d
  have h1 : readString (publish topology d) "health" = some d.health.text := by
    simp [readString, publish, hhealth]
  have h2 : readString (publish topology d) "vendor" = some d.vendor.text := by
    simp [readString, publish, hvendor]
  have h3 : readString (publish topology d) "product" = some d.product := by
    simp [readString, publish, hproduct]
  have h4 : readInt (publish topology d) "memoryMiB" = some d.memoryMiB := by
    simp [readInt, publish, hmemory]
  unfold deviceSelectors Selects
  constructor
  · simp only [List.forall_mem_append, List.forall_mem_singleton, CelSelector.eval, h1, and_assoc]
    refine ⟨by simp, ?_, ?_, ?_⟩
    · split_ifs <;> simp [h2]
    · split_ifs <;> simp [h3]
    · split_ifs <;> simp [h4]
  · simp only [List.forall_mem_append, List.forall_mem_singleton, CelSelector.eval, h1, and_assoc]
    refine and_congr (by simp) (and_congr ?_ (and_congr ?_ ?_))
    · split_ifs with h <;> simp [h2, h]
    · split_ifs with h <;> simp [h3, h]
    · split_ifs with h <;> simp [h4, h]

theorem readInt_fabric (topology : AcceleratorTopologySpec) (d : AcceleratorDevice) :
    readInt (publish topology d) "fabricBandwidthGBps" =
      (if (factsAt (fabricByID topology) d.id).found then
        some (FloatConversion.toInt64 ⌊(factsAt (fabricByID topology) d.id).minBandwidth⌋)
      else none) ∧
    readInt (publish topology d) "fabricHops" =
      (if (factsAt (fabricByID topology) d.id).found then
        some (factsAt (fabricByID topology) d.id).maxHops
      else none) := by
  obtain ⟨_, _, _, _, _, hbandwidth, hhops⟩ := lookup_attributesOf topology d
  unfold readInt publish
  simp only [hbandwidth, hhops]
  split_ifs <;> exact ⟨rfl, rfl⟩

theorem evalSelectors_fabricSelectors_eq_none_iff (topology : AcceleratorTopologySpec)
    (spec : AcceleratorPlacementPolicySpec) (d : AcceleratorDevice) :
    evalSelectors (publish topology d) (fabricSelectors spec) = none ↔
      (factsAt (fabricByID topology) d.id).found = false := by
  obtain ⟨hbandwidth, hhops⟩ := readInt_fabric topology d
  unfold fabricSelectors
  cases hfound : (factsAt (fabricByID topology) d.id).found with
  | false =>
      rw [hfound] at hbandwidth hhops
      split_ifs <;> simp_all [evalSelectors, CelSelector.eval]
  | true =>
      rw [hfound] at hbandwidth hhops
      have htotal : ∀ s ∈ fabricSelectors spec, s.eval (publish topology d) ≠ none := by
        unfold fabricSelectors
        rw [List.forall_mem_append, List.forall_mem_singleton]
        constructor
        · split_ifs <;> simp [CelSelector.eval, hbandwidth]
        · simp [CelSelector.eval, hhops]
      have h := evalSelectors_append_eq_none_iff (publish topology d) [] _ htotal
      rw [List.append_nil] at h
      unfold fabricSelectors at h
      rw [h]
      simp [evalSelectors]

end evaluation

/-! ### Errors during allocation -/

section aborts

variable [Kube] [FloatConversion]

/-- Evaluating the template's selectors on a published device never runs into an error. -/
def NeverAborts (object : AcceleratorTopology) (template : ResourceClaimTemplate) : Prop :=
  ∀ d ∈ published object, evalSelectors d template.selectors ≠ none

/-- **When the selectors cannot abort an allocation**: in every mode but fabric-clique, and in
fabric-clique mode exactly if each device that the other selectors admit has a healthy link of
another type than PCIe to a device of its own fabric group. -/
theorem never_aborts_iff (object : AcceleratorTopology) (policy : AcceleratorPlacementPolicy)
    (template : ResourceClaimTemplate) (hbuild : ∃ snapshot, build object.spec = .ok snapshot)
    (htemplate : resourceClaimTemplateForPolicy (some policy) = .ok template) :
    NeverAborts object template ↔ (policy.spec.topologyMode = .fabricClique →
      ∀ d ∈ object.spec.devices, Selects policy.spec d → groupLinks object.spec d.id ≠ []) := by
  have ha := (build_isOk_iff object.spec).mp hbuild
  obtain ⟨_, selectors, matchAttribute, hmode, hselectors, _⟩ := template_cases htemplate
  have hdevice : ∀ d, evalSelectors (publish object.spec d) template.selectors = none ↔
      Selects policy.spec d ∧ evalSelectors (publish object.spec d) selectors = none := by
    intro d
    obtain ⟨htotal, hselects⟩ := eval_deviceSelectors object.spec policy.spec d
    rw [hselectors, evalSelectors_append_eq_none_iff _ _ _ htotal, hselects]
  unfold NeverAborts
  rw [published_eq ha, List.forall_mem_map]
  by_cases hclique : policy.spec.topologyMode = .fabricClique
  · have hfabric := ((selectors_of_modeSelection hmode).1 hclique).1
    have hone : ∀ d, evalSelectors (publish object.spec d) template.selectors ≠ none ↔
        (Selects policy.spec d → groupLinks object.spec d.id ≠ []) := by
      intro d
      rw [Ne, hdevice, hfabric, evalSelectors_fabricSelectors_eq_none_iff,
        ← (factsAt_fabricByID ha d.id).1, not_and, Bool.not_eq_false]
    constructor
    · intro h _ d hd
      exact (hone d).mp (h d hd)
    · intro h d hd
      exact (hone d).mpr (h hclique d hd)
  · have hnone := (selectors_of_modeSelection hmode).2 hclique
    constructor
    · exact fun _ h => absurd h hclique
    · intro _ d _ herror
      rw [hdevice, hnone] at herror
      cases herror.2

end aborts

/-- A policy object for DRA with the given device count. -/
def samplePolicyObject (mode : TopologyMode) (deviceCount : ℤ) : AcceleratorPlacementPolicy where
  name := "policy"
  namespaceName := "team-a"
  uid := "1"
  spec := { samplePolicy mode .failClosed with dra := some ⟨deviceCount⟩ }

/-- A topology of devices of one fabric group, joined by single-hop links. -/
def sampleFabric (ids : List String) (links : List (String × String)) : AcceleratorTopology :=
  sampleTopology 1 (sampleSpec (ids.map fun id => { sampleDevice id with fabricGroup := "g0" })
    (links.map fun l => ⟨l.1, l.2, .nvlink, 400, 1, .healthy⟩))

/-- Two linked devices. -/
def linkedPair : AcceleratorTopology := sampleFabric ["gpu0", "gpu1"] [("gpu0", "gpu1")]

/-- Three devices in a row, `gpu0 - gpu1 - gpu2`. -/
def linkedPath : AcceleratorTopology :=
  sampleFabric ["gpu0", "gpu1", "gpu2"] [("gpu0", "gpu1"), ("gpu1", "gpu2")]

theorem never_aborts_on_linked_pair :
    let : Kube := sampleKube
    let : FloatConversion := amd64
    ∃ template, resourceClaimTemplateForPolicy (some (samplePolicyObject .fabricClique 2)) =
        .ok template ∧
      NeverAborts linkedPair template := by
  intro kube conversion
  have hlinked : ∀ d ∈ linkedPair.spec.devices, groupLinks linkedPair.spec d.id ≠ [] := by
    decide +kernel
  exact ⟨_, rfl, (never_aborts_iff linkedPair (samplePolicyObject .fabricClique 2) _ ⟨_, rfl⟩
    rfl).mpr fun _ d hd _ => hlinked d hd⟩

/-- A fabric-clique template reads `fabricHops`, which a healthy device without links does not
carry. -/
theorem selectors_abort_on_unlinked_device :
    ¬ ∀ (_ : Kube) (_ : FloatConversion) (object : AcceleratorTopology)
      (policy : AcceleratorPlacementPolicy) (template : ResourceClaimTemplate),
        (∃ snapshot, build object.spec = .ok snapshot) →
        resourceClaimTemplateForPolicy (some policy) = .ok template →
          NeverAborts object template := by
  intro h
  let : Kube := sampleKube
  let : FloatConversion := amd64
  have hnever := h sampleKube amd64 (sampleFabric ["gpu0"] []) (samplePolicyObject .fabricClique 1)
    _ ⟨_, rfl⟩ rfl
  revert hnever
  unfold NeverAborts
  decide +kernel

/-! ### Cliques -/

section cliques

/-- The link joins the two devices, in either direction. -/
def Joins (l : AcceleratorLink) (a b : String) : Prop :=
  (l.source = a ∧ l.target = b) ∨ (l.source = b ∧ l.target = a)

instance (l : AcceleratorLink) (a b : String) : Decidable (Joins l a b) :=
  inferInstanceAs (Decidable (_ ∨ _))

/-- Every two devices of the set are joined by a link that satisfies `p`. -/
def PairwiseJoined (object : AcceleratorTopology) (p : AcceleratorLink → Prop)
    (set : List Device) : Prop :=
  ∀ a ∈ set, ∀ b ∈ set, a.name ≠ b.name → ∃ l ∈ object.spec.links, Joins l a.name b.name ∧ p l

/-- A healthy link of another type than PCIe; where the policy's minimum bandwidth does not fit
an `int64`, the link also reaches it. -/
def HealthyFabric (spec : AcceleratorPlacementPolicySpec) (l : AcceleratorLink) : Prop :=
  l.type ≠ .pcie ∧ l.health = .healthy ∧
    (2 ^ 63 ≤ ⌈spec.minimumLinkBandwidthGBps⌉ → spec.minimumLinkBandwidthGBps ≤ l.bandwidthGBps)

theorem qualifiesFabricLink_of_known_iff {spec : AcceleratorPlacementPolicySpec}
    (hknown : spec.allowUnknownTopology = false) (l : AcceleratorLink) :
    qualifiesFabricLink l spec = true ↔ l.type ≠ .pcie ∧ l.health = .healthy ∧
      spec.minimumLinkBandwidthGBps ≤ l.bandwidthGBps ∧ l.hops ≤ spec.maxFabricHops := by
  rw [qualifiesFabricLink_iff, hknown]
  simp

/-- The integer comparison of a rounded minimum with a rounded bandwidth implies the exact one,
as long as the minimum fits. -/
theorem le_of_toInt64_le [FloatConversion] {minimum bandwidth : ℚ} (hpos : 0 < minimum)
    (hnonneg : 0 ≤ bandwidth) (hfits : ⌈minimum⌉ < 2 ^ 63)
    (h : FloatConversion.toInt64 ⌈minimum⌉ ≤ FloatConversion.toInt64 ⌊bandwidth⌋) :
    minimum ≤ bandwidth := by
  have hceil : (0 : ℤ) < ⌈minimum⌉ := Int.ceil_pos.mpr hpos
  have hfloor : (0 : ℤ) ≤ ⌊bandwidth⌋ := Int.floor_nonneg.mpr hnonneg
  have hint : ⌈minimum⌉ ≤ ⌊bandwidth⌋ := by
    rcases lt_or_ge ⌊bandwidth⌋ (2 ^ 63) with hlt | hge
    · rw [FloatConversion.toInt64_of_mem _ (by omega) hfits,
        FloatConversion.toInt64_of_mem _ (by omega) hlt] at h
      exact h
    · exact hfits.le.trans hge
  calc minimum ≤ (⌈minimum⌉ : ℚ) := Int.le_ceil minimum
    _ ≤ (⌊bandwidth⌋ : ℚ) := by exact_mod_cast hint
    _ ≤ bandwidth := Int.floor_le bandwidth

variable [Kube] [FloatConversion]

theorem groupLink_of_fabricSelectors {topology : AcceleratorTopologySpec} (ha : Accepted topology)
    {spec : AcceleratorPlacementPolicySpec} {d : AcceleratorDevice}
    (hpass : ∀ s ∈ fabricSelectors spec, s.eval (publish topology d) = some true)
    {l : AcceleratorLink} (hl : l ∈ groupLinks topology d.id) :
    l.hops ≤ spec.maxFabricHops ∧ (⌈spec.minimumLinkBandwidthGBps⌉ < 2 ^ 63 →
      spec.minimumLinkBandwidthGBps ≤ l.bandwidthGBps) := by
  obtain ⟨_, hcovers, hnonneg⟩ := factsAt_fabricByID ha d.id
  have hbound := hcovers l hl
  obtain ⟨hbandwidth, hhops⟩ := readInt_fabric topology d
  rw [if_pos hbound.found] at hbandwidth hhops
  unfold fabricSelectors at hpass
  rw [List.forall_mem_append, List.forall_mem_singleton] at hpass
  obtain ⟨hminimum, hmaximum⟩ := hpass
  simp only [CelSelector.eval, hhops, Option.map_some, Option.some.injEq,
    decide_eq_true_eq] at hmaximum
  refine ⟨hbound.hops.trans hmaximum, ?_⟩
  intro hfits
  rcases lt_or_ge 0 spec.minimumLinkBandwidthGBps with hpos | hle
  · rw [if_pos hpos, List.forall_mem_singleton] at hminimum
    simp only [CelSelector.eval, hbandwidth, Option.map_some, Option.some.injEq,
      decide_eq_true_eq] at hminimum
    exact (le_of_toInt64_le hpos hnonneg hfits hminimum).trans hbound.bandwidth
  · exact hle.trans (hnonneg.trans hbound.bandwidth)

theorem exists_fabricGroup {object : AcceleratorTopology} (ha : Accepted object.spec)
    {set : List Device} (hpublished : ∀ a ∈ set, a ∈ published object)
    (hmatched : DeviceConstraint.Satisfied ⟨[requestName], ⟨driverName, "fabricGroup"⟩⟩ set) :
    ∃ group, ∀ a ∈ set, ∃ d ∈ object.spec.devices, a = publish object.spec d ∧
      d.fabricGroup ≠ "" ∧ d.fabricGroup = group := by
  obtain ⟨_, value, hvalue⟩ := hmatched
  have hsource : ∀ a ∈ set, ∃ d ∈ object.spec.devices, a = publish object.spec d ∧
      d.fabricGroup ≠ "" ∧ value = .string d.fabricGroup := by
    intro a haset
    have hpub := hpublished a haset
    rw [published_eq ha] at hpub
    obtain ⟨d, hd, rfl⟩ := List.mem_map.mp hpub
    have hgroup := hvalue _ haset
    obtain ⟨_, _, _, _, hlook, _⟩ := lookup_attributesOf object.spec d
    simp only [publish] at hgroup
    rw [hlook] at hgroup
    split_ifs at hgroup with hne
    exact ⟨d, hd, rfl, hne, (Option.some.inj hgroup).symm⟩
  cases value with
  | string group =>
      refine ⟨group, ?_⟩
      intro a haset
      obtain ⟨d, hd, rfl, hne, hvalue⟩ := hsource a haset
      exact ⟨d, hd, rfl, hne, (AttributeValue.string.inj hvalue).symm⟩
  | int n =>
      refine ⟨"", ?_⟩
      intro a haset
      obtain ⟨_, _, _, _, hvalue⟩ := hsource a haset
      cases hvalue

omit [FloatConversion] in
theorem mem_groupLinks_of_joins {spec : AcceleratorTopologySpec} (ha : Accepted spec)
    {x y : AcceleratorDevice} (hx : x ∈ spec.devices) (hy : y ∈ spec.devices)
    (hgroup : x.fabricGroup ≠ "") (hsame : x.fabricGroup = y.fabricGroup) {l : AcceleratorLink}
    (hl : l ∈ spec.links) (hjoin : Joins l x.id y.id) (htype : l.type ≠ .pcie)
    (hhealth : l.health = .healthy) : l ∈ groupLinks spec x.id := by
  have hgx := groupOf_deviceByID ha hx
  have hgy := groupOf_deviceByID ha hy
  rw [mem_groupLinks]
  refine ⟨hl, ?_⟩
  rcases hjoin with ⟨hs, ht⟩ | ⟨hs, ht⟩
  · refine ⟨⟨htype, hhealth, ?_, ?_⟩, .inl hs.symm⟩
    · rw [hs, hgx]
      exact hgroup
    · rw [hs, ht, hgx, hgy, hsame]
  · refine ⟨⟨htype, hhealth, ?_, ?_⟩, .inr ht.symm⟩
    · rw [hs, hgy, ← hsame]
      exact hgroup
    · rw [hs, ht, hgx, hgy, hsame]

/-- **When fabric-clique mode is translated soundly.**  For a valid topology and a set of
published devices that the template of a fabric-clique policy admits: every two of them have a
link that qualifies for the scheduler exactly if every two are joined by a healthy fabric link
(one that reaches the minimum bandwidth where that does not fit an `int64`). -/
theorem clique_sound_iff (object : AcceleratorTopology) (policy : AcceleratorPlacementPolicy)
    (template : ResourceClaimTemplate) (set : List Device)
    (hbuild : ∃ snapshot, build object.spec = .ok snapshot)
    (hmode : policy.spec.topologyMode = .fabricClique)
    (htemplate : resourceClaimTemplateForPolicy (some policy) = .ok template)
    (hset : Allocatable object template set) :
    PairwiseJoined object (fun l => qualifiesFabricLink l policy.spec = true) set ↔
      PairwiseJoined object (HealthyFabric policy.spec) set := by
  have ha := (build_isOk_iff object.spec).mp hbuild
  obtain ⟨hknown, selectors, matchAttribute, hsel, hselectors, hconstraints⟩ :=
    template_cases htemplate
  obtain ⟨rfl, rfl⟩ := (selectors_of_modeSelection hsel).1 hmode
  constructor
  · intro h a haset b hbset hab
    obtain ⟨l, hl, hjoin, hq⟩ := h a haset b hbset hab
    obtain ⟨h1, h2, h3, _⟩ := (qualifiesFabricLink_of_known_iff hknown l).mp hq
    exact ⟨l, hl, hjoin, h1, h2, fun _ => h3⟩
  · intro h a haset b hbset hab
    obtain ⟨l, hl, hjoin, h1, h2, h3⟩ := h a haset b hbset hab
    obtain ⟨group, hsource⟩ := exists_fabricGroup ha hset.published (hset.matched _ (by
      rw [hconstraints]
      exact List.mem_singleton.mpr rfl))
    obtain ⟨x, hx, rfl, hne, hgx⟩ := hsource a haset
    obtain ⟨y, hy, rfl, _, hgy⟩ := hsource b hbset
    have hmem : l ∈ groupLinks object.spec x.id :=
      mem_groupLinks_of_joins ha hx hy hne (hgx.trans hgy.symm) hl hjoin h1 h2
    have hpass : ∀ s ∈ fabricSelectors policy.spec, s.eval (publish object.spec x) = some true := by
      have hall := hset.selected _ haset
      rw [hselectors, evalSelectors_eq_true_iff] at hall
      exact fun s hs => hall s (List.mem_append_right _ hs)
    obtain ⟨hhops, hbandwidth⟩ := groupLink_of_fabricSelectors ha hpass hmem
    refine ⟨l, hl, hjoin, (qualifiesFabricLink_of_known_iff hknown l).mpr ⟨h1, h2, ?_, hhops⟩⟩
    rcases lt_or_ge ⌈policy.spec.minimumLinkBandwidthGBps⌉ (2 ^ 63) with hlt | hge
    · exact hbandwidth hlt
    · exact h3 hge

end cliques

theorem clique_sound_on_linked_pair :
    let : Kube := sampleKube
    let : FloatConversion := amd64
    PairwiseJoined linkedPair (fun l => qualifiesFabricLink l
      (samplePolicyObject .fabricClique 2).spec = true) (published linkedPair) := by
  intro kube conversion
  obtain ⟨template, htemplate⟩ : ∃ template, resourceClaimTemplateForPolicy
      (some (samplePolicyObject .fabricClique 2)) = .ok template := ⟨_, rfl⟩
  have hset : Allocatable linkedPair template (published linkedPair) := by
    cases htemplate
    refine ⟨fun _ h => h, by decide +kernel, by decide +kernel, by decide +kernel, ?_⟩
    intro c hc
    obtain rfl := List.mem_singleton.mp hc
    exact ⟨rfl, .string "g0", by decide +kernel⟩
  refine (clique_sound_iff linkedPair (samplePolicyObject .fabricClique 2) template
    (published linkedPair) ⟨_, rfl⟩ rfl htemplate hset).mpr ?_
  unfold PairwiseJoined HealthyFabric
  decide +kernel

/-- A path is a fabric group: a claim for three devices is given all of it, although no link
joins the ends. -/
theorem clique_template_admits_path :
    ¬ ∀ (_ : Kube) (_ : FloatConversion) (object : AcceleratorTopology)
      (policy : AcceleratorPlacementPolicy) (template : ResourceClaimTemplate) (set : List Device),
        (∃ snapshot, build object.spec = .ok snapshot) → validatePolicy policy.spec = none →
        policy.spec.topologyMode = .fabricClique →
        resourceClaimTemplateForPolicy (some policy) = .ok template →
        Allocatable object template set →
          PairwiseJoined object (fun l => qualifiesFabricLink l policy.spec = true) set := by
  intro h
  let : Kube := sampleKube
  let : FloatConversion := amd64
  obtain ⟨template, htemplate⟩ : ∃ template, resourceClaimTemplateForPolicy
      (some (samplePolicyObject .fabricClique 3)) = .ok template := ⟨_, rfl⟩
  have hset : Allocatable linkedPath template (published linkedPath) := by
    cases htemplate
    refine ⟨fun _ h => h, by decide +kernel, by decide +kernel, by decide +kernel, ?_⟩
    intro c hc
    obtain rfl := List.mem_singleton.mp hc
    exact ⟨rfl, .string "g0", by decide +kernel⟩
  have hapart : ¬ PairwiseJoined linkedPath (fun l => qualifiesFabricLink l
      (samplePolicyObject .fabricClique 3).spec = true) (published linkedPath) := by
    unfold PairwiseJoined
    decide +kernel
  exact hapart (h sampleKube amd64 linkedPath _ template _ ⟨_, rfl⟩ (by decide) rfl htemplate hset)

end AcceleratorFabric.PolicyController
