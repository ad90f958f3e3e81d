import AcceleratorFabric.Providers
import AcceleratorFabric.LinkKeys

/-! # Discovered inventories

What `NVIDIAProvider` guarantees about a node whose two outputs it could read: the devices are
`gpu0`, `gpu1`, … in order, and every pair of them has one link.  That covers all checks of
`Build` but two: nothing keeps a product from being blank or a memory size from being negative.

`discovered_accepted_iff`: when `Build` accepts a discovered topology, by the records of the
query's output. -/

namespace AcceleratorFabric.Discovery

open GoText GoScan AcceleratorFabric.Topology

/-! ### Device IDs -/

theorem toList_gpuId (index : ℕ) :
    (gpuId index).toList = 'g' :: 'p' :: 'u' :: Nat.toDigits 10 index := by
  simp [gpuId, formatInt]

theorem gpuId_injective {i j : ℕ} (h : gpuId i = gpuId j) : i = j := by
  have hformat : formatInt i = formatInt j := by simpa [gpuId] using h
  exact Int.ofNat_inj.mp (formatInt_injective hformat)

theorem gpuId_ne_empty (index : ℕ) : gpuId index ≠ "" := by
  intro h
  have := congrArg String.toList h
  rw [toList_gpuId] at this
  cases this

theorem nul_not_mem_gpuId (index : ℕ) : nul ∉ (gpuId index).toList := by
  rw [toList_gpuId]
  intro h
  rcases List.mem_cons.mp h with h | h
  · exact absurd h (by decide)
  rcases List.mem_cons.mp h with h | h
  · exact absurd h (by decide)
  rcases List.mem_cons.mp h with h | h
  · exact absurd h (by decide)
  · exact absurd (Nat.isDigit_of_mem_toDigits (by decide) (by decide) h) (by decide)

/-! ### Devices -/

/-- What the inventory says of every device, apart from its product and memory. -/
structure Inventoried (device : AcceleratorDevice) : Prop where
  vendor_eq : device.vendor = .nvidia
  resourceName_eq : device.resourceName = "nvidia.com/gpu"
  numaNode_eq : device.numaNode = none
  health_eq : device.health = .unknown

/-- Devices numbered from zero. -/
structure IsInventory (devices : List AcceleratorDevice) : Prop where
  ids : devices.map (·.id) = (List.range devices.length).map gpuId
  inventoried : ∀ d ∈ devices, Inventoried d

/-- The product and the memory of a device are in these two fields of its record. -/
structure Describes (record : List String) (device : AcceleratorDevice) : Prop where
  product_eq : device.product = trimSpace (record.getD 2 "")
  memory_eq : parseInt64 (trimSpace (record.getD 3 "")) = .ok device.memoryMiB

theorem parseRecord_spec {devices : List AcceleratorDevice} {record : List String}
    {device : AcceleratorDevice} (h : parseRecord devices record = .ok device) :
    device.id = gpuId devices.length ∧ Inventoried device ∧ Describes record device := by
  unfold parseRecord at h
  split at h
  · split_ifs at h
    split at h
    · cases h
    · rename_i hmemory
      cases h
      exact ⟨rfl, ⟨rfl, rfl, rfl, rfl⟩, rfl, hmemory⟩
  · cases h

theorem IsInventory.append {devices : List AcceleratorDevice} {device : AcceleratorDevice}
    (h : IsInventory devices) (hid : device.id = gpuId devices.length)
    (hdevice : Inventoried device) : IsInventory (devices ++ [device]) where
  ids := by
    rw [List.map_append, h.ids, List.length_append, List.length_singleton, List.range_succ,
      List.map_append, List.map_singleton, List.map_singleton, hid]
  inventoried d hd := by
    rcases List.mem_append.mp hd with hd | hd
    · exact h.inventoried d hd
    · rw [List.mem_singleton.mp hd]
      exact hdevice

theorem parseRecords_spec : ∀ {records : List (List String)}
    {devices result : List AcceleratorDevice}, IsInventory devices →
      parseRecords devices records = .ok result →
        IsInventory result ∧ ∃ added, result = devices ++ added ∧
          List.Forall₂ Describes records added
  | [], devices, result, hdevices, h => by
      rw [← Except.ok.inj h]
      exact ⟨hdevices, [], (List.append_nil devices).symm, .nil⟩
  | record :: records, devices, result, hdevices, h => by
      simp only [parseRecords] at h
      split at h
      · cases h
      · rename_i device hrecord
        obtain ⟨hid, hdevice, hdescribes⟩ := parseRecord_spec hrecord
        obtain ⟨hresult, added, rfl, hadded⟩ := parseRecords_spec (hdevices.append hid hdevice) h
        exact ⟨hresult, device :: added, by simp, .cons hdescribes hadded⟩

theorem parseNVIDIAQuery_spec [Csv] {raw : String} {devices : List AcceleratorDevice}
    (h : parseNVIDIAQuery raw = .ok devices) :
    IsInventory devices ∧ ∃ records, Csv.readAll (trimSpace raw) = .ok records ∧
      List.Forall₂ Describes records devices := by
  unfold parseNVIDIAQuery at h
  split at h
  · cases h
  · cases h
  · rename_i records _ hread
    obtain ⟨hdevices, added, rfl, hadded⟩ :=
      parseRecords_spec ⟨rfl, fun d hd => by cases hd⟩ h
    exact ⟨hdevices, records, hread, hadded⟩

/-- Labels change nothing but the fabric groups. -/
theorem map_labelled {α : Type} {f : AcceleratorDevice → α}
    (hf : ∀ device group, f { device with fabricGroup := group } = f device) :
    ∀ {devices : List AcceleratorDevice} {groups : List String},
      groups.length = devices.length → (labelled devices groups).map f = devices.map f
  | [], _, _ => rfl
  | device :: devices, group :: groups, h => by
      have ih := map_labelled hf (Nat.succ.inj h)
      simp only [labelled, List.zipWith_cons_cons, List.map_cons] at ih ⊢
      rw [ih, hf]

theorem forall_mem_labelled {P : AcceleratorDevice → Prop}
    (hP : ∀ device group, P { device with fabricGroup := group } ↔ P device)
    {devices : List AcceleratorDevice} {groups : List String}
    (hlength : groups.length = devices.length) :
    (∀ d ∈ labelled devices groups, P d) ↔ ∀ d ∈ devices, P d := by
  have hmap := map_labelled (f := P) (fun device group => propext (hP device group)) hlength
  have hall : ∀ l : List AcceleratorDevice, (∀ p ∈ l.map P, p) ↔ ∀ d ∈ l, P d :=
    fun l => List.forall_mem_map (P := fun p => p)
  rw [← hall, hmap, hall]

theorem isInventory_labelled {devices : List AcceleratorDevice} (h : IsInventory devices)
    {groups : List String} (hlength : groups.length = devices.length) :
    IsInventory (labelled devices groups) where
  ids := by rw [length_labelled devices hlength, map_labelled (fun _ _ => rfl) hlength, h.ids]
  inventoried := (forall_mem_labelled (fun _ _ => ⟨fun ⟨h₁, h₂, h₃, h₄⟩ => ⟨h₁, h₂, h₃, h₄⟩,
    fun ⟨h₁, h₂, h₃, h₄⟩ => ⟨h₁, h₂, h₃, h₄⟩⟩) hlength).mpr h.inventoried

section inventory

variable {devices : List AcceleratorDevice} (h : IsInventory devices)

include h

theorem IsInventory.nodup : (devices.map (·.id)).Nodup := by
  rw [h.ids]
  exact List.nodup_range.map fun i j => gpuId_injective

theorem IsInventory.gpuId_mem {index : ℕ} (hindex : index < devices.length) :
    gpuId index ∈ devices.map (·.id) := by
  rw [h.ids]
  exact List.mem_map.mpr ⟨index, List.mem_range.mpr hindex, rfl⟩

theorem IsInventory.exists_gpuId {device : AcceleratorDevice} (hdevice : device ∈ devices) :
    ∃ index, device.id = gpuId index := by
  have hmem : device.id ∈ devices.map (·.id) := List.mem_map.mpr ⟨device, hdevice, rfl⟩
  rw [h.ids] at hmem
  obtain ⟨index, _, hid⟩ := List.mem_map.mp hmem
  exact ⟨index, hid.symm⟩

end inventory

/-- A device of the inventory passes its checks if its product and memory do. -/
theorem validateDevice_inventoried [Kube] (hname : Kube.isQualifiedName "nvidia.com/gpu" = true)
    {device : AcceleratorDevice} (hid : device.id ≠ "") (h : Inventoried device) :
    validateDevice device = none ↔ device.product ≠ "" ∧ 0 ≤ device.memoryMiB := by
  have hslash : "nvidia.com/gpu".toList.contains '/' = true := by decide
  unfold validateDevice
  rw [h.resourceName_eq, h.vendor_eq, h.numaNode_eq, h.health_eq, if_neg hid, hname, hslash]
  by_cases hproduct : device.product = ""
  · simp [hproduct, validVendor]
  · by_cases hmemory : device.memoryMiB < 0
    · simp [hproduct, hmemory, validVendor]
    · simpa [hproduct, hmemory, validVendor, validHealth] using not_lt.mp hmemory

/-! ### Links -/

theorem linkOfCode_spec {code : String} {relation : LinkType × ℤ}
    (h : linkOfCode code = some relation) :
    validLinkType relation.1 = true ∧ 0 ≤ relation.2 := by
  unfold linkOfCode at h
  split_ifs at h <;> cases h <;> exact ⟨rfl, by decide⟩

theorem pairLink_eq_some {rows : GoMap ℕ (List String)} {p : ℕ × ℕ} {link : AcceleratorLink}
    (h : pairLink rows p = some link) :
    ∃ relation, link = relationLink p relation ∧ validLinkType relation.1 = true ∧
      0 ≤ relation.2 := by
  obtain ⟨relation, hcode, rfl⟩ := Option.map_eq_some_iff.mp h
  exact ⟨relation, rfl, linkOfCode_spec hcode⟩

/-- The links of two pairs in order join the same devices only if the pairs are equal. -/
theorem eq_of_sameEnds {p q : ℕ × ℕ} (hp : p.1 < p.2) (hq : q.1 < q.2)
    {relation relation' : LinkType × ℤ}
    (h : SameEnds (relationLink p relation) (relationLink q relation')) : p = q := by
  rcases h with ⟨hsource, htarget⟩ | ⟨hsource, htarget⟩
  · exact Prod.ext (gpuId_injective hsource).symm (gpuId_injective htarget).symm
  · have h₁ := gpuId_injective hsource
    have h₂ := gpuId_injective htarget
    omega

section links

variable {count : ℕ} {rows : GoMap ℕ (List String)} {links : List AcceleratorLink}
  (hlinks : links.map some = (pairsFrom 0 count).map (pairLink rows))

include hlinks

theorem exists_pair_of_mem {link : AcceleratorLink} (hlink : link ∈ links) :
    ∃ p relation, p.1 < p.2 ∧ p.2 < count ∧ link = relationLink p relation ∧
      validLinkType relation.1 = true ∧ 0 ≤ relation.2 := by
  have hmem : some link ∈ links.map some := List.mem_map.mpr ⟨link, hlink, rfl⟩
  rw [hlinks] at hmem
  obtain ⟨p, hp, hpair⟩ := List.mem_map.mp hmem
  obtain ⟨_, hlt, hcount⟩ := mem_pairsFrom.mp hp
  obtain ⟨relation, hrelation⟩ := pairLink_eq_some hpair
  exact ⟨p, relation, hlt, by omega, hrelation⟩

theorem links_pairwise : links.Pairwise fun l m => ¬ (SameEnds l m ∧ l.type = m.type) := by
  have hpairs : ((pairsFrom 0 count).map (pairLink rows)).Pairwise fun a b =>
      ∀ l m, a = some l → b = some m → ¬ (SameEnds l m ∧ l.type = m.type) := by
    refine List.pairwise_map.mpr (List.Pairwise.imp_of_mem ?_ (nodup_pairsFrom 0 count))
    rintro p q hp hq hne l m hl hm ⟨hends, _⟩
    obtain ⟨_, rfl, _⟩ := pairLink_eq_some hl
    obtain ⟨_, rfl, _⟩ := pairLink_eq_some hm
    exact hne (eq_of_sameEnds (mem_pairsFrom.mp hp).2.1 (mem_pairsFrom.mp hq).2.1 hends)
  rw [← hlinks, List.pairwise_map] at hpairs
  exact hpairs.imp fun h => h _ _ rfl rfl

end links

theorem linkOk_relationLink {spec : AcceleratorTopologySpec} (h : IsInventory spec.devices)
    {p : ℕ × ℕ} (hlt : p.1 < p.2) (hcount : p.2 < spec.devices.length)
    {relation : LinkType × ℤ} (htype : validLinkType relation.1 = true) (hhops : 0 ≤ relation.2) :
    LinkOk spec (relationLink p relation) := by
  refine ⟨fun hself => ?_, h.gpuId_mem (by omega), h.gpuId_mem hcount, htype, le_refl _, hhops, rfl⟩
  have := gpuId_injective hself
  omega

/-! ### Acceptance -/

/-- A record whose third field is not blank and whose fourth one is not negative. -/
def Publishable (record : List String) : Prop :=
  (∃ c ∈ (record.getD 2 "").toList, isSpace c = false) ∧
    ∀ n, parseInt64 (trimSpace (record.getD 3 "")) = .ok n → 0 ≤ n

theorem Describes.publishable_iff {record : List String} {device : AcceleratorDevice}
    (h : Describes record device) :
    Publishable record ↔ device.product ≠ "" ∧ 0 ≤ device.memoryMiB := by
  unfold Publishable
  refine and_congr ?_ ?_
  · rw [h.product_eq, ne_eq, trimSpace_eq_empty_iff]
    simp
  · rw [h.memory_eq]
    exact ⟨fun hn => hn _ rfl, fun hmemory n hn => Except.ok.inj hn ▸ hmemory⟩

theorem forall_publishable_iff {records : List (List String)} {devices : List AcceleratorDevice}
    (h : List.Forall₂ Describes records devices) :
    (∀ record ∈ records, Publishable record) ↔
      ∀ d ∈ devices, d.product ≠ "" ∧ 0 ≤ d.memoryMiB := by
  induction h with
  | nil => simp
  | cons hfirst _ ih => rw [List.forall_mem_cons, List.forall_mem_cons, hfirst.publishable_iff, ih]

/-- The devices and links that a discovered topology has. -/
theorem discoverNVIDIA_spec [Csv] {query topo : Except String String} {nodeName : String}
    {spec : TopologySpec} (h : discoverNVIDIA query topo nodeName = .ok spec) :
    spec.nodeName = nodeName ∧ IsInventory spec.read.devices ∧ spec.read.devices ≠ [] ∧
      ∃ rows, spec.read.links.map some =
        (pairsFrom 0 spec.read.devices.length).map (pairLink rows) := by
  obtain ⟨_, matrix, devices, links, groups, _, _, hquery, htopo, rfl⟩ := discoverNVIDIA_cases h
  obtain ⟨_, _, hlinks, _⟩ := parseNVIDIATopology_eq_ok_iff.mp htopo
  have hlength := length_groups htopo
  have hcount := length_labelled devices hlength
  refine ⟨rfl, isInventory_labelled (parseNVIDIAQuery_spec hquery).1 hlength, ?_,
    matrixRows devices.length matrix, ?_⟩
  · have hpos := parseNVIDIAQuery_length_pos hquery
    show labelled devices groups ≠ []
    exact List.ne_nil_of_length_pos (by omega)
  · show links.map some = (pairsFrom 0 (labelled devices groups).length).map _
    rw [hcount]
    exact hlinks

/-- The records that a discovered topology was read from. -/
theorem exists_records [Csv] {query : String} {topo : Except String String} {nodeName : String}
    {spec : TopologySpec} (h : discoverNVIDIA (.ok query) topo nodeName = .ok spec) :
    ∃ records, Csv.readAll (trimSpace query) = .ok records ∧
      ((∀ record ∈ records, Publishable record) ↔
        ∀ d ∈ spec.read.devices, d.product ≠ "" ∧ 0 ≤ d.memoryMiB) := by
  obtain ⟨_, _, devices, links, groups, ⟨⟩, _, hquery, htopo, rfl⟩ := discoverNVIDIA_cases h
  obtain ⟨_, records, hread, hdescribes⟩ := parseNVIDIAQuery_spec hquery
  refine ⟨records, hread, (forall_publishable_iff hdescribes).trans ?_⟩
  exact (forall_mem_labelled (fun _ _ => Iff.rfl) (length_groups htopo)).symm

theorem accepted_iff_of_discovered [Kube] [Csv]
    (hname : Kube.isQualifiedName "nvidia.com/gpu" = true) {query topo : Except String String}
    {nodeName : String} {spec : TopologySpec}
    (hdiscover : discoverNVIDIA query topo nodeName = .ok spec) (hnode : nodeName ≠ "")
    {generation : ℤ} (hgeneration : 1 ≤ generation) :
    (∃ s, build { spec.read with observedGeneration := generation } = .ok s) ↔
      ∀ d ∈ spec.read.devices, d.product ≠ "" ∧ 0 ≤ d.memoryMiB := by
  obtain ⟨hspec, hdevices, hne, rows, hlinks⟩ := discoverNVIDIA_spec hdiscover
  have hids : ∀ d ∈ spec.read.devices, d.id ≠ "" ∧ nul ∉ d.id.toList := by
    intro d hd
    obtain ⟨index, hid⟩ := hdevices.exists_gpuId hd
    rw [hid]
    exact ⟨gpuId_ne_empty index, nul_not_mem_gpuId index⟩
  have hdevice : ∀ d ∈ spec.read.devices,
      validateDevice d = none ↔ d.product ≠ "" ∧ 0 ≤ d.memoryMiB := fun d hd =>
    validateDevice_inventoried hname (hids d hd).1 (hdevices.inventoried d hd)
  refine Iff.trans (build_accepts_valid_of_no_nul fun d hd => (hids d hd).2) ?_
  constructor
  · exact fun h d hd => (hdevice d hd).mp (h.device_ok d hd)
  · intro h
    refine ⟨?_, hgeneration, hne, fun d hd => (hdevice d hd).mpr (h d hd), hdevices.nodup, ?_,
      links_pairwise hlinks⟩
    · show spec.nodeName ≠ ""
      rw [hspec]
      exact hnode
    · intro l hl
      obtain ⟨p, relation, hlt, hcount, rfl, htype, hhops⟩ := exists_pair_of_mem hlinks hl
      exact linkOk_relationLink hdevices hlt hcount htype hhops

/-- **`Build` accepts a discovered topology** if and only if no record of the inventory has a blank
third field, the product, or a negative fourth one, the memory size. -/
theorem discovered_accepted_iff [Kube] [Csv]
    (hname : Kube.isQualifiedName "nvidia.com/gpu" = true) {query topo nodeName : String}
    {spec : TopologySpec}
    (hdiscover : discoverNVIDIA (.ok query) (.ok topo) nodeName = .ok spec) (hnode : nodeName ≠ "")
    {generation : ℤ} (hgeneration : 1 ≤ generation) :
    ∃ records, Csv.readAll (trimSpace query) = .ok records ∧
      ((∃ s, build { spec.read with observedGeneration := generation } = .ok s) ↔
        ∀ record ∈ records, Publishable record) := by
  obtain ⟨records, hread, hpublishable⟩ := exists_records hdiscover
  exact ⟨records, hread,
    (accepted_iff_of_discovered hname hdiscover hnode hgeneration).trans hpublishable.symm⟩

/-- The topology of a node with one device of the given product. -/
def oneDevice (product : String) : TopologySpec where
  nodeName := "worker"
  observedGeneration := 0
  source := .vendor
  devices := some [⟨"gpu0", .nvidia, product, "nvidia.com/gpu", none, "", "", 81559, .unknown⟩]
  links := some []

theorem oneDevice_accepted :
    let : Kube := sampleKube
    let : Csv := sampleCsv
    discoverNVIDIA (.ok "0, 00000000:17:00.0, H100, 81559\n") (.ok "\tGPU0\nGPU0\t X \n") "worker" =
        .ok (oneDevice "H100") ∧
      ∃ s, build { (oneDevice "H100").read with observedGeneration := 1 } = .ok s := by
  intro _ _
  have hdiscover : discoverNVIDIA (.ok "0, 00000000:17:00.0, H100, 81559\n")
      (.ok "\tGPU0\nGPU0\t X \n") "worker" = .ok (oneDevice "H100") := by decide +kernel
  obtain ⟨records, hread, haccepted⟩ :=
    discovered_accepted_iff (by decide +kernel) hdiscover (by decide) (le_refl (1 : ℤ))
  have hrecords : records = [["0", " 00000000:17:00.0", " H100", " 81559"]] :=
    Except.ok.inj (hread.symm.trans (by decide +kernel))
  refine ⟨hdiscover, haccepted.mpr ?_⟩
  rw [hrecords, List.forall_mem_singleton]
  refine ⟨⟨'H', by decide, by decide⟩, fun n hn => ?_⟩
  have hmemory : parseInt64 (trimSpace " 81559") = .ok 81559 := by decide +kernel
  rw [← Except.ok.inj (hmemory.symm.trans hn)]
  decide

/-- `nvidia-smi` reports a blank product, and `Build` rejects the topology. -/
theorem blank_product_rejected :
    ¬ ∀ (_ : Kube) (_ : Csv) (query topo : String) (nodeName : String) (spec : TopologySpec)
      (generation : ℤ), Kube.isQualifiedName "nvidia.com/gpu" = true →
      discoverNVIDIA (.ok query) (.ok topo) nodeName = .ok spec → nodeName ≠ "" →
      1 ≤ generation → ∃ s, build { spec.read with observedGeneration := generation } = .ok s := by
  intro h
  let : Kube := sampleKube
  let : Csv := sampleCsv
  obtain ⟨s, hs⟩ := h sampleKube sampleCsv "0, 00000000:17:00.0, , 81559\n" "\tGPU0\nGPU0\t X \n"
    "worker" (oneDevice "") 1 (by decide +kernel) (by decide +kernel) (by decide) (by decide)
  obtain ⟨haccepted, _⟩ := (build_eq_ok_iff _ _).mp hs
  exact absurd (haccepted.device_ok _ List.mem_cons_self) (by decide +kernel)

end AcceleratorFabric.Discovery
