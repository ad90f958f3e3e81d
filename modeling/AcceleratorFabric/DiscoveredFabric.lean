import AcceleratorFabric.Inventory
import AcceleratorFabric.LocalityTranslation
import AcceleratorFabric.MatrixText
import AcceleratorFabric.Relaxation
import AcceleratorFabric.SnapshotIndexes

/-! # From the printed matrix to a placement

The whole way of the NVLink relation through the scheduler: `nvidia-smi topo -m` prints it,
`NVIDIAProvider` turns it into links, `Build` indexes them, and the fabric modes search among the
devices that a pod may use.  On this way nothing is known of bandwidth and health, so the answer of
the scheduler depends on the policy in a way that the matrix does not show (`Wired`).

`fabric_from_matrix`: when the fabric modes find devices, read off the printed matrix.
`dra_never_matches`: devices that `nvidia-smi` reports never match a policy with DRA parameters. -/

namespace AcceleratorFabric.Discovery

open GoText GoScan GraphSearch AcceleratorFabric.Topology AcceleratorFabric.TopologyFit
open AcceleratorFabric.PolicyController (Joins)

/-! ### Links of a printed matrix -/

/-- `NVIDIAProvider` made the spec from an inventory and a text that shows the codes. -/
structure ReadFromMatrix [Csv] (code : ℕ → ℕ → PairCode) (spec : TopologySpec) : Prop where
  count_lt : spec.deviceCount < 2 ^ 63
  code_symm : ∀ i < spec.deviceCount, ∀ j < spec.deviceCount, code i j = code j i
  found : ∃ (query nodeName : String) (text : List Line),
    discoverNVIDIA (.ok query) (.ok (renderText text)) nodeName = .ok spec ∧
      ShowsMatrix spec.deviceCount code (text.map Line.words)

section matrix

variable [Csv] {code : ℕ → ℕ → PairCode} {spec : TopologySpec} (h : ReadFromMatrix code spec)

include h

theorem ReadFromMatrix.isInventory : IsInventory spec.read.devices := by
  obtain ⟨_, _, _, hdiscover, _⟩ := h.found
  exact (discoverNVIDIA_spec hdiscover).2.1

/-- One link per pair of devices, with the type and hops of its code. -/
theorem ReadFromMatrix.links_eq : spec.read.links =
    (pairsFrom 0 spec.deviceCount).map fun p => relationLink p (code p.1 p.2).relation := by
  obtain ⟨query, nodeName, text, hdiscover, hshows⟩ := h.found
  have hcount := h.count_lt
  have hsymm := h.code_symm
  obtain ⟨_, _, devices, links, groups, ⟨⟩, ⟨⟩, hquery, htopo, rfl⟩ :=
    discoverNVIDIA_cases hdiscover
  have hlength : TopologySpec.deviceCount
      ⟨nodeName, 0, .vendor, some (labelled devices groups), some links⟩ = devices.length :=
    length_labelled devices (length_groups htopo)
  rw [hlength] at hshows hcount hsymm ⊢
  rw [parseNVIDIATopology_renderText (parseNVIDIAQuery_length_pos hquery) hcount hsymm hshows]
    at htopo
  exact (Prod.mk.inj (Except.ok.inj htopo)).1.symm

end matrix

theorem joins_relationLink {p : ℕ × ℕ} {relation : LinkType × ℤ} {i j : ℕ} :
    Joins (relationLink p relation) (gpuId i) (gpuId j) ↔ p = (i, j) ∨ p = (j, i) := by
  have hid : ∀ a b : ℕ, gpuId a = gpuId b ↔ a = b :=
    fun a b => ⟨gpuId_injective, congrArg gpuId⟩
  obtain ⟨a, b⟩ := p
  simp only [Joins, relationLink, hid, Prod.mk.injEq]

/-- A link of the code passes the policy.  `nvidia-smi` reports neither bandwidth nor health. -/
def Wired (policy : AcceleratorPlacementPolicySpec) (code : PairCode) : Prop :=
  code.isNV = true ∧ policy.allowUnknownTopology = true ∧
    policy.minimumLinkBandwidthGBps ≤ 0 ∧ 1 ≤ policy.maxFabricHops

theorem qualifiesFabricLink_relationLink (policy : AcceleratorPlacementPolicySpec) (p : ℕ × ℕ)
    (code : PairCode) :
    qualifiesFabricLink (relationLink p code.relation) policy = true ↔ Wired policy code := by
  rw [qualifiesFabricLink_iff, Wired]
  cases code with
  | nv suffix => simp [relationLink, PairCode.relation, PairCode.isNV]
  | pix => simp [relationLink, PairCode.relation, PairCode.isNV]
  | pxb => simp [relationLink, PairCode.relation, PairCode.isNV]
  | phb => simp [relationLink, PairCode.relation, PairCode.isNV]
  | node => simp [relationLink, PairCode.relation, PairCode.isNV]
  | sys => simp [relationLink, PairCode.relation, PairCode.isNV]

theorem card_le_of_named {devices : List AcceleratorDevice} {t : Finset String}
    (ht : ∀ x ∈ t, x ∈ devices.map (·.id)) : t.card ≤ devices.length := by
  have hsub : t ⊆ (devices.map (·.id)).toFinset := fun x hx => List.mem_toFinset.mpr (ht x hx)
  calc t.card ≤ (devices.map (·.id)).toFinset.card := Finset.card_le_card hsub
    _ ≤ (devices.map (·.id)).length := List.toFinset_card_le _
    _ = devices.length := List.length_map _

section placement

variable [Kube] [Csv] {code : ℕ → ℕ → PairCode} {spec : TopologySpec} {generation : ℤ}
  {snapshot : Snapshot}

/-- The searches see a link between two devices exactly if their code is one of NVLink and the
policy accepts a link of which no more is known. -/
theorem linked_gpuId_iff (h : ReadFromMatrix code spec)
    (hbuild : build { spec.read with observedGeneration := generation } = .ok snapshot)
    (policy : AcceleratorPlacementPolicySpec) {i j : ℕ} (hi : i < spec.deviceCount)
    (hj : j < spec.deviceCount) (hne : i ≠ j) :
    linked snapshot policy (gpuId i) (gpuId j) = true ↔ Wired policy (code i j) := by
  have hids : gpuId i ≠ gpuId j := fun e => hne (gpuId_injective e)
  have hlinks := h.links_eq
  -- the one pair of the matrix that joins the two devices
  have hcode : ∀ p : ℕ × ℕ, p = (i, j) ∨ p = (j, i) → code p.1 p.2 = code i j := by
    rintro p (rfl | rfl)
    · rfl
    · exact h.code_symm j hj i hi
  have hmem : ∀ l, (l ∈ spec.read.links ∧ Joins l (gpuId i) (gpuId j)) ↔
      ∃ p ∈ pairsFrom 0 spec.deviceCount, (p = (i, j) ∨ p = (j, i)) ∧
        l = relationLink p (code i j).relation := by
    intro l
    rw [hlinks, List.mem_map]
    constructor
    · rintro ⟨⟨p, hp, rfl⟩, hjoins⟩
      have hp' := joins_relationLink.mp hjoins
      exact ⟨p, hp, hp', by rw [hcode p hp']⟩
    · rintro ⟨p, hp, hp', rfl⟩
      exact ⟨⟨p, hp, by rw [hcode p hp']⟩, joins_relationLink.mpr hp'⟩
  rw [linked_iff, linkBetween_qualifies_iff hbuild policy hids]
  constructor
  · rintro ⟨l, hl, hq⟩
    obtain ⟨p, _, _, rfl⟩ := (hmem l).mp ⟨hl.mem, hl.joins⟩
    exact (qualifiesFabricLink_relationLink policy p (code i j)).mp hq
  · intro hwired
    obtain ⟨p, hp, hp'⟩ : ∃ p ∈ pairsFrom 0 spec.deviceCount, p = (i, j) ∨ p = (j, i) := by
      rcases Nat.lt_or_gt_of_ne hne with hlt | hlt
      · exact ⟨(i, j), mem_pairsFrom.mpr ⟨Nat.zero_le _, hlt, by omega⟩, .inl rfl⟩
      · exact ⟨(j, i), mem_pairsFrom.mpr ⟨Nat.zero_le _, hlt, by omega⟩, .inr rfl⟩
    obtain ⟨hl, hjoins⟩ := (hmem _).mpr ⟨p, hp, hp', rfl⟩
    refine ⟨_, ⟨hl, hjoins, fun m hm hjm => ?_⟩,
      (qualifiesFabricLink_relationLink policy p (code i j)).mpr hwired⟩
    obtain ⟨q, _, _, rfl⟩ := (hmem m).mp ⟨hm, hjm⟩
    exact le_refl _

/-! ### Placements -/

/-- The numbers of the devices that the pod may use. -/
def freeIndices (spec : TopologySpec) (data : CycleData) (reserved : Finset String) : Finset ℕ :=
  (Finset.range spec.deviceCount).filter fun i => ∃ d ∈ spec.read.devices,
    d.id = gpuId i ∧ eligible data d = true ∧ d.id ∉ reserved

/-- The devices among which the scheduler searches, under their numbers in the matrix. -/
theorem naming_gpuId (h : ReadFromMatrix code spec)
    (hbuild : build { spec.read with observedGeneration := generation } = .ok snapshot)
    (data : CycleData) (reserved : Finset String) :
    Naming gpuId (linked snapshot data.policy)
      ((excludeReservedDevices (eligibleDevices snapshot data) reserved).map (·.id))
      (fun i j => Wired data.policy (code i j)) (freeIndices spec data reserved) where
  injective _ _ := gpuId_injective
  mem_iff x := by
    have hperm := (build_represents _ _ hbuild).devices_perm
    constructor
    · intro hx
      obtain ⟨d, hd, rfl⟩ := List.mem_map.mp hx
      obtain ⟨hd, hfree⟩ := mem_excludeReservedDevices.mp hd
      obtain ⟨hd, heligible⟩ := List.mem_filter.mp hd
      have hmem := hperm.mem_iff.mp hd
      have hid : d.id ∈ spec.read.devices.map (·.id) := List.mem_map.mpr ⟨d, hmem, rfl⟩
      rw [h.isInventory.ids] at hid
      obtain ⟨i, hi, hid⟩ := List.mem_map.mp hid
      exact ⟨i, Finset.mem_filter.mpr ⟨Finset.mem_range.mpr (List.mem_range.mp hi), d, hmem,
        hid.symm, heligible, hfree⟩, hid⟩
    · rintro ⟨i, hi, rfl⟩
      obtain ⟨_, d, hmem, hid, heligible, hfree⟩ := Finset.mem_filter.mp hi
      refine List.mem_map.mpr ⟨d, mem_excludeReservedDevices.mpr ⟨?_, hfree⟩, hid⟩
      exact List.mem_filter.mpr ⟨hperm.mem_iff.mpr hmem, heligible⟩
  adj_iff i hi j hj hne :=
    linked_gpuId_iff h hbuild data.policy (Finset.mem_range.mp (Finset.mem_filter.mp hi).1)
      (Finset.mem_range.mp (Finset.mem_filter.mp hj).1) hne

/-- **Fabric placements are those of the printed matrix.**  On a node whose matrix `nvidia-smi`
prints, clique mode finds devices for a pod if and only if so many free devices are pairwise joined
by NVLink, and connected mode if and only if so many are reached by NVLink from a free device
through free devices.  An NVLink counts only under a policy that accepts unknown health, asks for no
bandwidth and allows a hop. -/
theorem fabric_from_matrix (h : ReadFromMatrix code spec)
    (hbuild : build { spec.read with observedGeneration := generation } = .ok snapshot)
    (data : CycleData) (reserved : Finset String) (hrequested : 1 ≤ data.requested) :
    (data.policy.topologyMode = .fabricClique →
      (Feasible snapshot data reserved ↔ ∃ s ⊆ freeIndices spec data reserved,
        s.card = data.requested.toNat ∧
          ∀ i ∈ s, ∀ j ∈ s, i ≠ j → Wired data.policy (code i j))) ∧
    (data.policy.topologyMode = .fabricConnected →
      (Feasible snapshot data reserved ↔ ∃ start ∈ freeIndices spec data reserved,
        ∃ s : Finset ℕ, s.card = data.requested.toNat ∧ ∀ i ∈ s, Relation.ReflTransGen
          (Hop (fun i j => Wired data.policy (code i j)) (freeIndices spec data reserved))
            start i)) := by
  have hnaming := naming_gpuId h hbuild data reserved
  have hfeasible : Feasible snapshot data reserved ↔
      1 ≤ data.requested ∧ data.requested ≤
          (excludeReservedDevices (eligibleDevices snapshot data) reserved).length ∧
        HasCombination snapshot (excludeReservedDevices (eligibleDevices snapshot data) reserved)
          data.policy data.requested.toNat :=
    selectDeviceIDs_ne_nil_iff (availableDevices_sublist _ _ _)
  rw [hfeasible, and_iff_right hrequested]
  refine ⟨fun hmode => ?_, fun hmode => ?_⟩
  · rw [← hnaming.exists_clique_iff, HasCombination, hmode]
    constructor
    · rintro ⟨_, t, ht⟩
      exact ⟨t, ht.subset, ht.card_eq, fun a ha b hb hne => linked_iff.mpr (ht.joined a ha b hb hne)⟩
    · rintro ⟨t, ht, hcard, hclique⟩
      have hle := card_le_of_named ht
      exact ⟨by omega, t, ht, hcard, fun a ha b hb hne => linked_iff.mp (hclique a ha b hb hne)⟩
  · rw [← hnaming.exists_reached_iff, HasCombination, hmode]
    refine and_iff_right_of_imp ?_
    rintro ⟨start, hstart, t, hcard, ht⟩
    have hle := card_le_of_named fun x hx => mem_of_reached hstart (ht x hx)
    omega

end placement

/-- The topology of a node with two devices that one NVLink joins. -/
def twoDevices : TopologySpec where
  nodeName := "worker"
  observedGeneration := 0
  source := .vendor
  devices := some [
    ⟨"gpu0", .nvidia, "H100", "nvidia.com/gpu", none, "", "nvlink-clique-0", 81559, .unknown⟩,
    ⟨"gpu1", .nvidia, "H100", "nvidia.com/gpu", none, "", "nvlink-clique-0", 81559, .unknown⟩]
  links := some [⟨"gpu0", "gpu1", .nvlink, 0, 1, .unknown⟩]

/-- A request under a policy that accepts unknown health. -/
def unknownRequest (mode : TopologyMode) (requested : ℤ) : CycleData :=
  { anyVendorRequest mode requested with
    policy := { samplePolicy mode .failClosed with allowUnknownTopology := true } }

theorem twoDevices_read :
    let : Csv := sampleCsv
    ReadFromMatrix (fun _ _ => .nv "4") twoDevices := by
  intro _
  refine ⟨by decide, fun _ _ _ _ => rfl, ?_⟩
  refine ⟨"0, 00000000:17:00.0, H100, 81559\n1, 00000000:18:00.0, H100, 81559\n", "worker",
    twoGpus, by decide +kernel, fun _ => "X", ["NUMA"], fun _ => ["NUMA"], by decide +kernel⟩

theorem fabric_from_matrix_two_devices :
    let : Kube := sampleKube
    ∃ snapshot, build { twoDevices.read with observedGeneration := 1 } = .ok snapshot ∧
      Feasible snapshot (unknownRequest .fabricClique 2) ∅ := by
  intro _
  let : Csv := sampleCsv
  obtain ⟨snapshot, hbuild⟩ :
      ∃ snapshot, build { twoDevices.read with observedGeneration := 1 } = .ok snapshot := ⟨_, rfl⟩
  refine ⟨snapshot, hbuild, ?_⟩
  refine ((fabric_from_matrix twoDevices_read hbuild (unknownRequest .fabricClique 2) ∅
    (by decide)).1 rfl).mpr ⟨{0, 1}, by decide +kernel, rfl, ?_⟩
  exact fun _ _ _ _ _ => ⟨rfl, rfl, by decide, by decide⟩

/-! ### Policies with DRA parameters -/

open AcceleratorFabric.Dra AcceleratorFabric.PolicyController

/-- The health that `nvidia-smi` leaves open excludes a device as soon as the policy asks for known
topology. -/
theorem not_isEligible_of_inventoried {device : AcceleratorDevice} (h : Inventoried device)
    {data : CycleData} (hknown : data.policy.allowUnknownTopology = false) :
    ¬ IsEligible data device := by
  rintro ⟨_, _, _, _, hhealth⟩
  rw [h.health_eq, hknown] at hhealth
  simp at hhealth

theorem not_selects_of_inventoried {device : AcceleratorDevice} (h : Inventoried device)
    (spec : AcceleratorPlacementPolicySpec) : ¬ Selects spec device := by
  rintro ⟨hhealth, _⟩
  rw [h.health_eq] at hhealth
  exact absurd hhealth (by decide)

section dra

variable [Kube] [FloatConversion]

/-- What is published of a topology comes from its devices, also if the topology is not valid. -/
theorem exists_device_of_published {object : AcceleratorTopology} {d : Device}
    (hd : d ∈ published object) : ∃ device ∈ object.spec.devices, d = publish object.spec device := by
  cases hbuild : build object.spec with
  | error e =>
      have hnone : published object = [] := by
        unfold published resourcesForTopology
        simp only [hbuild]
      rw [hnone] at hd
      cases hd
  | ok snapshot =>
      rw [published_eq ((build_eq_ok_iff _ _).mp hbuild).1] at hd
      obtain ⟨device, hdevice, rfl⟩ := List.mem_map.mp hd
      exact ⟨device, hdevice, rfl⟩

/-- **`nvidia-smi` nodes never serve a DRA policy.**  Whatever the two commands print, under a
valid policy with DRA parameters the scheduler finds no devices in the topology that
`NVIDIAProvider` makes of it, and no set of published devices can be allocated to a claim of the
template that such a policy is translated to. -/
theorem dra_never_matches [Csv] {query topo : Except String String} {nodeName : String}
    {spec : TopologySpec} (hdiscover : discoverNVIDIA query topo nodeName = .ok spec)
    {object : AcceleratorTopology} {generation : ℤ}
    (hobject : object.spec = { spec.read with observedGeneration := generation })
    (policy : AcceleratorPlacementPolicy) (hdra : policy.spec.dra ≠ none) :
    (validatePolicy policy.spec = none → ∀ snapshot, build object.spec = .ok snapshot →
      ∀ (data : CycleData) (reserved : Finset String), data.policy = policy.spec →
        ¬ Feasible snapshot data reserved) ∧
    ∀ template, resourceClaimTemplateForPolicy (some policy) = .ok template →
      ∀ set, ¬ Allocatable object template set := by
  have hinventory : ∀ d ∈ object.spec.devices, Inventoried d := by
    rw [hobject]
    exact (discoverNVIDIA_spec hdiscover).2.1.inventoried
  constructor
  · rintro hvalid snapshot hbuild data reserved hpolicy hfeasible
    obtain ⟨dra, hdra⟩ := Option.ne_none_iff_exists'.mp hdra
    obtain ⟨_, hknown, _⟩ := valid_of_validatePolicy hvalid hdra
    obtain ⟨hpos, hle, _⟩ :=
      (selectDeviceIDs_ne_nil_iff (availableDevices_sublist _ _ _)).mp hfeasible
    -- a selection needs at least one eligible device
    obtain ⟨d, hd⟩ := List.exists_mem_of_length_pos
      (l := excludeReservedDevices (eligibleDevices snapshot data) reserved) (by omega)
    obtain ⟨hd, heligible⟩ := List.mem_filter.mp (mem_excludeReservedDevices.mp hd).1
    have hmem := (build_represents _ _ hbuild).devices_perm.mem_iff.mp hd
    exact not_isEligible_of_inventoried (hinventory d hmem) (by rw [hpolicy, hknown])
      ((eligible_iff data d).mp heligible)
  · intro template htemplate set hset
    obtain ⟨_, _, hcount, hpos⟩ := count_of_template htemplate
    obtain ⟨_, selectors, _, _, hselectors, _⟩ := template_cases htemplate
    have hlength := hset.count
    obtain ⟨d, hd⟩ := List.exists_mem_of_length_pos (l := set) (by omega)
    obtain ⟨device, hdevice, rfl⟩ := exists_device_of_published (hset.published d hd)
    have hselected := (evalSelectors_eq_true_iff _ _).mp (hset.selected _ hd)
    rw [hselectors] at hselected
    exact not_selects_of_inventoried (hinventory device hdevice) policy.spec
      ((eval_deviceSelectors object.spec policy.spec device).2.mp
        fun s hs => hselected s (List.mem_append_left _ hs))

end dra

/-- The object of the agent for the two devices. -/
def twoDevicesObject : AcceleratorTopology where
  name := "worker"
  generation := 1
  resourceVersion := "1"
  spec := { twoDevices.read with observedGeneration := 1 }
  status := ⟨[], none⟩

theorem dra_never_matches_two_devices :
    let : Kube := sampleKube
    let : FloatConversion := amd64
    ∃ template, resourceClaimTemplateForPolicy (some (samplePolicyObject .fabricClique 2)) =
        .ok template ∧ ∀ set, ¬ Allocatable twoDevicesObject template set := by
  intro _ _
  let : Csv := sampleCsv
  obtain ⟨_, _, _, hdiscover, _⟩ := twoDevices_read.found
  obtain ⟨template, htemplate⟩ : ∃ template, resourceClaimTemplateForPolicy
      (some (samplePolicyObject .fabricClique 2)) = .ok template := ⟨_, rfl⟩
  refine ⟨template, htemplate, ?_⟩
  have hnever := dra_never_matches hdiscover (show twoDevicesObject.spec = _ from rfl)
    (samplePolicyObject .fabricClique 2) (by decide)
  exact hnever.2 template htemplate

end AcceleratorFabric.Discovery
