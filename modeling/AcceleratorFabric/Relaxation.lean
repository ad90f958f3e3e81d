import AcceleratorFabric.FabricSearch
import AcceleratorFabric.GroupSelection

/-! # Relaxing a request

`selectDeviceIDs` selects something exactly if the devices hold a combination of the requested
size (`selectDeviceIDs_ne_nil_iff`).  Whether they do is monotone: a larger list of devices, a
weaker link test and a smaller size keep every combination.  So a node that can take a
pod still can when the request asks for less (`feasible_of_relaxed`). -/

namespace AcceleratorFabric.TopologyFit

open GraphSearch AcceleratorFabric.Topology

/-! ### When a selection is non-empty -/

section combination

variable [Kube] {snapshot : Snapshot}

/-- The list holds a combination of the requested size for the policy's mode. -/
def HasCombination (snapshot : Snapshot) (devices : List AcceleratorDevice)
    (policy : AcceleratorPlacementPolicySpec) (requested : ℕ) : Prop :=
  match policy.topologyMode with
  | .bestEffort => True
  | .singleNUMA => ∃ key, requested ≤ (groupOf (numaKey policy) key devices).length
  | .samePCIeRoot => ∃ key, requested ≤ (groupOf (pcieRootKey policy) key devices).length
  | .fabricClique => ∃ s, FullyLinked snapshot policy devices requested s
  | .fabricConnected => ∃ start ∈ devices.map (·.id), ∃ t : Finset String, t.card = requested ∧
      ∀ x ∈ t, Relation.ReflTransGen
        (StepWithin (linked snapshot policy) (devices.map (·.id))) start x
  | .other _ => False

/-- **Completeness of the selection**: it finds a combination exactly if there is one. -/
theorem selectDeviceIDs_ne_nil_iff {devices : List AcceleratorDevice}
    {policy : AcceleratorPlacementPolicySpec} {requested : ℤ}
    (hsub : devices.Sublist snapshot.devices) :
    selectDeviceIDs snapshot devices policy requested ≠ [] ↔
      1 ≤ requested ∧ requested ≤ devices.length ∧
        HasCombination snapshot devices policy requested.toNat := by
  have hnodup := nodup_of_sublist hsub
  unfold selectDeviceIDs
  split_ifs with hguard
  · constructor
    · exact fun h => absurd rfl h
    · rintro ⟨hpos, hle, _⟩
      omega
  · have hpos : 1 ≤ requested.toNat := by omega
    have hle : requested.toNat ≤ devices.length := by omega
    have hbounds : 1 ≤ requested ∧ requested ≤ devices.length := by omega
    rw [← and_assoc, and_iff_right hbounds]
    unfold HasCombination
    cases policy.topologyMode with
    | bestEffort =>
        have hlen := (firstDeviceIDs_drawn hnodup (List.Sublist.refl _) hle).length_eq
        rw [← hlen] at hpos
        exact iff_of_true (List.length_pos_iff.mp hpos) trivial
    | singleNUMA => exact selectDeviceGroup_ne_nil_iff hpos
    | samePCIeRoot => exact selectDeviceGroup_ne_nil_iff hpos
    | fabricClique => exact selectFabricClique_ne_nil_iff hnodup hpos
    | fabricConnected => exact selectFabricConnected_ne_nil_iff hnodup hpos
    | other t => exact iff_of_false (fun h => h rfl) id

end combination

/-! ### Weaker requests -/

/-- `policy'` asks for no more than `policy`. -/
structure RelaxesPolicy (policy policy' : AcceleratorPlacementPolicySpec) : Prop where
  vendor_ok : policy'.vendor = policy.vendor ∨ policy'.vendor = .any ∨ policy'.vendor = .unset
  products_ok : policy'.products = [] ∨
    (policy.products ≠ [] ∧ policy.products ⊆ policy'.products)
  memory_le : policy'.minimumMemoryMiB ≤ policy.minimumMemoryMiB
  bandwidth_le : policy'.minimumLinkBandwidthGBps ≤ policy.minimumLinkBandwidthGBps
  hops_le : policy.maxFabricHops ≤ policy'.maxFabricHops
  unknown_ok : policy.allowUnknownTopology = true → policy'.allowUnknownTopology = true
  mode_ok : policy'.topologyMode = policy.topologyMode ∨ policy'.topologyMode = .bestEffort ∨
    (policy.topologyMode = .fabricClique ∧ policy'.topologyMode = .fabricConnected)

/-- `data'` with the reserved devices `reserved'` asks for no more than `data` with `reserved`. -/
structure Relaxes (data : CycleData) (reserved : Finset String) (data' : CycleData)
    (reserved' : Finset String) : Prop where
  resourceName_eq : data'.resourceName = data.resourceName
  requested_pos : 1 ≤ data'.requested
  requested_le : data'.requested ≤ data.requested
  reserved_subset : reserved' ⊆ reserved
  policy_relaxes : RelaxesPolicy data.policy data'.policy

section relax

variable {policy policy' : AcceleratorPlacementPolicySpec} {data data' : CycleData}
  {reserved reserved' : Finset String} {devices devices' : List AcceleratorDevice}
  {requested requested' : ℕ}

theorem RelaxesPolicy.health (h : RelaxesPolicy policy policy') {health : Health}
    (hok : health = .healthy ∨ (policy.allowUnknownTopology = true ∧ health = .unknown)) :
    health = .healthy ∨ (policy'.allowUnknownTopology = true ∧ health = .unknown) :=
  hok.imp_right fun hu => ⟨h.unknown_ok hu.1, hu.2⟩

theorem Relaxes.isEligible (h : Relaxes data reserved data' reserved') {d : AcceleratorDevice}
    (hd : IsEligible data d) : IsEligible data' d where
  resourceName_eq := hd.resourceName_eq.trans h.resourceName_eq.symm
  vendor_ok := by
    rcases h.policy_relaxes.vendor_ok with hv | hv | hv
    · rw [hv]
      exact hd.vendor_ok
    · exact .inr (.inl hv)
    · exact .inl hv
  product_ok := by
    rcases h.policy_relaxes.products_ok with hp | ⟨hne, hsub⟩
    · exact .inl hp
    · exact .inr (hsub (hd.product_ok.resolve_left hne))
  memory_ok := h.policy_relaxes.memory_le.trans hd.memory_ok
  health_ok := h.policy_relaxes.health hd.health_ok

theorem RelaxesPolicy.qualifies (h : RelaxesPolicy policy policy') {link : AcceleratorLink}
    (hq : qualifiesFabricLink link policy = true) : qualifiesFabricLink link policy' = true := by
  rw [qualifiesFabricLink_iff] at hq ⊢
  obtain ⟨htype, hhealth, hbandwidth, hhops⟩ := hq
  exact ⟨htype, h.health hhealth, h.bandwidth_le.trans hbandwidth, hhops.trans h.hops_le⟩

/-- `groupKey'` uses the devices that `groupKey` uses, under the same keys. -/
def ExtendsKey (groupKey groupKey' : GroupKey) : Prop :=
  ∀ d key, groupKey d = (key, true) → groupKey' d = (key, true)

/-- A device keeps its group when unknown placement becomes usable. -/
theorem RelaxesPolicy.numaKey (h : RelaxesPolicy policy policy') :
    ExtendsKey (numaKey policy) (TopologyFit.numaKey policy') := by
  intro d key hk
  unfold TopologyFit.numaKey at hk ⊢
  cases hn : d.numaNode with
  | none =>
      rw [hn] at hk
      obtain ⟨hkey, hunknown⟩ := Prod.ext_iff.mp hk
      exact Prod.ext hkey (h.unknown_ok hunknown)
  | some n =>
      rw [hn] at hk
      exact hk

theorem RelaxesPolicy.pcieRootKey (h : RelaxesPolicy policy policy') :
    ExtendsKey (pcieRootKey policy) (TopologyFit.pcieRootKey policy') := by
  intro d key hk
  unfold TopologyFit.pcieRootKey at hk ⊢
  split_ifs at hk ⊢ with hroot
  · obtain ⟨hkey, hunknown⟩ := Prod.ext_iff.mp hk
    exact Prod.ext hkey (h.unknown_ok hunknown)
  · exact hk

theorem groupOf_length_le {groupKey groupKey' : GroupKey} (hkeys : ExtendsKey groupKey groupKey')
    (hdevices : devices.Sublist devices') (key : String) :
    (groupOf groupKey key devices).length ≤ (groupOf groupKey' key devices').length := by
  have hmono : (groupOf groupKey key devices).Sublist (groupOf groupKey' key devices) := by
    refine List.monotone_filter_right devices fun d hd => ?_
    exact decide_eq_true (hkeys d key (of_decide_eq_true hd))
  exact (hmono.trans (hdevices.filter _)).length_le

variable [Kube] {snapshot : Snapshot}

theorem Relaxes.devices_sublist (h : Relaxes data reserved data' reserved') (snapshot : Snapshot) :
    (excludeReservedDevices (eligibleDevices snapshot data) reserved).Sublist
      (excludeReservedDevices (eligibleDevices snapshot data') reserved') := by
  unfold excludeReservedDevices eligibleDevices
  rw [List.filter_filter, List.filter_filter]
  refine List.monotone_filter_right snapshot.devices fun d hd => ?_
  rw [Bool.and_eq_true, decide_eq_true_iff, eligible_iff] at hd ⊢
  exact ⟨fun hmem => hd.1 (h.reserved_subset hmem), h.isEligible hd.2⟩

theorem RelaxesPolicy.linked (h : RelaxesPolicy policy policy') {a b : String}
    (hab : linked snapshot policy a b = true) : TopologyFit.linked snapshot policy' a b = true := by
  rw [linked_iff] at hab ⊢
  obtain ⟨link, hl, hq⟩ := hab
  exact ⟨link, hl, h.qualifies hq⟩

theorem FullyLinked.relax (h : RelaxesPolicy policy policy') (hdevices : devices.Sublist devices')
    (hle : requested' ≤ requested) {s : Finset String}
    (hs : FullyLinked snapshot policy devices requested s) :
    ∃ t, FullyLinked snapshot policy' devices' requested' t := by
  rw [← hs.card_eq] at hle
  obtain ⟨t, hts, hcard⟩ := Finset.exists_subset_card_eq hle
  refine ⟨t, fun id hid => (hdevices.map _).subset (hs.subset id (hts hid)), hcard, ?_⟩
  intro a ha b hb hab
  obtain ⟨link, hl, hq⟩ := hs.joined a (hts ha) b (hts hb) hab
  exact ⟨link, hl, h.qualifies hq⟩

theorem FullyLinked.reached {s : Finset String}
    (hs : FullyLinked snapshot policy devices requested s) {start : String} (hstart : start ∈ s) :
    ∀ x ∈ s, Relation.ReflTransGen
      (StepWithin (TopologyFit.linked snapshot policy) (devices.map (·.id))) start x := by
  intro x hx
  by_cases he : start = x
  · rw [he]
  · refine .single ⟨hs.subset start hstart, hs.subset x hx, ?_⟩
    exact linked_iff.mpr (hs.joined start hstart x hx he)

theorem reached_relax (h : RelaxesPolicy policy policy') (hdevices : devices.Sublist devices')
    {a b : String} (hr : Relation.ReflTransGen
      (StepWithin (TopologyFit.linked snapshot policy) (devices.map (·.id))) a b) :
    Relation.ReflTransGen
      (StepWithin (TopologyFit.linked snapshot policy') (devices'.map (·.id))) a b := by
  refine within_mono (hdevices.map _).subset ?_
  exact Relation.ReflTransGen.mono (fun _ _ hs => ⟨hs.1, hs.2.1, h.linked hs.2.2⟩) _ _ hr

/-- **Combinations are kept**: under a weaker policy, for more devices and for a smaller
size. -/
theorem HasCombination.relax (h : RelaxesPolicy policy policy') (hdevices : devices.Sublist devices')
    (hpos : 1 ≤ requested') (hle : requested' ≤ requested)
    (ha : HasCombination snapshot devices policy requested) :
    HasCombination snapshot devices' policy' requested' := by
  unfold HasCombination at ha ⊢
  rcases h.mode_ok with hmode | hmode | ⟨hmode, hmode'⟩
  · rw [hmode]
    cases hm : policy.topologyMode with
    | bestEffort => trivial
    | singleNUMA =>
        rw [hm] at ha
        obtain ⟨key, hlen⟩ := ha
        have hgroup := groupOf_length_le h.numaKey hdevices key
        exact ⟨key, hle.trans (hlen.trans hgroup)⟩
    | samePCIeRoot =>
        rw [hm] at ha
        obtain ⟨key, hlen⟩ := ha
        have hgroup := groupOf_length_le h.pcieRootKey hdevices key
        exact ⟨key, hle.trans (hlen.trans hgroup)⟩
    | fabricClique =>
        rw [hm] at ha
        obtain ⟨s, hs⟩ := ha
        exact hs.relax h hdevices hle
    | fabricConnected =>
        rw [hm] at ha
        obtain ⟨start, hstart, t, hcard, ht⟩ := ha
        rw [← hcard] at hle
        obtain ⟨t', hsub, hcard'⟩ := Finset.exists_subset_card_eq hle
        refine ⟨start, (hdevices.map _).subset hstart, t', hcard', fun x hx => ?_⟩
        exact reached_relax h hdevices (ht x (hsub hx))
    | other t =>
        rw [hm] at ha
        exact ha.elim
  · rw [hmode]
    trivial
  · -- a clique is connected
    rw [hmode] at ha
    rw [hmode']
    obtain ⟨s, hs⟩ := ha
    obtain ⟨t, ht⟩ := hs.relax h hdevices hle
    rw [← ht.card_eq] at hpos
    obtain ⟨start, hstart⟩ := Finset.card_pos.mp hpos
    exact ⟨start, ht.subset start hstart, t, ht.card_eq, ht.reached hstart⟩

/-- Some combination of the devices that are eligible and not reserved serves the request. -/
def Feasible (snapshot : Snapshot) (data : CycleData) (reserved : Finset String) : Prop :=
  selectDeviceIDs snapshot (excludeReservedDevices (eligibleDevices snapshot data) reserved)
    data.policy data.requested ≠ []

/-- **Relaxing a request never makes a node infeasible.** -/
theorem feasible_of_relaxed (hrelaxes : Relaxes data reserved data' reserved')
    (hfeasible : Feasible snapshot data reserved) : Feasible snapshot data' reserved' := by
  unfold Feasible at hfeasible ⊢
  rw [selectDeviceIDs_ne_nil_iff (availableDevices_sublist _ _ _)] at hfeasible ⊢
  obtain ⟨hpos, hlen, hcomb⟩ := hfeasible
  have hdevices := hrelaxes.devices_sublist snapshot
  have hle := hrelaxes.requested_le
  have hpos' := hrelaxes.requested_pos
  refine ⟨hpos', ?_, hcomb.relax hrelaxes.policy_relaxes hdevices (by omega) (by omega)⟩
  have := hdevices.length_le
  omega

end relax

/-- A request for devices of any vendor. -/
def anyVendorRequest (mode : TopologyMode) (requested : ℤ) : CycleData where
  active := true
  podKey := "team-a/job"
  policy := samplePolicy mode .failClosed
  resourceName := "nvidia.com/gpu"
  requested := requested
  scores := ∅
  keyed := fun _ => by decide

/-- A clique of two devices with the third one reserved, then one connected device. -/
theorem deviceRow_feasible_of_relaxed :
    let : Kube := sampleKube
    ∃ snapshot, build deviceRow = .ok snapshot ∧
      Feasible snapshot (anyVendorRequest .fabricConnected 1) ∅ := by
  intro kube
  have hrelaxes : Relaxes (anyVendorRequest .fabricClique 2) {"gpu2"}
      (anyVendorRequest .fabricConnected 1) ∅ :=
    ⟨rfl, by decide, by decide, Finset.empty_subset _,
      ⟨.inl rfl, .inl rfl, le_rfl, le_rfl, le_rfl, id, .inr (.inr ⟨rfl, rfl⟩)⟩⟩
  refine ⟨_, rfl, feasible_of_relaxed hrelaxes ?_⟩
  unfold Feasible
  decide +kernel

end AcceleratorFabric.TopologyFit
