import AcceleratorFabric.SnapshotIndexes

/-! # Canonical snapshots

The order in which a node reports its devices and links, and the end from which it reports a link,
do not matter: specs with the same inventory are both rejected, or they have the same snapshot
(`build_canonical`).  This includes the order in which the unstable `sort.Slice` leaves elements
with equal keys: an accepted spec has none. -/

namespace AcceleratorFabric.Topology

/-! ### Orientation -/

theorem orient_swapEnds (l : AcceleratorLink) : orient (swapEnds l) = orient l := by
  unfold orient swapEnds
  rcases lt_trichotomy l.source l.target with h | h | h
  · rw [if_pos h, if_neg (not_lt.mpr h.le)]
  · rw [if_neg (not_lt.mpr h.ge), if_neg (not_lt.mpr h.le)]
    cases l
    simp only at h
    simp [h]
  · rw [if_neg (not_lt.mpr h.le), if_pos h]

theorem orient_orient (l : AcceleratorLink) : orient (orient l) = orient l := by
  rcases reoriented_orient l with h | h
  · rw [h, h]
  · rw [h, orient_swapEnds, h]

theorem Reoriented.symm {l m : AcceleratorLink} (h : Reoriented l m) : Reoriented m l := by
  rcases h with rfl | rfl
  · exact .inl rfl
  · exact .inr rfl

theorem Reoriented.orient_eq {l m : AcceleratorLink} (h : Reoriented l m) : orient m = orient l := by
  rcases h with rfl | rfl
  · rfl
  · exact orient_swapEnds l

theorem linkKey_orient (l : AcceleratorLink) : linkKey (orient l) = linkKey l := by
  unfold orient
  split_ifs with h
  · unfold linkKey swapEnds
    rw [if_neg (not_lt.mpr h.le), if_pos h]
  · rfl

theorem map_linkKey_orient (ls : List AcceleratorLink) :
    (ls.map orient).map linkKey = ls.map linkKey := by
  rw [List.map_map]
  exact List.map_congr_left fun l _ => linkKey_orient l

theorem pairwise_map_orient {ls : List AcceleratorLink}
    (h : ls.Pairwise (fun a b => linkKey a ≤ linkKey b)) :
    (ls.map orient).Pairwise (fun a b => linkKey a ≤ linkKey b) := by
  rw [List.pairwise_map]
  simp only [linkKey_orient]
  exact h

/-- The link loop stores every link in its orientation. -/
theorem addLinks_map_orient : ∀ (ls : List AcceleratorLink) (s : SnapshotData),
    addLinks s (ls.map orient) = addLinks s ls
  | [], _ => rfl
  | l :: ls, s => by
      have hone : addLink s (orient l) = addLink s l := by
        unfold addLink
        rw [orient_orient]
      have ih := addLinks_map_orient ls (addLink s l)
      unfold addLinks at ih ⊢
      rw [List.map_cons, List.foldl_cons, List.foldl_cons, hone, ih]

/-! ### Sorted lists -/

/-- A list that is sorted by distinct keys is determined by its elements. -/
theorem eq_of_sorted_keys {α κ : Type} [LinearOrder κ] {key : α → κ} {l l' : List α}
    (hl : l.Pairwise (fun a b => key a ≤ key b)) (hl' : l'.Pairwise (fun a b => key a ≤ key b))
    (hperm : l.Perm l') (hnodup : (l.map key).Nodup) : l = l' := by
  refine List.Perm.eq_of_pairwise ?_ hl hl' hperm
  intro a b ha hb hab hba
  exact List.inj_on_of_nodup_map hnodup ha (hperm.mem_iff.mpr hb) (le_antisymm hab hba)

/-- Orders that `sort.Slice` may leave. -/
structure SortedFor (spec : AcceleratorTopologySpec) (devices : List AcceleratorDevice)
    (links : List AcceleratorLink) : Prop where
  devices_perm : devices.Perm spec.devices
  devices_sorted : devices.Pairwise (fun a b => a.id ≤ b.id)
  links_perm : links.Perm spec.links
  links_sorted : links.Pairwise (fun a b => linkKey a ≤ linkKey b)

theorem sortedFor_sort (spec : AcceleratorTopologySpec) :
    SortedFor spec (sortDevices spec.devices) (sortLinks spec.links) where
  devices_perm := sortDevices_perm spec.devices
  devices_sorted := List.pairwise_insertionSort _ spec.devices
  links_perm := sortLinks_perm spec.links
  links_sorted := List.pairwise_insertionSort _ spec.links

/-! ### The same inventory -/

/-- The specs differ at most in the order of their devices and links and in the orientation of
links. -/
structure SameInventory (spec spec' : AcceleratorTopologySpec) : Prop where
  nodeName_eq : spec.nodeName = spec'.nodeName
  generation_eq : spec.observedGeneration = spec'.observedGeneration
  devices_perm : spec.devices.Perm spec'.devices
  links_perm : ∃ ls, ls.Perm spec.links ∧ List.Forall₂ Reoriented ls spec'.links

section inventory

variable {spec spec' : AcceleratorTopologySpec}

theorem map_orient_of_reoriented {ls ms : List AcceleratorLink}
    (h : List.Forall₂ Reoriented ls ms) : ls.map orient = ms.map orient := by
  induction h with
  | nil => rfl
  | cons hlm _ ih => rw [List.map_cons, List.map_cons, hlm.orient_eq, ih]

theorem SameInventory.orient_perm (h : SameInventory spec spec') :
    (spec.links.map orient).Perm (spec'.links.map orient) := by
  obtain ⟨ls, hperm, hsame⟩ := h.links_perm
  rw [← map_orient_of_reoriented hsame]
  exact (hperm.map orient).symm

/-- A property of links that does not depend on their orientation. -/
theorem SameInventory.forall_links (h : SameInventory spec spec') {p : AcceleratorLink → Prop}
    (hp : ∀ l, p (orient l) ↔ p l) (hspec : ∀ l ∈ spec.links, p l) : ∀ l ∈ spec'.links, p l := by
  intro l hl
  have hmem : orient l ∈ spec.links.map orient :=
    h.orient_perm.mem_iff.mpr (List.mem_map_of_mem hl)
  obtain ⟨m, hm, hlm⟩ := List.mem_map.mp hmem
  rw [← hp l, ← hlm, hp m]
  exact hspec m hm

theorem linkOk_orient (l : AcceleratorLink) : LinkOk spec (orient l) ↔ LinkOk spec l := by
  unfold LinkOk orient swapEnds
  split_ifs
  · simp only [ne_eq, eq_comm]
    tauto
  · exact Iff.rfl

theorem SameInventory.accepted [Kube] (h : SameInventory spec spec') (ha : Accepted spec) :
    Accepted spec' where
  nodeName_ne := h.nodeName_eq ▸ ha.nodeName_ne
  generation_pos := h.generation_eq ▸ ha.generation_pos
  devices_ne := fun hnil => ha.devices_ne (List.Perm.eq_nil (hnil ▸ h.devices_perm))
  device_ok := fun d hd => ha.device_ok d (h.devices_perm.mem_iff.mpr hd)
  ids_nodup := (h.devices_perm.map _).nodup_iff.mp ha.ids_nodup
  link_ok := by
    have hids : ∀ x, x ∈ spec.devices.map (·.id) ↔ x ∈ spec'.devices.map (·.id) :=
      fun x => (h.devices_perm.map _).mem_iff
    have hok := h.forall_links linkOk_orient ha.link_ok
    unfold LinkOk at hok ⊢
    simp only [hids] at hok
    exact hok
  keys_nodup := by
    have hperm := h.orient_perm.map linkKey
    rw [map_linkKey_orient, map_linkKey_orient] at hperm
    exact hperm.nodup_iff.mp ha.keys_nodup

theorem SameInventory.symm (h : SameInventory spec spec') : SameInventory spec' spec := by
  refine ⟨h.nodeName_eq.symm, h.generation_eq.symm, h.devices_perm.symm, ?_⟩
  obtain ⟨ls, hperm, hsame⟩ := h.links_perm
  obtain ⟨ms, hspec, hms⟩ := List.perm_comp_forall₂ hperm.symm hsame
  exact ⟨ms, hms, hspec.flip.imp fun _ _ hlm => Reoriented.symm hlm⟩

/-- Both specs are assembled to the same snapshot, in whatever order their lists are visited. -/
theorem SameInventory.assembleFrom_eq [Kube] (h : SameInventory spec spec') (ha : Accepted spec)
    {devices devices' : List AcceleratorDevice} {links links' : List AcceleratorLink}
    (hs : SortedFor spec devices links) (hs' : SortedFor spec' devices' links') :
    assembleFrom spec devices links = assembleFrom spec' devices' links' := by
  have hdevices : devices = devices' := by
    refine eq_of_sorted_keys hs.devices_sorted hs'.devices_sorted ?_ ?_
    · exact (hs.devices_perm.trans h.devices_perm).trans hs'.devices_perm.symm
    · exact (hs.devices_perm.map _).nodup_iff.mpr ha.ids_nodup
  have hlinks : links.map orient = links'.map orient := by
    refine eq_of_sorted_keys (pairwise_map_orient hs.links_sorted)
      (pairwise_map_orient hs'.links_sorted) ?_ ?_
    · exact ((hs.links_perm.map orient).trans h.orient_perm).trans (hs'.links_perm.map orient).symm
    · rw [map_linkKey_orient]
      exact (hs.links_perm.map _).nodup_iff.mpr ha.keys_nodup
  unfold assembleFrom
  rw [← addLinks_map_orient links, ← addLinks_map_orient links', hdevices, hlinks]
  simp only [initial, h.nodeName_eq, h.generation_eq]

end inventory

/-- Both calls fail, or both return the same result. -/
def SameOutcome {ε α : Type} (r r' : Except ε α) : Prop :=
  (∃ e e', r = .error e ∧ r' = .error e') ∨ ∃ a, r = .ok a ∧ r' = .ok a

theorem sameOutcome_of_iff {ε α : Type} {r r' : Except ε α}
    (h : ∀ a, r = .ok a ↔ r' = .ok a) : SameOutcome r r' := by
  cases r with
  | ok a => exact .inr ⟨a, rfl, (h a).mp rfl⟩
  | error e =>
      cases r' with
      | ok a => exact absurd ((h a).mpr rfl) (by simp)
      | error e' => exact .inl ⟨e, e', rfl, rfl⟩

/-- **`Build` is canonical**: for specs with the same inventory, and whatever order the sorts leave
equal keys in, it fails for both or returns the same snapshot for both. -/
theorem build_canonical [Kube] (spec spec' : AcceleratorTopologySpec)
    (h : SameInventory spec spec') :
    (∀ devices links devices' links', SortedFor spec devices links → SortedFor spec' devices' links' →
      SameOutcome (buildFrom spec devices links) (buildFrom spec' devices' links')) ∧
    SameOutcome (build spec) (build spec') := by
  have haccepted : Accepted spec ↔ Accepted spec' := ⟨h.accepted, h.symm.accepted⟩
  refine ⟨?_, ?_⟩
  · intro devices links devices' links' hs hs'
    apply sameOutcome_of_iff
    intro s
    rw [buildFrom_eq_ok_iff hs.devices_perm hs.links_perm,
      buildFrom_eq_ok_iff hs'.devices_perm hs'.links_perm, ← haccepted]
    exact and_congr_right fun ha => by rw [h.assembleFrom_eq ha hs hs']
  · apply sameOutcome_of_iff
    intro snapshot
    rw [build_eq_ok_iff, build_eq_ok_iff, ← haccepted]
    refine and_congr_right fun ha => ?_
    have heq : assemble spec = assemble spec' :=
      h.assembleFrom_eq ha (sortedFor_sort spec) (sortedFor_sort spec')
    rw [heq]

/-- The parallel links of `doublyLinked`, reported backwards. -/
def reversedReport : AcceleratorTopologySpec :=
  sampleSpec doublyLinked.devices.reverse (doublyLinked.links.reverse.map swapEnds)

theorem build_canonical_on_reversed_report :
    let : Kube := sampleKube
    SameInventory doublyLinked reversedReport ∧
      SameOutcome (build doublyLinked) (build reversedReport) := by
  intro kube
  have h : SameInventory doublyLinked reversedReport := by
    refine ⟨rfl, rfl, (List.reverse_perm _).symm, doublyLinked.links.reverse,
      List.reverse_perm _, ?_⟩
    show List.Forall₂ Reoriented doublyLinked.links.reverse (doublyLinked.links.reverse.map swapEnds)
    rw [List.forall₂_map_right_iff, List.forall₂_same]
    exact fun l _ => .inr rfl
  exact ⟨h, (build_canonical _ _ h).2⟩

end AcceleratorFabric.Topology
