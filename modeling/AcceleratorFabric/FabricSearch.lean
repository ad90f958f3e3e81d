import AcceleratorFabric.Selection

/-! # What the fabric searches find

The two graph modes of `selectDeviceIDs`, as searches in the graph of qualifying links.

`selectFabricClique_spec`: the clique mode selects nothing exactly if no set of the requested size
is joined pairwise; otherwise it selects the first such set in the order of device positions.
`selectFabricConnected_spec`: the connected mode ends, selects nothing exactly if every component is
too small, and otherwise selects a connected set of the requested size. -/

namespace AcceleratorFabric.TopologyFit

open GraphSearch AcceleratorFabric.Topology

theorem pairwise_idxOf {ids : List String} (h : ids.Nodup) :
    ids.Pairwise (fun a b => ids.idxOf a < ids.idxOf b) := by
  rw [List.pairwise_iff_getElem]
  intro i j hi hj hij
  rw [h.idxOf_getElem i hi, h.idxOf_getElem j hj]
  exact hij

section searches

variable [Kube] {snapshot : Snapshot} {devices : List AcceleratorDevice}
  {policy : AcceleratorPlacementPolicySpec} {requested : ℕ}

theorem linked_iff {a b : String} : linked snapshot policy a b = true ↔
    ∃ link, snapshot.linkBetween a b = some link ∧ qualifiesFabricLink link policy = true := by
  unfold linked
  rw [Option.any_eq_true_iff_get]
  constructor
  · rintro ⟨h, hq⟩
    exact ⟨_, (Option.some_get h).symm, hq⟩
  · rintro ⟨link, hl, hq⟩
    simp [hl, hq]

theorem nodup_of_sublist (hsub : devices.Sublist snapshot.devices) :
    (devices.map (·.id)).Nodup :=
  (hsub.map _).nodup snapshot.ids_nodup

/-! ### Cliques -/

/-- So many devices of the list, any two of them joined by a qualifying link. -/
structure FullyLinked (snapshot : Snapshot) (policy : AcceleratorPlacementPolicySpec)
    (devices : List AcceleratorDevice) (requested : ℕ) (s : Finset String) : Prop where
  subset : ∀ id ∈ s, id ∈ devices.map (·.id)
  card_eq : s.card = requested
  joined : ∀ a ∈ s, ∀ b ∈ s, a ≠ b →
    ∃ link, snapshot.linkBetween a b = some link ∧ qualifiesFabricLink link policy = true

theorem fullyLinked_toFinset_iff {ids : List String} (hnodup : ids.Nodup)
    (hsub : ids ⊆ devices.map (·.id)) :
    FullyLinked snapshot policy devices requested ids.toFinset ↔
      ids.length = requested ∧ IsClique (linked snapshot policy) ids := by
  have hsymm : Std.Symm (fun m c => linked snapshot policy c m = true) := ⟨fun _ _ => linked_symm⟩
  constructor
  · intro h
    refine ⟨by rw [← List.toFinset_card_of_nodup hnodup, h.card_eq], ?_⟩
    refine hnodup.pairwise_of_forall_ne fun a ha b hb hab => ?_
    rw [linked_iff]
    exact h.joined b (List.mem_toFinset.mpr hb) a (List.mem_toFinset.mpr ha) hab.symm
  · rintro ⟨hlen, hclique⟩
    refine ⟨fun id hid => hsub (List.mem_toFinset.mp hid), ?_, ?_⟩
    · rw [List.toFinset_card_of_nodup hnodup, hlen]
    · intro a ha b hb hab
      rw [← linked_iff]
      exact linked_symm (hclique.forall (List.mem_toFinset.mp ha) (List.mem_toFinset.mp hb) hab)

/-- The clique search comes no later than any fully linked set. -/
theorem selectFabricClique_first (hnodup : (devices.map (·.id)).Nodup) (hrequested : 1 ≤ requested)
    {ids : List String} (hsub : ids.Sublist (devices.map (·.id)))
    (hlinked : FullyLinked snapshot policy devices requested ids.toFinset) :
    selectFabricClique snapshot devices policy requested ≠ [] ∧
      (selectFabricClique snapshot devices policy requested).map (devices.map (·.id)).idxOf ≤
        ids.map (devices.map (·.id)).idxOf := by
  obtain ⟨hlen, hclique⟩ :=
    (fullyLinked_toFinset_iff (hsub.nodup hnodup) hsub.subset).mp hlinked
  unfold selectFabricClique
  rw [firstDeviceIDs_length]
  exact cliqueSearch_first (pairwise_idxOf hnodup) hrequested hsub hclique hlen

theorem selectFabricClique_sound (hnodup : (devices.map (·.id)).Nodup)
    (hne : selectFabricClique snapshot devices policy requested ≠ []) :
    (selectFabricClique snapshot devices policy requested).Sublist (devices.map (·.id)) ∧
      FullyLinked snapshot policy devices requested
        (selectFabricClique snapshot devices policy requested).toFinset := by
  unfold selectFabricClique at hne ⊢
  rw [firstDeviceIDs_length] at hne ⊢
  obtain ⟨hlen, hsub, hclique⟩ := cliqueSearch_sound hne
  exact ⟨hsub, (fullyLinked_toFinset_iff (hsub.nodup hnodup) hsub.subset).mpr ⟨hlen, hclique⟩⟩

theorem selectFabricClique_ne_nil_iff (hnodup : (devices.map (·.id)).Nodup)
    (hrequested : 1 ≤ requested) :
    selectFabricClique snapshot devices policy requested ≠ [] ↔
      ∃ s, FullyLinked snapshot policy devices requested s := by
  constructor
  · intro hne
    exact ⟨_, (selectFabricClique_sound hnodup hne).2⟩
  · rintro ⟨s, hs⟩
    -- the members of the set, in device order
    have hset : ((devices.map (·.id)).filter (· ∈ s)).toFinset = s := by
      ext id
      rw [List.mem_toFinset, List.mem_filter, decide_eq_true_iff]
      exact ⟨fun h => h.2, fun h => ⟨hs.subset id h, h⟩⟩
    rw [← hset] at hs
    exact (selectFabricClique_first hnodup hrequested List.filter_sublist hs).1

/-- **The clique search is sound, complete and canonical.** -/
theorem selectFabricClique_spec (hsub : devices.Sublist snapshot.devices)
    (hrequested : 1 ≤ requested) :
    (selectFabricClique snapshot devices policy requested = [] ↔
      ¬ ∃ s, FullyLinked snapshot policy devices requested s) ∧
    (selectFabricClique snapshot devices policy requested ≠ [] →
      (selectFabricClique snapshot devices policy requested).Sublist (devices.map (·.id)) ∧
      FullyLinked snapshot policy devices requested
        (selectFabricClique snapshot devices policy requested).toFinset ∧
      ∀ ids : List String, ids.Sublist (devices.map (·.id)) →
        FullyLinked snapshot policy devices requested ids.toFinset →
          (selectFabricClique snapshot devices policy requested).map (devices.map (·.id)).idxOf ≤
            ids.map (devices.map (·.id)).idxOf) := by
  have hnodup := nodup_of_sublist hsub
  refine ⟨?_, fun hne => ?_⟩
  · rw [← selectFabricClique_ne_nil_iff hnodup hrequested, not_not]
  · obtain ⟨hids, hlinked⟩ := selectFabricClique_sound hnodup hne
    refine ⟨hids, hlinked, fun ids hsub' hlinked' => ?_⟩
    exact (selectFabricClique_first hnodup hrequested hsub' hlinked').2

end searches

/-- Three devices in a row, `gpu0 - gpu1 - gpu2`. -/
def deviceRow : AcceleratorTopologySpec :=
  sampleSpec [sampleDevice "gpu0", sampleDevice "gpu1", sampleDevice "gpu2"]
    [⟨"gpu0", "gpu1", .nvlink, 400, 1, .healthy⟩, ⟨"gpu1", "gpu2", .nvlink, 400, 1, .healthy⟩]

theorem no_clique_in_deviceRow :
    let : Kube := sampleKube
    ∃ snapshot, build deviceRow = .ok snapshot ∧
      ¬ ∃ s, FullyLinked snapshot (samplePolicy .fabricClique .failClosed) snapshot.devices 3 s := by
  intro kube
  refine ⟨_, rfl, (selectFabricClique_spec (List.Sublist.refl _) (by decide)).1.mp ?_⟩
  decide +kernel

/-! ### Connected sets -/

section connected

variable [Kube] {snapshot : Snapshot} {devices : List AcceleratorDevice}
  {policy : AcceleratorPlacementPolicySpec} {requested : ℕ}

/-- The graph of qualifying links on the listed devices. -/
def qualifyingGraph (snapshot : Snapshot) (policy : AcceleratorPlacementPolicySpec)
    (ids : List String) : SimpleGraph {id // id ∈ ids} where
  Adj a b := a ≠ b ∧
    ∃ link, snapshot.linkBetween a b = some link ∧ qualifiesFabricLink link policy = true
  symm := ⟨by
    rintro a b ⟨hab, hlink⟩
    exact ⟨hab.symm, linked_iff.mp (linked_symm (linked_iff.mpr hlink))⟩⟩
  loopless := ⟨fun _ h => h.1 rfl⟩

theorem qualifyingGraph_eq_graphOn (ids : List String) :
    qualifyingGraph snapshot policy ids = graphOn (linked snapshot policy) ids := by
  ext a b
  show (a ≠ b ∧ ∃ link, _) ↔ (graphOn (linked snapshot policy) ids).Adj a b
  unfold graphOn
  rw [SimpleGraph.fromRel_adj, ← linked_iff]
  constructor
  · rintro ⟨hab, h⟩
    exact ⟨hab, .inl h⟩
  · rintro ⟨hab, h | h⟩
    · exact ⟨hab, h⟩
    · exact ⟨hab, linked_symm h⟩

theorem selectFabricConnected_ne_nil_iff (hnodup : (devices.map (·.id)).Nodup)
    (hrequested : 1 ≤ requested) :
    selectFabricConnected snapshot devices policy requested ≠ [] ↔
      ∃ start ∈ devices.map (·.id), ∃ t : Finset String, t.card = requested ∧ ∀ x ∈ t,
        Relation.ReflTransGen (StepWithin (linked snapshot policy) (devices.map (·.id))) start x := by
  constructor
  · intro hne
    obtain ⟨start, hs, he, hlen⟩ := selectFabricConnected_cases hne
    rw [he] at hlen
    exact ⟨start, hs, (breadthFirst_length_eq_iff hnodup hs requested).mp hlen⟩
  · rintro ⟨start, hs, ht⟩
    have hlen := (breadthFirst_length_eq_iff hnodup hs requested).mpr ht
    unfold selectFabricConnected
    simp only [firstDeviceIDs_length]
    cases hf : (devices.map (·.id)).findSome?
        (connectedFrom snapshot (devices.map (·.id)) policy requested) with
    | none =>
        have hnone := List.findSome?_eq_none_iff.mp hf start hs
        unfold connectedFrom at hnone
        rw [if_pos hlen] at hnone
        cases hnone
    | some selected =>
        obtain ⟨_, _, hc⟩ := List.exists_of_findSome?_eq_some hf
        unfold connectedFrom at hc
        simp only at hc
        split_ifs at hc with hfull
        cases hc
        rw [Option.getD_some, ← List.length_pos_iff, hfull]
        exact hrequested

theorem selectFabricConnected_connected (hnodup : (devices.map (·.id)).Nodup)
    (hne : selectFabricConnected snapshot devices policy requested ≠ []) :
    Drawn devices requested (selectFabricConnected snapshot devices policy requested) ∧
      (qualifyingGraph snapshot policy
        (selectFabricConnected snapshot devices policy requested)).Connected := by
  obtain ⟨start, hs, he, hlen⟩ := selectFabricConnected_cases hne
  obtain ⟨hnd, hreach⟩ := breadthFirst_sound hnodup hs requested requested
  rw [← he] at hnd hreach
  refine ⟨⟨hlen, hnd, fun x hx => (hreach x hx).1⟩, ?_⟩
  have hconnected := connected_of_reached (fun _ _ => linked_symm) (fun x hx => (hreach x hx).2)
  obtain ⟨x, hx⟩ := List.exists_mem_of_ne_nil _ hne
  have : Nonempty {id // id ∈ selectFabricConnected snapshot devices policy requested} := ⟨⟨x, hx⟩⟩
  refine ⟨fun a b => ?_⟩
  rw [qualifyingGraph_eq_graphOn]
  exact (reachable_graphOn_iff (fun _ _ => linked_symm) a b).mpr (hconnected a a.2 b b.2)

/-- The loop of `selectFabricConnected` from one start comes to its end, and `connectedFrom` is
what the code makes of the devices it has collected. -/
theorem connectedFrom_ends (snapshot : Snapshot) (ids : List String)
    (policy : AcceleratorPlacementPolicySpec) (requested : ℕ) (start : String) :
    ∃ final, Relation.ReflTransGen (Round (linked snapshot policy) ids requested)
        ⟨[start], [start], []⟩ final ∧ final.Ended requested ∧
      connectedFrom snapshot ids policy requested start =
        if final.selected.length = requested then some final.selected else none := by
  obtain ⟨final, hrun, hended, he⟩ :=
    breadthFirst_ends ids requested requested [start] [start] [] (Nat.le_add_right _ _)
  refine ⟨final, hrun, hended, ?_⟩
  rw [he]
  rfl

/-- **The connected search ends and is sound and complete.** -/
theorem selectFabricConnected_spec (hsub : devices.Sublist snapshot.devices)
    (hrequested : 1 ≤ requested) :
    (∀ start, ∃ final, Relation.ReflTransGen
        (Round (linked snapshot policy) (devices.map (·.id)) requested) ⟨[start], [start], []⟩ final ∧
      final.Ended requested ∧
      connectedFrom snapshot (devices.map (·.id)) policy requested start =
        if final.selected.length = requested then some final.selected else none) ∧
    (selectFabricConnected snapshot devices policy requested = [] ↔
      ∀ c : (qualifyingGraph snapshot policy (devices.map (·.id))).ConnectedComponent,
        c.supp.ncard < requested) ∧
    (selectFabricConnected snapshot devices policy requested ≠ [] →
      Drawn devices requested (selectFabricConnected snapshot devices policy requested) ∧
      (qualifyingGraph snapshot policy
        (selectFabricConnected snapshot devices policy requested)).Connected) := by
  have hnodup := nodup_of_sublist hsub
  refine ⟨connectedFrom_ends snapshot _ policy requested, ?_, selectFabricConnected_connected hnodup⟩
  rw [← not_iff_not, ← ne_eq, selectFabricConnected_ne_nil_iff hnodup hrequested, not_forall,
    qualifyingGraph_eq_graphOn]
  constructor
  · rintro ⟨start, hs, ht⟩
    refine ⟨(graphOn (linked snapshot policy) _).connectedComponentMk ⟨start, hs⟩, not_lt.mpr ?_⟩
    exact (le_ncard_component_iff (fun _ _ => linked_symm) hs requested).mpr ht
  · rintro ⟨c, hc⟩
    induction c using SimpleGraph.ConnectedComponent.ind with
    | h v =>
        obtain ⟨start, hs⟩ := v
        have hle := not_lt.mp hc
        exact ⟨start, hs, (le_ncard_component_iff (fun _ _ => linked_symm) hs requested).mp hle⟩

end connected

theorem deviceRow_connected :
    let : Kube := sampleKube
    let policy := samplePolicy .fabricConnected .failClosed
    ∃ snapshot, build deviceRow = .ok snapshot ∧
      (qualifyingGraph snapshot policy
        (selectFabricConnected snapshot snapshot.devices policy 3)).Connected := by
  intro kube policy
  refine ⟨_, rfl, ((selectFabricConnected_spec (List.Sublist.refl _) (by decide)).2.2 ?_).2⟩
  decide +kernel

end AcceleratorFabric.TopologyFit
