import AcceleratorFabric.NewestWins
import AcceleratorFabric.TopologyStore

/-! # The cache keeps the newest topologies

The generations of an object, `(Generation, Spec.ObservedGeneration)` in lexicographic order,
are a stamp on its entry.  `Upsert` offers the entry of a valid object to the map of entries,
which keeps the newest (`entries_upsert`).  Hence the cache after a collection of updates does
not depend on the order in which they arrive (`upserts_converge`). -/

namespace AcceleratorFabric.Topology

open GoMap NewestWins

/-- `(Generation, Spec.ObservedGeneration)`, compared from the left. -/
def generations (o : AcceleratorTopology) : ℤ ×ₗ ℤ :=
  toLex (o.generation, o.spec.observedGeneration)

section convergence

variable [Kube]

/-- The generations of the object an entry was made of. -/
def Result.generations (r : Result) : ℤ ×ₗ ℤ := toLex (r.objectGeneration, r.observedGeneration)

theorem generations_resultOf (o : AcceleratorTopology) (snapshot : Snapshot) :
    (resultOf o snapshot).generations = Topology.generations o := rfl

/-- The comparison of `Upsert` is the lexicographic one. -/
theorem olderThan_iff (o : AcceleratorTopology) (cached : Result) :
    olderThan o cached ↔ generations o < cached.generations := by
  unfold olderThan generations Result.generations
  rw [Prod.Lex.toLex_lt_toLex]

/-- What `Upsert` offers to the cache: nothing for an invalid spec. -/
def offered (o : AcceleratorTopology) : Option (String × Result) :=
  match build o.spec with
  | .error _ => none
  | .ok snapshot => some (o.spec.nodeName, resultOf o snapshot)

theorem offered_eq_some_iff (o : AcceleratorTopology) (n : String) (r : Result) :
    offered o = some (n, r) ↔
      ∃ snapshot, build o.spec = .ok snapshot ∧ o.spec.nodeName = n ∧ resultOf o snapshot = r := by
  unfold offered
  cases build o.spec with
  | error e => simp
  | ok snapshot => simp

/-- `Upsert` keeps the newest of the cached entry and the offered one. -/
theorem entries_upsert (s : Store) (o : AcceleratorTopology) :
    (s.upsert (some o)).2.entries =
      (offered o).elim s.entries (fun e => offer Result.generations s.entries e) := by
  rcases s.upsert_cases o with ⟨hdrop, e, h⟩ | ⟨ha, hnew, snapshot, hs, _, he⟩
  · rw [h]
    cases hoff : offered o with
    | none => rfl
    | some entry =>
        obtain ⟨n, r⟩ := entry
        obtain ⟨snapshot, hs, rfl, rfl⟩ := (offered_eq_some_iff o n r).mp hoff
        rcases hdrop with hbad | ⟨cached, hcached, hold⟩
        · exact absurd ((build_isOk_iff _).mp ⟨snapshot, hs⟩) hbad
        · have hout : Outdated Result.generations s.entries
              (o.spec.nodeName, resultOf o snapshot) :=
            ⟨cached, hcached, (olderThan_iff o cached).mp hold⟩
          rw [Option.elim_some, offer, if_pos hout]
  · have hoff : offered o = some (o.spec.nodeName, resultOf o snapshot) :=
      (offered_eq_some_iff o _ _).mpr ⟨snapshot, hs, rfl, rfl⟩
    have hout : ¬ Outdated Result.generations s.entries
        (o.spec.nodeName, resultOf o snapshot) := by
      rintro ⟨cached, hcached, hlt⟩
      exact hnew cached hcached ((olderThan_iff o cached).mpr hlt)
    rw [he, hoff, Option.elim_some, offer, if_neg hout]

theorem Store.eq_of_entries {s t : Store} (h : s.entries = t.entries) : s = t := by
  cases s
  cases t
  cases h
  rfl

/-- A call that fails changes nothing. -/
theorem Store.upsert_of_error {s : Store} {object : Option AcceleratorTopology} {e : UpsertError}
    (h : (s.upsert object).1 = .error e) : (s.upsert object).2 = s := by
  cases object with
  | none => rfl
  | some o =>
      rcases s.upsert_cases o with ⟨_, e', hdrop⟩ | ⟨_, _, _, _, hok, _⟩
      · rw [hdrop]
      · rw [hok] at h
        cases h

/-- The cache after a list of updates. -/
def Store.upsertAll (s : Store) (objects : List AcceleratorTopology) : Store :=
  objects.foldl (fun s o => (s.upsert (some o)).2) s

theorem Store.upsertAll_concat (s : Store) (before : List AcceleratorTopology)
    (o : AcceleratorTopology) :
    s.upsertAll (before ++ [o]) = ((s.upsertAll before).upsert (some o)).2 := by
  unfold upsertAll
  rw [List.foldl_append]
  rfl

theorem entries_upsertAll : ∀ (objects : List AcceleratorTopology) (s : Store),
    (s.upsertAll objects).entries =
      offerAll Result.generations s.entries (objects.filterMap offered)
  | [], _ => rfl
  | o :: objects, s => by
      have ih := entries_upsertAll objects (s.upsert (some o)).2
      rw [Store.upsertAll, List.foldl_cons, ← Store.upsertAll, ih, entries_upsert]
      cases hoff : offered o with
      | none => rw [List.filterMap_cons_none hoff]; rfl
      | some e => rw [List.filterMap_cons_some hoff]; rfl

/-- The objects of a node have different generations. -/
def DistinctGenerations (objects : List AcceleratorTopology) : Prop :=
  objects.Pairwise (fun a b => a.spec.nodeName = b.spec.nodeName → generations a ≠ generations b)

theorem distinctStamps_offered {objects : List AcceleratorTopology}
    (h : DistinctGenerations objects) :
    DistinctStamps Result.generations (objects.filterMap offered) := by
  unfold DistinctStamps
  rw [List.pairwise_filterMap]
  refine h.imp ?_
  rintro a b hab ⟨n, r⟩ hx ⟨n', r'⟩ hy hkey
  obtain ⟨_, _, hna, rfl⟩ := (offered_eq_some_iff a n r).mp hx
  obtain ⟨_, _, hnb, rfl⟩ := (offered_eq_some_iff b n' r').mp hy
  exact hab (hna.trans (hkey.trans hnb.symm))

/-- The object of the node with the largest generations. -/
def IsLatest (objects : List AcceleratorTopology) (n : String) (o : AcceleratorTopology) : Prop :=
  o ∈ objects ∧ o.spec.nodeName = n ∧
    ∀ o' ∈ objects, o'.spec.nodeName = n → generations o' ≤ generations o

theorem isNewest_offered_iff {objects : List AcceleratorTopology}
    (hvalid : ∀ o ∈ objects, ∃ snapshot, build o.spec = .ok snapshot) (n : String) (r : Result) :
    IsNewest Result.generations (objects.filterMap offered) n r ↔
      ∃ o snapshot, IsLatest objects n o ∧ build o.spec = .ok snapshot ∧
        r = resultOf o snapshot := by
  unfold IsNewest IsLatest
  simp only [List.mem_filterMap, offered_eq_some_iff]
  constructor
  · rintro ⟨⟨o, ho, snapshot, hs, hn, rfl⟩, hmax⟩
    refine ⟨o, snapshot, ⟨ho, hn, ?_⟩, hs, rfl⟩
    intro o' ho' hn'
    obtain ⟨snapshot', hs'⟩ := hvalid o' ho'
    exact hmax _ ⟨o', ho', snapshot', hs', hn', rfl⟩
  · rintro ⟨o, snapshot, ⟨ho, hn, hmax⟩, hs, rfl⟩
    refine ⟨⟨o, ho, snapshot, hs, hn, rfl⟩, ?_⟩
    rintro w ⟨o', ho', snapshot', _, hn', rfl⟩
    exact hmax o' ho' hn'

/-- **Updates converge whatever order they arrive in.**  For valid objects with different
generations on each node: every order leads to the same cache, whose entries are those of the
objects with the largest generations; on the way the generations of a node never decrease; and
a call that fails changes nothing. -/
theorem upserts_converge (objects order : List AcceleratorTopology)
    (hvalid : ∀ o ∈ objects, ∃ snapshot, build o.spec = .ok snapshot)
    (hdistinct : DistinctGenerations objects) (hperm : objects.Perm order) :
    newStore.upsertAll order = newStore.upsertAll objects ∧
    (∀ n r, (newStore.upsertAll order).entries.lookup n = some r ↔
      ∃ o snapshot, IsLatest objects n o ∧ build o.spec = .ok snapshot ∧
        r = resultOf o snapshot) ∧
    (∀ before o after, order = before ++ o :: after →
      ∀ n r, (newStore.upsertAll before).entries.lookup n = some r →
        ∃ r', (newStore.upsertAll (before ++ [o])).entries.lookup n = some r' ∧
          r.generations ≤ r'.generations) ∧
    ∀ (s : Store) (object : Option AcceleratorTopology) (e : UpsertError),
      (s.upsert object).1 = .error e → (s.upsert object).2 = s := by
  have hstamps := distinctStamps_offered hdistinct
  have hsame : newStore.upsertAll order = newStore.upsertAll objects := by
    apply Store.eq_of_entries
    rw [entries_upsertAll, entries_upsertAll]
    exact offerAll_perm hstamps (hperm.filterMap offered)
  refine ⟨hsame, ?_, ?_, fun _ _ _ h => Store.upsert_of_error h⟩
  · intro n r
    rw [hsame, entries_upsertAll, ← isNewest_offered_iff hvalid]
    exact lookup_offerAll hstamps n r
  · intro before o after _ n r hr
    rw [Store.upsertAll_concat, entries_upsert]
    cases offered o with
    | none => exact ⟨r, hr, le_refl _⟩
    | some e => exact stamp_offer Result.generations _ e hr

end convergence

/-- Two versions of a node's object, the newer one first. -/
theorem upserts_converge_on_two_versions :
    let : Kube := sampleKube
    let v1 := sampleTopology 1 (sampleSpec [sampleDevice "gpu0"] [])
    let v2 := sampleTopology 2 (sampleSpec [sampleDevice "gpu0", sampleDevice "gpu1"] [])
    newStore.upsertAll [v2, v1] = newStore.upsertAll [v1, v2] := by
  intro kube v1 v2
  have hvalid : ∀ o ∈ [v1, v2], ∃ snapshot, build o.spec = .ok snapshot := by
    simp only [List.forall_mem_cons, List.not_mem_nil, IsEmpty.forall_iff, implies_true, and_true]
    exact ⟨⟨_, rfl⟩, ⟨_, rfl⟩⟩
  have hdistinct : DistinctGenerations [v1, v2] := by
    unfold DistinctGenerations
    decide
  exact (upserts_converge [v1, v2] [v2, v1] hvalid hdistinct (List.Perm.swap _ _ _)).1

end AcceleratorFabric.Topology
