import Mathlib

/-! # Finite maps with Go's map operations

A Go `map[K]V` is a finite partial function without an order, so it is Mathlib's `Finmap`
at a constant family.  Reading an absent key is `lookup = none`; `m[k] = v` is `insert` and
`delete(m, k)` is `erase`.  The lemmas below give every operation by its effect on `lookup`,
which is how the later modules reason: two maps with the same lookups are equal
(`Finmap.ext_lookup`). -/

namespace AcceleratorFabric

/-- A Go map from `K` to `V`. -/
abbrev GoMap (K V : Type) := Finmap (fun _ : K => V)

namespace GoMap

variable {K V : Type} [DecidableEq K]

theorem lookup_insert_ite (m : GoMap K V) (k k' : K) (v : V) :
    (m.insert k v).lookup k' = if k' = k then some v else m.lookup k' := by
  by_cases h : k' = k
  · subst h; simp
  · rw [if_neg h]; exact Finmap.lookup_insert_of_ne m h

theorem lookup_erase_ite (m : GoMap K V) (k k' : K) :
    (m.erase k).lookup k' = if k' = k then none else m.lookup k' := by
  by_cases h : k' = k
  · subst h; simp
  · rw [if_neg h]; exact Finmap.lookup_erase_ne h

/-- An entry put back into the map it was erased from. -/
theorem insert_self {m : GoMap K V} {k : K} {v : V} (h : m.lookup k = some v) :
    m.insert k v = m := by
  refine Finmap.ext_lookup fun x => ?_
  rw [lookup_insert_ite]
  split_ifs with hx
  · rw [hx, h]
  · rfl

theorem insert_erase_self {m : GoMap K V} {k : K} {v : V} (h : m.lookup k = some v) :
    (m.erase k).insert k v = m := by
  apply Finmap.ext_lookup
  intro x
  rw [lookup_insert_ite, lookup_erase_ite]
  split_ifs with hx
  · rw [hx, h]
  · rfl

/-- Erasing an entry that was not there before its insertion. -/
theorem erase_insert_self {m : GoMap K V} {k : K} {v : V} (h : m.lookup k = none) :
    (m.insert k v).erase k = m := by
  apply Finmap.ext_lookup
  intro x
  rw [lookup_erase_ite]
  split_ifs with hx
  · rw [hx, h]
  · rw [lookup_insert_ite, if_neg hx]

/-- A map literal. -/
def literal (entries : List (K × V)) : GoMap K V :=
  entries.foldl (fun m e => m.insert e.1 e.2) ∅

theorem lookup_literal_eq_some_iff {entries : List (K × V)} {k : K} {v : V}
    (h : (entries.map Prod.fst).Nodup) :
    (literal entries).lookup k = some v ↔ (k, v) ∈ entries := by
  induction entries using List.reverseRecOn with
  | nil => simp [literal]
  | append_singleton entries e ih =>
      obtain ⟨k', v'⟩ := e
      have hconcat : literal (entries ++ [(k', v')]) = (literal entries).insert k' v' := by
        simp [literal]
      rw [List.map_append, List.map_singleton, List.nodup_append] at h
      rw [hconcat, lookup_insert_ite, List.mem_append, List.mem_singleton, Prod.mk.injEq]
      by_cases hk : k = k'
      · subst hk
        have habsent : (k, v) ∉ entries := fun hmem =>
          h.2.2 k (List.mem_map_of_mem hmem) k (by simp) rfl
        simp [habsent, eq_comm]
      · rw [if_neg hk, ih h.1]
        simp [hk]

/-- `m[k] = v` if there is a value. -/
def insertSome (m : GoMap K V) (k : K) : Option V → GoMap K V
  | none => m
  | some v => m.insert k v

theorem lookup_insertSome (m : GoMap K V) (k k' : K) (v : Option V) :
    (insertSome m k v).lookup k' = if k' = k then v.or (m.lookup k') else m.lookup k' := by
  cases v with
  | none => simp [insertSome]
  | some v => simp [insertSome, lookup_insert_ite]

/-- `for k in ks { m[k] = v }`. -/
def insertAll (m : GoMap K V) (ks : List K) (v : V) : GoMap K V :=
  ks.foldl (fun acc k => acc.insert k v) m

/-- `for k in ks { delete(m, k) }`. -/
def eraseAll (m : GoMap K V) (ks : List K) : GoMap K V :=
  ks.foldl (fun acc k => acc.erase k) m

theorem lookup_insertAll : ∀ (ks : List K) (m : GoMap K V) (v : V) (x : K),
    (insertAll m ks v).lookup x = if x ∈ ks then some v else m.lookup x
  | [], m, v, x => by simp [insertAll]
  | k :: ks, m, v, x => by
      have ih := lookup_insertAll ks (m.insert k v) v x
      simp only [insertAll, List.foldl_cons] at ih ⊢
      rw [ih, lookup_insert_ite]
      by_cases h1 : x ∈ ks <;> by_cases h2 : x = k <;> simp [h1, h2]

theorem lookup_eraseAll : ∀ (ks : List K) (m : GoMap K V) (x : K),
    (eraseAll m ks).lookup x = if x ∈ ks then none else m.lookup x
  | [], m, x => by simp [eraseAll]
  | k :: ks, m, x => by
      have ih := lookup_eraseAll ks (m.erase k) x
      simp only [eraseAll, List.foldl_cons] at ih ⊢
      rw [ih, lookup_erase_ite]
      by_cases h1 : x ∈ ks <;> by_cases h2 : x = k <;> simp [h1, h2]

/-- A nested read `m[a][b]`: absent when either level is. -/
def lookup₂ {J : Type} [DecidableEq J] (m : GoMap J (GoMap K V)) (a : J) (b : K) : Option V :=
  (m.lookup a).bind (fun inner => inner.lookup b)

/-- The keys of `m` whose value satisfies `p`. -/
def keysWhere (m : GoMap K V) (p : V → Bool) : Finset K :=
  m.keys.filter (fun k => (m.lookup k).any p)

theorem mem_keysWhere (m : GoMap K V) (p : V → Bool) (k : K) :
    k ∈ keysWhere m p ↔ ∃ v, m.lookup k = some v ∧ p v = true := by
  unfold keysWhere
  rw [Finset.mem_filter, Finmap.mem_keys, Finmap.mem_iff]
  constructor
  · rintro ⟨⟨v, hv⟩, hp⟩
    rw [hv] at hp
    exact ⟨v, hv, by simpa using hp⟩
  · rintro ⟨v, hv, hp⟩
    exact ⟨⟨v, hv⟩, by rw [hv]; simpa using hp⟩

/-- An order in which maps are ranged over; Go leaves it open. -/
structure Iteration (K V : Type) [DecidableEq K] where
  list : GoMap K V → List (K × V)
  nodup : ∀ m, ((list m).map Prod.fst).Nodup
  mem_iff : ∀ m k v, (k, v) ∈ list m ↔ m.lookup k = some v

section sorted

variable (r : K → K → Prop) [DecidableRel r] [IsTrans K r] [Std.Antisymm r] [Std.Total r]

/-- The keys in the order `r`. -/
def sortedKeys (m : GoMap K V) : List K :=
  Quotient.liftOn m.keys.val (fun l => l.insertionSort r) fun _ _ h =>
    List.Perm.eq_of_pairwise' (List.pairwise_insertionSort r _) (List.pairwise_insertionSort r _)
      ((List.perm_insertionSort r _).trans (h.trans (List.perm_insertionSort r _).symm))

omit [DecidableEq K] in
theorem coe_sortedKeys (m : GoMap K V) : (sortedKeys r m : Multiset K) = m.keys.val := by
  unfold sortedKeys
  generalize m.keys.val = s
  induction s using Quotient.inductionOn with
  | h l => exact Multiset.coe_eq_coe.mpr (List.perm_insertionSort r l)

theorem mem_sortedKeys (m : GoMap K V) (k : K) : k ∈ sortedKeys r m ↔ ∃ v, m.lookup k = some v := by
  rw [← Multiset.mem_coe, coe_sortedKeys, Finset.mem_val, Finmap.mem_keys, Finmap.mem_iff]

omit [DecidableEq K] in
theorem nodup_sortedKeys (m : GoMap K V) : (sortedKeys r m).Nodup := by
  rw [← Multiset.coe_nodup, coe_sortedKeys]
  exact m.keys.nodup

omit [DecidableEq K] in
theorem pairwise_sortedKeys (m : GoMap K V) : (sortedKeys r m).Pairwise r := by
  unfold sortedKeys
  generalize m.keys.val = s
  induction s using Quotient.inductionOn with
  | h l => exact List.pairwise_insertionSort r l

/-- The iteration in the order of the keys. -/
def Iteration.sorted : Iteration K V where
  list m := (sortedKeys r m).filterMap (fun k => (m.lookup k).map (fun v => (k, v)))
  nodup m := by
    have hkeys : ((sortedKeys r m).filterMap (fun k => (m.lookup k).map (fun v => (k, v)))).map
        Prod.fst = sortedKeys r m := by
      have hself : ∀ k ∈ sortedKeys r m,
          ((m.lookup k).map (fun v => (k, v))).map Prod.fst = some k := by
        intro k hk
        obtain ⟨v, hv⟩ := (mem_sortedKeys r m k).mp hk
        rw [hv]
        rfl
      rw [List.map_filterMap, List.filterMap_congr hself, List.filterMap_some]
    rw [hkeys]
    exact nodup_sortedKeys r m
  mem_iff m k v := by
    rw [List.mem_filterMap]
    constructor
    · rintro ⟨x, _, hx⟩
      obtain ⟨w, hw, heq⟩ := Option.map_eq_some_iff.mp hx
      cases heq
      exact hw
    · intro h
      exact ⟨k, (mem_sortedKeys r m k).mpr ⟨v, h⟩, by rw [h]; rfl⟩

end sorted

section ordered

variable {K V : Type} [LinearOrder K] (m : GoMap K V)

/-- The keys in their own order. -/
def orderedKeys : List K := sortedKeys (· ≤ ·) m

theorem mem_orderedKeys (k : K) : k ∈ orderedKeys m ↔ k ∈ m := by
  rw [orderedKeys, ← Multiset.mem_coe, coe_sortedKeys, Finset.mem_val, Finmap.mem_keys]

theorem pairwise_orderedKeys : (orderedKeys m).Pairwise (· < ·) := by
  have hsorted := pairwise_sortedKeys (· ≤ ·) m
  exact (hsorted.and (nodup_sortedKeys (· ≤ ·) m)).imp fun h => lt_of_le_of_ne h.1 h.2

end ordered

end GoMap
end AcceleratorFabric
