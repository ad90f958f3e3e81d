import AcceleratorFabric.GoMap

/-! # Maps that keep the newest value

Every value carries a stamp of a linear order.  A value offered under a key takes the place of
the value there unless its stamp is smaller.  If the stamps offered under a key are distinct, the
map after a list of offers holds the newest value of every key (`lookup_offerAll`), so it does
not depend on the order of the offers (`offerAll_perm`). -/

namespace AcceleratorFabric.NewestWins

open GoMap

variable {K V S : Type} [DecidableEq K] [LinearOrder S] (stamp : V → S)

/-- The offer is rejected: the key holds a value with a greater stamp. -/
def Outdated (m : GoMap K V) (e : K × V) : Prop := ∃ w, m.lookup e.1 = some w ∧ stamp e.2 < stamp w

instance (m : GoMap K V) (e : K × V) : Decidable (Outdated stamp m e) :=
  match h : m.lookup e.1 with
  | none => isFalse (by rintro ⟨w, hw, _⟩; rw [h] at hw; cases hw)
  | some w => decidable_of_iff (stamp e.2 < stamp w) (by simp [Outdated, h])

def offer (m : GoMap K V) (e : K × V) : GoMap K V :=
  if Outdated stamp m e then m else m.insert e.1 e.2

def offerAll (m : GoMap K V) (es : List (K × V)) : GoMap K V := es.foldl (offer stamp) m

/-- The value is offered under the key, and none with a greater stamp is. -/
def IsNewest (es : List (K × V)) (k : K) (v : V) : Prop :=
  (k, v) ∈ es ∧ ∀ w, (k, w) ∈ es → stamp w ≤ stamp v

/-- No two offers under a key have the same stamp. -/
def DistinctStamps (es : List (K × V)) : Prop :=
  es.Pairwise (fun a b => a.1 = b.1 → stamp a.2 ≠ stamp b.2)

variable {stamp}

omit [DecidableEq K] [LinearOrder S] in
theorem DistinctStamps.perm {es es' : List (K × V)} (h : DistinctStamps stamp es)
    (hp : es.Perm es') : DistinctStamps stamp es' :=
  hp.pairwise h fun hab e => (hab e.symm).symm

omit [DecidableEq K] in
/-- Of distinct stamps, one value is the newest. -/
theorem IsNewest.unique {es : List (K × V)} (hd : DistinctStamps stamp es) {k : K} {v w : V}
    (hv : IsNewest stamp es k v) (hw : IsNewest stamp es k w) : v = w := by
  by_contra hne
  have hstamp : stamp v = stamp w := le_antisymm (hw.2 v hv.1) (hv.2 w hw.1)
  have hsymm : Std.Symm (fun a b : K × V => a.1 = b.1 → stamp a.2 ≠ stamp b.2) :=
    ⟨fun _ _ hab e => (hab e.symm).symm⟩
  exact List.Pairwise.forall hd hv.1 hw.1 (fun e => hne (Prod.mk.inj e).2) rfl hstamp

theorem lookup_offer (m : GoMap K V) (e : K × V) (k : K) : (offer stamp m e).lookup k =
    if k = e.1 ∧ ¬ Outdated stamp m e then some e.2 else m.lookup k := by
  unfold offer
  by_cases ho : Outdated stamp m e
  · rw [if_pos ho, if_neg (fun h => h.2 ho)]
  · rw [if_neg ho, lookup_insert_ite]
    by_cases hk : k = e.1
    · rw [if_pos hk, if_pos ⟨hk, ho⟩]
    · rw [if_neg hk, if_neg (fun h => hk h.1)]

/-- An offer never makes the value of a key older. -/
theorem stamp_offer (stamp : V → S) (m : GoMap K V) (e : K × V) {k : K} {v : V}
    (h : m.lookup k = some v) : ∃ w, (offer stamp m e).lookup k = some w ∧ stamp v ≤ stamp w := by
  rw [lookup_offer]
  split_ifs with hnew
  · obtain ⟨rfl, ho⟩ := hnew
    refine ⟨e.2, rfl, ?_⟩
    by_contra hlt
    exact ho ⟨v, h, not_le.mp hlt⟩
  · exact ⟨v, h, le_refl _⟩

/-- The map holds the newest value of every key that was offered. -/
structure Holds (stamp : V → S) (es : List (K × V)) (m : GoMap K V) : Prop where
  newest : ∀ k v, m.lookup k = some v → IsNewest stamp es k v
  present : ∀ k w, (k, w) ∈ es → ∃ v, m.lookup k = some v

theorem holds_empty : Holds stamp ([] : List (K × V)) ∅ :=
  ⟨by simp, by simp⟩

theorem Holds.offer {es : List (K × V)} {m : GoMap K V} (h : Holds stamp es m) (e : K × V) :
    Holds stamp (es ++ [e]) (offer stamp m e) := by
  constructor
  · intro k v hv
    rw [lookup_offer] at hv
    split_ifs at hv with hnew
    · -- the offer replaces a value that was the newest so far
      obtain ⟨rfl, ho⟩ := hnew
      cases hv
      refine ⟨List.mem_append_right _ (List.mem_singleton.mpr rfl), ?_⟩
      intro w hw
      rcases List.mem_append.mp hw with hw | hw
      · obtain ⟨v, hv⟩ := h.present e.1 w hw
        have hle : stamp v ≤ stamp e.2 := by
          by_contra hlt
          exact ho ⟨v, hv, not_le.mp hlt⟩
        exact ((h.newest _ v hv).2 w hw).trans hle
      · rw [← List.mem_singleton.mp hw]
    · -- the value stays, either because the offer is older or because it has another key
      obtain ⟨hmem, hmax⟩ := h.newest k v hv
      refine ⟨List.mem_append_left _ hmem, ?_⟩
      intro w hw
      rcases List.mem_append.mp hw with hw | hw
      · exact hmax w hw
      · cases List.mem_singleton.mp hw
        obtain ⟨w', hw', hlt⟩ : Outdated stamp m (k, w) := by
          by_contra ho
          exact hnew ⟨rfl, ho⟩
        rw [hv] at hw'
        cases hw'
        exact hlt.le
  · intro k w hw
    rcases List.mem_append.mp hw with hw | hw
    · obtain ⟨v, hv⟩ := h.present k w hw
      obtain ⟨v', hv', _⟩ := stamp_offer stamp m e hv
      exact ⟨v', hv'⟩
    · cases List.mem_singleton.mp hw
      rw [lookup_offer]
      split_ifs with hnew
      · exact ⟨w, rfl⟩
      · have ho : Outdated stamp m (k, w) := by
          by_contra ho
          exact hnew ⟨rfl, ho⟩
        obtain ⟨v, hv, _⟩ := ho
        exact ⟨v, hv⟩

theorem Holds.offerAll : ∀ (es' es : List (K × V)) (m : GoMap K V), Holds stamp es m →
    Holds stamp (es ++ es') (offerAll stamp m es')
  | [], es, m, h => by
      rw [List.append_nil]
      exact h
  | e :: es', es, m, h => by
      have ih := Holds.offerAll es' (es ++ [e]) _ (h.offer e)
      rw [List.append_assoc, List.singleton_append] at ih
      exact ih

/-- The map after a list of offers holds exactly the newest values. -/
theorem lookup_offerAll {es : List (K × V)} (hd : DistinctStamps stamp es) (k : K) (v : V) :
    (offerAll stamp ∅ es).lookup k = some v ↔ IsNewest stamp es k v := by
  have h : Holds stamp es (offerAll stamp ∅ es) := Holds.offerAll es [] ∅ holds_empty
  constructor
  · exact h.newest k v
  · intro hv
    obtain ⟨w, hw⟩ := h.present k v hv.1
    rw [hw, hv.unique hd (h.newest k w hw)]

/-- The order of the offers does not matter. -/
theorem offerAll_perm {es es' : List (K × V)} (hd : DistinctStamps stamp es) (hp : es.Perm es') :
    offerAll stamp ∅ es' = offerAll stamp ∅ es := by
  apply Finmap.ext_lookup
  intro k
  apply Option.ext
  intro v
  rw [lookup_offerAll (hd.perm hp), lookup_offerAll hd]
  unfold IsNewest
  simp only [hp.mem_iff]

end AcceleratorFabric.NewestWins
