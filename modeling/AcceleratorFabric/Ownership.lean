import Mathlib

/-! # Exclusive holdings and their inverse index

Holders own sets of resources, and a second structure answers who owns a given resource.
`Indexes owner holds` says that the second is the inverse of the first; it makes ownership
exclusive (`Indexes.exclusive`) and it survives the two updates a resource manager performs:
a holder with nothing takes free resources (`Indexes.acquire`), and a holder gives back all
it has (`Indexes.release`). -/

namespace AcceleratorFabric.Ownership

variable {H R : Type}

/-- `owner` is the inverse index of `holds`. -/
def Indexes (owner : R → Option H) (holds : H → Set R) : Prop :=
  ∀ r h, owner r = some h ↔ r ∈ holds h

variable {owner : R → Option H} {holds : H → Set R}

/-- No resource has two holders. -/
theorem Indexes.exclusive (hi : Indexes owner holds) {r : R} {a b : H} (ha : r ∈ holds a)
    (hb : r ∈ holds b) : a = b := by
  have h1 := (hi r a).mpr ha
  have h2 := (hi r b).mpr hb
  rw [h1] at h2
  exact Option.some.inj h2

/-- A holder takes resources that nobody owns. -/
theorem Indexes.acquire (hi : Indexes owner holds) {h : H} {s : Set R} {owner' : R → Option H}
    {holds' : H → Set R} (hfree : ∀ r ∈ s, owner r = none) (hnone : holds h = ∅)
    (howner : ∀ r, (r ∈ s → owner' r = some h) ∧ (r ∉ s → owner' r = owner r))
    (hself : holds' h = s) (hothers : ∀ a, a ≠ h → holds' a = holds a) :
    Indexes owner' holds' := by
  intro r a
  by_cases hr : r ∈ s
  · rw [(howner r).1 hr, Option.some.injEq]
    constructor
    · rintro rfl
      rw [hself]
      exact hr
    · intro ha
      by_contra hne
      rw [hothers a (fun e => hne e.symm), ← hi r a, hfree r hr] at ha
      cases ha
  · rw [(howner r).2 hr, hi r a]
    by_cases ha : a = h
    · subst ha
      rw [hnone, hself]
      simp [hr]
    · rw [hothers a ha]

/-- A holder gives back everything it has. -/
theorem Indexes.release (hi : Indexes owner holds) {h : H} {owner' : R → Option H}
    {holds' : H → Set R}
    (howner : ∀ r, (r ∈ holds h → owner' r = none) ∧ (r ∉ holds h → owner' r = owner r))
    (hself : holds' h = ∅) (hothers : ∀ a, a ≠ h → holds' a = holds a) :
    Indexes owner' holds' := by
  intro r a
  by_cases hr : r ∈ holds h
  · rw [(howner r).1 hr]
    constructor
    · intro e
      cases e
    · intro ha
      by_cases hah : a = h
      · rw [hah, hself] at ha
        cases ha
      · rw [hothers a hah] at ha
        exact absurd (hi.exclusive ha hr) hah
  · rw [(howner r).2 hr, hi r a]
    by_cases hah : a = h
    · rw [hah, hself]
      simp [hr]
    · rw [hothers a hah]

end AcceleratorFabric.Ownership
