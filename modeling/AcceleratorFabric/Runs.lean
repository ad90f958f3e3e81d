import Mathlib

/-! # Runs of a state machine

A machine is a step function on states and events; a run is the fold of a list of events.
`Along ok s es` says that every event of the run meets `ok` in the state in which it is taken.
`invariant_run` is the induction that every safety proof uses: what holds at the start and is
kept by every step that meets `ok` holds after every run that does.  `always_iff_along` is its
sharp form: if a step keeps the invariant exactly when it meets `keep`, the invariant holds
throughout a run exactly if all its steps do.  `holds_run_iff` is the rule for what begins with one
kind of event and lasts until another.

A step may also show something to the outside; `traced` collects it.  `exists_traced` is the rule
for refinement: if every step of one machine is matched by some steps of another that show the
same, then every trace of the first is one of the second. -/

namespace AcceleratorFabric.Runs

variable {S E : Type} (step : S → E → S)

def run (s : S) (es : List E) : S := es.foldl step s

/-- Every event of the run meets `ok` in the state in which it is taken. -/
def Along (ok : S → E → Prop) : S → List E → Prop
  | _, [] => True
  | s, e :: es => ok s e ∧ Along ok (step s e) es

instance instDecidableAlong (ok : S → E → Prop) [∀ s e, Decidable (ok s e)] :
    ∀ (s : S) (es : List E), Decidable (Along step ok s es)
  | _, [] => isTrue trivial
  | s, e :: es =>
      have := instDecidableAlong ok (step s e) es
      inferInstanceAs (Decidable (ok s e ∧ Along step ok (step s e) es))

variable {step}

theorem invariant_run (Inv : S → Prop) {ok : S → E → Prop}
    (hstep : ∀ s e, Inv s → ok s e → Inv (step s e)) :
    ∀ (es : List E) (s : S), Inv s → Along step ok s es → Inv (run step s es) := by
  intro es
  induction es with
  | nil => exact fun s hs _ => hs
  | cons e es ih =>
      intro s hs hok
      exact ih (step s e) (hstep s e hs hok.1) hok.2

theorem always_iff_along (Inv : S → Prop) {ok keep : S → E → Prop}
    (hstep : ∀ s e, Inv s → ok s e → (Inv (step s e) ↔ keep s e)) :
    ∀ (es : List E) (s : S), Inv s → Along step ok s es →
      ((∀ before after, es = before ++ after → Inv (run step s before)) ↔ Along step keep s es) := by
  intro es
  induction es with
  | nil =>
      intro s hs _
      refine ⟨fun _ => trivial, ?_⟩
      intro _ before after h
      rw [(List.nil_eq_append_iff.mp h).1]
      exact hs
  | cons e es ih =>
      intro s hs hok
      constructor
      · intro h
        have hnext : Inv (step s e) := h [e] es rfl
        refine ⟨(hstep s e hs hok.1).mp hnext, (ih _ hnext hok.2).mp ?_⟩
        intro before after heq
        exact h (e :: before) after (by rw [heq]; rfl)
      · rintro ⟨hkeep, hrest⟩ before after heq
        cases before with
        | nil => exact hs
        | cons e' before =>
            cases heq
            have hnext : Inv (step s e) := (hstep s e hs hok.1).mpr hkeep
            exact (ih _ hnext hok.2).mpr hrest before after rfl

theorem run_concat (s : S) (es : List E) (e : E) :
    run step s (es ++ [e]) = step (run step s es) e := by
  unfold run
  rw [List.foldl_append]
  rfl

theorem run_append (s : S) (es es' : List E) :
    run step s (es ++ es') = run step (run step s es) es' := List.foldl_append

theorem along_append {ok : S → E → Prop} {es es' : List E} {s : S} :
    Along step ok s (es ++ es') ↔ Along step ok s es ∧ Along step ok (run step s es) es' := by
  induction es generalizing s with
  | nil => exact ⟨fun h => ⟨trivial, h⟩, fun h => h.2⟩
  | cons e es ih =>
      rw [List.cons_append, Along, Along, ih, and_assoc]
      exact Iff.rfl

theorem along_and {ok ok' : S → E → Prop} : ∀ {es : List E} {s : S}, Along step ok s es →
    Along step ok' s es → Along step (fun s e => ok s e ∧ ok' s e) s es
  | [], _, _, _ => trivial
  | _ :: _, _, h, h' => ⟨⟨h.1, h'.1⟩, along_and h.2 h'.2⟩

theorem along_true : ∀ (es : List E) (s : S), Along step (fun _ _ => True) s es
  | [], _ => trivial
  | e :: es, s => ⟨trivial, along_true es (step s e)⟩

/-- A condition on the events alone. -/
theorem along_of_forall {ok : E → Prop} : ∀ (es : List E) (s : S), (∀ e ∈ es, ok e) →
    Along step (fun _ e => ok e) s es
  | [], _, _ => trivial
  | e :: es, s, h => ⟨h e List.mem_cons_self,
      along_of_forall es (step s e) (fun x hx => h x (List.mem_cons_of_mem _ hx))⟩

/-- What begins with one kind of event and lasts until another: it holds after a run if it held
before and lasted, or began at some event and lasted since. -/
theorem holds_run_iff (I L : S → Prop) {ok : E → Prop} {begins ends : S → E → Prop}
    (hI : ∀ s e, I s → ok e → I (step s e))
    (hstep : ∀ s e, I s → ok e → (L (step s e) ↔ begins s e ∨ L s ∧ ¬ ends s e)) :
    ∀ (es : List E) (s : S), I s → (∀ e ∈ es, ok e) →
      (L (run step s es) ↔ (L s ∧ Along step (fun s e => ¬ ends s e) s es) ∨
        ∃ before e after, es = before ++ e :: after ∧ begins (run step s before) e ∧
          Along step (fun s e => ¬ ends s e) (run step s (before ++ [e])) after)
  | [], s, _, _ => by
      refine ⟨fun h => .inl ⟨h, trivial⟩, ?_⟩
      rintro (h | ⟨before, e, after, heq, _⟩)
      · exact h.1
      · exact absurd heq (by simp)
  | e :: es, s, hs, hes => by
      rw [List.forall_mem_cons] at hes
      show L (run step (step s e) es) ↔ _
      rw [holds_run_iff I L hI hstep es (step s e) (hI s e hs hes.1) hes.2, hstep s e hs hes.1]
      constructor
      · rintro (⟨hbegins | ⟨hL, hlasts⟩, hrest⟩ | ⟨before, e', after, rfl, hbegins, hrest⟩)
        · exact .inr ⟨[], e, es, rfl, hbegins, hrest⟩
        · exact .inl ⟨hL, hlasts, hrest⟩
        · exact .inr ⟨e :: before, e', after, rfl, hbegins, hrest⟩
      · rintro (⟨hL, hlasts, hrest⟩ | ⟨before, e', after, heq, hbegins, hrest⟩)
        · exact .inl ⟨.inr ⟨hL, hlasts⟩, hrest⟩
        · cases before with
          | nil =>
              cases heq
              exact .inl ⟨.inl hbegins, hrest⟩
          | cons first before =>
              cases heq
              exact .inr ⟨before, e', after, rfl, hbegins, hrest⟩

/-! ### Costs -/

section total

variable {M : Type} (step)

/-- The costs of the steps of a run. -/
def total [AddMonoid M] (cost : S → E → M) : S → List E → M
  | _, [] => 0
  | s, e :: es => cost s e + total cost (step s e) es

variable {step}

theorem total_mul (c : ℤ) (cost : S → E → ℕ) : ∀ (s : S) (es : List E),
    total step (fun s e => c * cost s e) s es = c * total step cost s es
  | _, [] => by simp [total]
  | s, e :: es => by
      rw [total, total_mul c cost (step s e) es, total, Nat.cast_add, mul_add]

/-- A run is not longer than what there is to use up at its start, with what its steps bring. -/
theorem length_le_add_total (Inv : S → Prop) {ok : S → E → Prop} (measure : S → ℕ)
    (cost : S → E → ℕ) (hinv : ∀ s e, Inv s → ok s e → Inv (step s e))
    (hlt : ∀ s e, Inv s → ok s e → measure (step s e) < measure s + cost s e) :
    ∀ (es : List E) (s : S), Inv s → Along step ok s es →
      es.length ≤ measure s + total step cost s es
  | [], _, _, _ => Nat.zero_le _
  | e :: es, s, hs, ⟨hok, hrest⟩ => by
      have hle := length_le_add_total Inv measure cost hinv hlt es (step s e) (hinv s e hs hok) hrest
      have := hlt s e hs hok
      simp only [List.length_cons, total]
      omega

/-- The rule of budgets: what a run spends is covered by the budget at its start and its income,
if every step keeps a budget that is not negative. -/
theorem total_le_of_budget (Inv : S → ℤ → Prop) {ok : S → E → Prop} (income expense : S → E → ℤ)
    (hnonneg : ∀ s b, Inv s b → 0 ≤ b)
    (hstep : ∀ s b e, Inv s b → ok s e → Inv (step s e) (b + income s e - expense s e)) :
    ∀ (es : List E) (s : S) (b : ℤ), Inv s b → Along step ok s es →
      total step expense s es ≤ b + total step income s es
  | [], s, b, hs, _ => by
      have := hnonneg s b hs
      simp only [total]
      omega
  | e :: es, s, b, hs, ⟨hok, hrest⟩ => by
      have hle := total_le_of_budget Inv income expense hnonneg hstep es (step s e) _
        (hstep s b e hs hok) hrest
      simp only [total]
      omega

end total

/-! ### Traces -/

section traces

variable {S E S' E' O : Type} (step : S → E → S × List O)

/-- The state after a run and what its steps have shown. -/
def traced (s : S) : List E → S × List O
  | [] => (s, [])
  | e :: es =>
      let rest := traced (step s e).1 es
      (rest.1, (step s e).2 ++ rest.2)

variable {step}

theorem traced_append (es es' : List E) (s : S) :
    traced step s (es ++ es') =
      ((traced step (traced step s es).1 es').1,
        (traced step s es).2 ++ (traced step (traced step s es).1 es').2) := by
  induction es generalizing s with
  | nil => rfl
  | cons e es ih =>
      rw [List.cons_append, traced, ih, traced]
      simp only [List.append_assoc]

theorem exists_traced (step : S → E → S × List O) (step' : S' → E' → S' × List O) (R : S → S' → Prop)
    (hstep : ∀ s s' e, R s s' → ∃ es', R (step s e).1 (traced step' s' es').1 ∧
      (traced step' s' es').2 = (step s e).2) (es : List E) :
    ∀ s s', R s s' → ∃ es', R (traced step s es).1 (traced step' s' es').1 ∧
      (traced step' s' es').2 = (traced step s es).2 := by
  induction es with
  | nil => exact fun s s' h => ⟨[], h, rfl⟩
  | cons e es ih =>
      intro s s' h
      obtain ⟨first, hfirst, hshown⟩ := hstep s s' e h
      obtain ⟨rest, hrest, hshown'⟩ := ih _ _ hfirst
      refine ⟨first ++ rest, ?_, ?_⟩
      · rw [traced_append]
        exact hrest
      · rw [traced_append, traced, hshown, hshown']

end traces

end AcceleratorFabric.Runs
