import AcceleratorFabric.GoMap
import AcceleratorFabric.Runs

/-! # Notification through a channel of capacity one

A shared value is changed under a lock.  After it has released the lock, the writer puts a token
into a channel of capacity one, or drops it if the channel is full.  A reader loads a view of the
value, sends it to its client and waits for a token to do so again.  All these steps interleave.

* `fresh_run`: with one reader at a time, what a reader has loaded last is current, or a token is
  there or still to come.
* `Fresh.settle`: so a reader that is left to finish sends its client the current view.
* `starve`: a second reader can take the only token of a change from the first. -/

namespace AcceleratorFabric.Notification

open Runs GoMap

variable {V L K W : Type}

/-- What a reader does next, with the view it has loaded last. -/
inductive Reader (L : Type) where
  | loading
  | sending (l : L)
  | waiting (l : L)
deriving DecidableEq, Repr

/-- The view that the reader has loaded and has not given up yet. -/
def Reader.loaded : Reader L → Option L
  | loading => none
  | sending l => some l
  | waiting l => some l

structure State (V L K : Type) where
  value : V
  /-- The writers between their change and their notification. -/
  notifiers : ℕ
  /-- The channel is full. -/
  token : Bool
  readers : GoMap K (Reader L)

def State.start (v : V) : State V L K := ⟨v, 0, false, ∅⟩

inductive Event (W K : Type) where
  | change (w : W)
  | notify
  | connect (k : K)
  | load (k : K)
  | send (k : K) (ok : Bool)
  | receive (k : K)
  | cancel (k : K)
deriving DecidableEq, Repr

variable [DecidableEq K] (view : V → L) (change : V → W → Option V)

/-- An event whose time has not come does nothing.  A change that leaves the value as it is
notifies nobody. -/
def step (s : State V L K) : Event W K → State V L K
  | .change w =>
      match change s.value w with
      | none => s
      | some v => { s with value := v, notifiers := s.notifiers + 1 }
  | .notify =>
      if s.notifiers = 0 then s
      else { s with notifiers := s.notifiers - 1, token := true }
  | .connect k =>
      match s.readers.lookup k with
      | none => { s with readers := s.readers.insert k .loading }
      | some _ => s
  | .load k =>
      match s.readers.lookup k with
      | some .loading => { s with readers := s.readers.insert k (.sending (view s.value)) }
      | _ => s
  | .send k ok =>
      match s.readers.lookup k with
      | some (.sending l) =>
          { s with readers := if ok then s.readers.insert k (.waiting l) else s.readers.erase k }
      | _ => s
  | .receive k =>
      match s.readers.lookup k, s.token with
      | some (.waiting _), true =>
          { s with token := false, readers := s.readers.insert k .loading }
      | _, _ => s
  | .cancel k =>
      match s.readers.lookup k with
      | some (.waiting _) => { s with readers := s.readers.erase k }
      | _ => s

/-- A reader connects only when there is no other. -/
def OneReader (s : State V L K) : Event W K → Prop
  | .connect _ => s.readers = ∅
  | _ => True

instance [DecidableEq L] (s : State V L K) (e : Event W K) : Decidable (OneReader s e) := by
  cases e <;> unfold OneReader <;> infer_instance

/-- A token is in the channel or will be put there. -/
def State.Notified (s : State V L K) : Prop := s.token = true ∨ 0 < s.notifiers

/-- There is one reader at most, and a view that it holds is current or will be replaced. -/
structure Fresh (s : State V L K) : Prop where
  alone : ∀ k k', k ∈ s.readers → k' ∈ s.readers → k = k'
  current : ∀ k r l, s.readers.lookup k = some r → r.loaded = some l →
    l = view s.value ∨ s.Notified

variable {view change} {s : State V L K}

theorem fresh_start (v : V) : Fresh view (State.start v : State V L K) where
  alone _ _ h := absurd h Finmap.notMem_empty
  current _ _ _ h := by cases h

/-- The reader `k` moves on, and holds the current view if it holds one. -/
theorem Fresh.move (h : Fresh view s) {k : K} (hk : k ∈ s.readers) {r : Reader L}
    (hr : ∀ l, r.loaded = some l → l = view s.value ∨ s.Notified) :
    Fresh view { s with readers := s.readers.insert k r } where
  alone a b ha hb := by
    rw [Finmap.mem_insert] at ha hb
    have hself : ∀ {x}, x = k ∨ x ∈ s.readers → x = k := by
      rintro x (rfl | hx)
      · rfl
      · exact h.alone x k hx hk
    rw [hself ha, hself hb]
  current a q l hq hl := by
    rw [lookup_insert_ite] at hq
    split_ifs at hq with ha
    · cases hq
      exact hr l hl
    · exact h.current a q l hq hl

theorem Fresh.erase (h : Fresh view s) (k : K) :
    Fresh view { s with readers := s.readers.erase k } where
  alone a b ha hb := h.alone a b (Finmap.mem_erase.mp ha).2 (Finmap.mem_erase.mp hb).2
  current a q l hq hl := by
    rw [lookup_erase_ite] at hq
    split_ifs at hq
    exact h.current a q l hq hl

theorem mem_of_lookup {k : K} {r : Reader L} (h : s.readers.lookup k = some r) : k ∈ s.readers :=
  Finmap.mem_iff.mpr ⟨r, h⟩

/-- What an event makes of the value, at whatever moment it comes. -/
def Event.apply (change : V → W → Option V) (v : V) : Event W K → V
  | .change w => (change v w).getD v
  | _ => v

/-- What a step can do. -/
inductive Stepped (view : V → L) (change : V → W → Option V) (s : State V L K) :
    Event W K → State V L K → Prop where
  | idle (e : Event W K) : Stepped view change s e s
  | changed {w : W} {v : V} (h : change s.value w = some v) :
      Stepped view change s (.change w) { s with value := v, notifiers := s.notifiers + 1 }
  | notified (h : 0 < s.notifiers) :
      Stepped view change s .notify { s with notifiers := s.notifiers - 1, token := true }
  | connected {k : K} (h : s.readers.lookup k = none) :
      Stepped view change s (.connect k) { s with readers := s.readers.insert k .loading }
  | loaded {k : K} (h : s.readers.lookup k = some .loading) :
      Stepped view change s (.load k)
        { s with readers := s.readers.insert k (.sending (view s.value)) }
  | sent {k : K} {l : L} (h : s.readers.lookup k = some (.sending l)) :
      Stepped view change s (.send k true) { s with readers := s.readers.insert k (.waiting l) }
  | failed {k : K} {l : L} (h : s.readers.lookup k = some (.sending l)) :
      Stepped view change s (.send k false) { s with readers := s.readers.erase k }
  | received {k : K} {l : L} (h : s.readers.lookup k = some (.waiting l)) (ht : s.token = true) :
      Stepped view change s (.receive k)
        { s with token := false, readers := s.readers.insert k .loading }
  | cancelled {k : K} {l : L} (h : s.readers.lookup k = some (.waiting l)) :
      Stepped view change s (.cancel k) { s with readers := s.readers.erase k }

theorem stepped_step (s : State V L K) (e : Event W K) :
    Stepped view change s e (step view change s e) := by
  cases e with
  | change w =>
      simp only [step]
      split
      · exact .idle _
      · next h => exact .changed h
  | notify =>
      simp only [step]
      split_ifs with h
      · exact .idle _
      · exact .notified (Nat.pos_of_ne_zero h)
  | connect k =>
      simp only [step]
      split
      · next h => exact .connected h
      · exact .idle _
  | load k =>
      simp only [step]
      split
      · next h => exact .loaded h
      · exact .idle _
  | send k ok =>
      simp only [step]
      split
      · next h =>
          cases ok with
          | true => exact .sent h
          | false => exact .failed h
      · exact .idle _
  | receive k =>
      simp only [step]
      split
      · next h ht => exact .received h ht
      · exact .idle _
  | cancel k =>
      simp only [step]
      split
      · next h => exact .cancelled h
      · exact .idle _

theorem Stepped.value_eq {e : Event W K} {s' : State V L K} (h : Stepped view change s e s')
    (he : ∀ w, e ≠ .change w) : s'.value = s.value := by
  cases h with
  | changed => exact absurd rfl (he _)
  | _ => rfl

theorem value_step (s : State V L K) (e : Event W K) :
    (step view change s e).value = e.apply change s.value := by
  have hstepped : Stepped view change s e (step view change s e) := stepped_step s e
  cases e with
  | change w =>
      simp only [step, Event.apply]
      cases change s.value w with
      | none => rfl
      | some v => rfl
  | _ => exact hstepped.value_eq fun _ he => by cases he

theorem value_run (es : List (Event W K)) (s : State V L K) :
    (run (step view change) s es).value = es.foldl (Event.apply change) s.value := by
  induction es generalizing s with
  | nil => rfl
  | cons e es ih =>
      show (run (step view change) (step view change s e) es).value = _
      rw [ih, value_step, List.foldl_cons]

/-- The step lemma.  Only a reader that takes the token takes away what keeps views current, and
it is the only reader there is. -/
theorem Fresh.step (h : Fresh view s) {e : Event W K} {s' : State V L K}
    (hs : Stepped view change s e s') (hone : OneReader s e) : Fresh view s' := by
  cases hs with
  | idle => exact h
  | changed => exact ⟨h.alone, fun _ _ _ _ _ => .inr (.inr (Nat.succ_pos _))⟩
  | notified => exact ⟨h.alone, fun _ _ _ _ _ => .inr (.inl rfl)⟩
  | @connected k =>
      have hempty : s.readers = ∅ := hone
      refine ⟨fun a b ha hb => ?_, fun a q l hq hl => ?_⟩
      · simp only [hempty, Finmap.mem_insert, Finmap.notMem_empty, or_false] at ha hb
        rw [ha, hb]
      · simp only [hempty, lookup_insert_ite, Finmap.lookup_empty] at hq
        split_ifs at hq
        cases hq
        cases hl
  | loaded hk =>
      refine h.move (mem_of_lookup hk) fun l hl => .inl ?_
      cases hl
      rfl
  | sent hk => exact h.move (mem_of_lookup hk) fun l hl => h.current _ _ l hk hl
  | failed => exact h.erase _
  | @received k l hk =>
      have hmoved := h.move (mem_of_lookup hk) (r := .loading) fun _ hl => by cases hl
      refine ⟨hmoved.alone, fun a q l' hq hl => ?_⟩
      simp only [lookup_insert_ite] at hq
      split_ifs at hq with ha
      · cases hq
        cases hl
      · exact absurd (h.alone a k (mem_of_lookup hq) (mem_of_lookup hk)) ha
  | cancelled => exact h.erase _

theorem fresh_run (v : V) (es : List (Event W K))
    (hone : Along (step view change) OneReader (State.start v : State V L K) es) :
    Fresh view (run (step view change) (State.start v) es) :=
  invariant_run (Fresh view) (fun s e h hok => h.step (stepped_step s e) hok) es _ (fresh_start v) hone

/-! ### What is on its way arrives -/

/-- The notifiers finish, and the reader finishes its round and takes one more. -/
def settle (notifiers : ℕ) (k : K) : List (Event W K) :=
  List.replicate notifiers .notify ++
    [.load k, .send k true, .receive k, .load k, .send k true]

theorem run_notify : ∀ (n : ℕ) (s : State V L K), s.notifiers = n →
    run (step view change) s (List.replicate n .notify) =
      { s with notifiers := 0, token := s.token || decide (0 < n) }
  | 0, s, h => by
      obtain ⟨value, notifiers, token, readers⟩ := s
      cases h
      simp [run]
  | n + 1, s, h => by
      have hne : s.notifiers ≠ 0 := by omega
      rw [List.replicate_succ]
      show run (step view change) (step view change s .notify) _ = _
      rw [show step view change s .notify =
        { s with notifiers := s.notifiers - 1, token := true } from if_neg hne]
      rw [run_notify n _ (by show s.notifiers - 1 = n; omega)]
      simp

section rounds

variable {k : K} {l : L}

theorem step_load (h : s.readers.lookup k = some .loading) :
    step view change s (.load k) =
      { s with readers := s.readers.insert k (.sending (view s.value)) } := by
  simp only [step, h]

theorem step_send (h : s.readers.lookup k = some (.sending l)) :
    step view change s (.send k true) = { s with readers := s.readers.insert k (.waiting l) } := by
  simp only [step, h, if_true]

theorem step_receive (h : s.readers.lookup k = some (.waiting l)) (ht : s.token = true) :
    step view change s (.receive k) =
      { s with token := false, readers := s.readers.insert k .loading } := by
  simp only [step, h, ht]

/-- The reader finishes the round that it is in. -/
theorem run_round (h : s.readers.lookup k = some .loading) :
    run (step view change) s [.load k, .send k true] =
      { s with readers := s.readers.insert k (.waiting (view s.value)) } := by
  show step view change (step view change s (.load k)) (.send k true) = _
  rw [step_load h, step_send (Finmap.lookup_insert _), Finmap.insert_insert]

/-- A reader that is not loading waits after the first part of its round. -/
theorem run_round_loaded {r : Reader L} (h : s.readers.lookup k = some r)
    (hl : r.loaded = some l) :
    run (step view change) s [.load k, .send k true] =
      { s with readers := s.readers.insert k (.waiting l) } := by
  show step view change (step view change s (.load k)) (.send k true) = _
  cases r with
  | loading => cases hl
  | sending l' =>
      cases hl
      have hload : step view change s (.load k) = s := by simp only [step, h]
      rw [hload, step_send h]
  | waiting l' =>
      cases hl
      have hload : step view change s (.load k) = s := by simp only [step, h]
      have hsend : step view change s (.send k true) = s := by simp only [step, h]
      rw [hload, hsend, insert_self h]

/-- A waiting reader takes the token if there is one, and ends with the current view. -/
theorem run_again (h : s.readers.lookup k = some (.waiting l))
    (hl : l = view s.value ∨ s.token = true) :
    run (step view change) s [.receive k, .load k, .send k true] =
      { s with token := false, readers := s.readers.insert k (.waiting (view s.value)) } := by
  show run (step view change) (step view change s (.receive k)) [.load k, .send k true] = _
  cases ht : s.token with
  | true =>
      rw [step_receive h ht, run_round (Finmap.lookup_insert _), Finmap.insert_insert]
  | false =>
      rw [ht] at hl
      obtain rfl : l = view s.value := by simpa using hl
      have hreceive : step view change s (.receive k) = s := by simp only [step, h, ht]
      rw [hreceive, run_round_loaded h rfl, ← ht]

end rounds

/-- A reader that is left to finish ends waiting, with the current view at its client. -/
theorem Fresh.settle (h : Fresh view s) {k : K} (hk : k ∈ s.readers) :
    run (Notification.step view change) s (settle s.notifiers k) =
      ⟨s.value, 0, false, s.readers.insert k (.waiting (view s.value))⟩ := by
  obtain ⟨r, hr⟩ := Finmap.mem_iff.mp hk
  have hsplit : (Notification.settle s.notifiers k : List (Event W K)) =
      List.replicate s.notifiers .notify ++ ([.load k, .send k true] ++
        [.receive k, .load k, .send k true]) := rfl
  rw [hsplit, run_append, run_notify _ s rfl, run_append]
  cases hl : r.loaded with
  | none =>
      obtain rfl : r = .loading := by
        cases r with
        | loading => rfl
        | sending l => cases hl
        | waiting l => cases hl
      rw [run_round (by exact hr), run_again (Finmap.lookup_insert _) (.inl rfl),
        Finmap.insert_insert]
  | some l =>
      rw [run_round_loaded (by exact hr) hl, run_again (Finmap.lookup_insert _) ?_,
        Finmap.insert_insert]
      -- whoever was about to notify has done so
      rcases h.current k r l hr hl with hcurrent | htoken | hpending
      · exact .inl hcurrent
      · exact .inr (by simp [htoken])
      · exact .inr (by simp [hpending])

/-- **A second reader starves the first.**  Two readers wait and no writer is on its way; the
second one takes the token of a change, and the first goes on waiting with the old view. -/
theorem starve {i j : K} (hij : i ≠ j) {l l' : L} (hi : s.readers.lookup i = some (.waiting l))
    (hj : s.readers.lookup j = some (.waiting l')) (hnotifiers : s.notifiers = 0) {w : W} {v : V}
    (hw : change s.value w = some v) :
    ∃ readers, run (step view change) s
        [.change w, .notify, .receive j, .load j, .send j true] = ⟨v, 0, false, readers⟩ ∧
      readers.lookup i = some (.waiting l) ∧ readers.lookup j = some (.waiting (view v)) := by
  have hchange : step view change s (.change w) =
      { s with value := v, notifiers := s.notifiers + 1 } := by simp only [step, hw]
  refine ⟨s.readers.insert j (.waiting (view v)), ?_, ?_, Finmap.lookup_insert _⟩
  · show run (step view change) (step view change (step view change s (.change w)) .notify)
      [.receive j, .load j, .send j true] = _
    rw [hchange]
    show run (step view change) { s with value := v, notifiers := s.notifiers, token := true }
      [.receive j, .load j, .send j true] = _
    rw [run_again (by exact hj) (.inr rfl), hnotifiers]
  · rw [Finmap.lookup_insert_of_ne _ hij, hi]

end AcceleratorFabric.Notification
