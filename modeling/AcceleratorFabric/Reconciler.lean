import AcceleratorFabric.ApiServer
import AcceleratorFabric.WorkQueue

/-! # Controllers of objects behind an API server

A controller takes what its cache has under a key and brings the server's object of that key in
line with it.  An informer fills the cache and announces changes, a work queue hands out the keys,
and other clients write to the server at any time.

* `System.holds_when_idle` is the rule for what a controller achieves: what every successful work
  ensures, and requests of others keep, holds when nothing is to be done for the key.
* `System.length_le`, `System.idle_of_stuck`: without changes from outside the work comes to an
  end. -/

namespace AcceleratorFabric.Reconciler

open ApiServer Runs WorkQueue

variable {K V A E X I W : Type}

/-- The work on a key, with what it takes from outside, such as the time, and on what the cache has
under the key. -/
structure Controller (K V A E X I : Type) where
  key : V → K
  /-- There is a handler for objects that are gone. -/
  handlesRemoval : Bool
  sync : I → Option V → Prog A E (Except X Unit)

/-- The objects at the server, and the controller; `touched` tells whether other clients came to
the object since the last work on it began. -/
structure System (K V A W : Type) [Queue K] where
  slot : K → Slot A
  touched : K → Bool
  loop : Loop K V W

/-- A request of another client, what the informer sees, and the steps of the controller.  For an
object whose removal the informer missed, it only has a tombstone, which has no key. -/
inductive SystemEvent (K V A E I W : Type) where
  | request (k : K) (r : Request A E)
  | observe (v : V)
  | remove (k : K) (tombstone : Bool)
  | move (m : Move K W)
  | sync (w : W) (input : I) (turns : List (Turn A E))
  | restart

/-- Other clients had a turn. -/
def disturbed (turns : List (Turn A E)) : Bool := turns.any fun turn => ! turn.before.isEmpty

theorem disturbed_cons {turn : Turn A E} {turns : List (Turn A E)}
    (h : disturbed (turn :: turns) = false) : turn.before = [] ∧ disturbed turns = false := by
  simpa [disturbed] using h

/-- Between two requests of undisturbed work nothing happens. -/
theorem serve_of_undisturbed {turns : List (Turn A E)} (h : disturbed turns = false) {s : Slot A}
    {r : Request A E} {p : ℕ × A} (hanswer : (take (turns.headD quiet) s r).answer = .ok p) :
    take (turns.headD quiet) s r = serve s r := by
  have hserve := (serve_of_take_ok hanswer).2
  cases turns with
  | nil => exact hserve
  | cons turn turns =>
      rw [List.headD_cons, (disturbed_cons h).1] at hserve
      exact hserve

theorem disturbed_tail {turns : List (Turn A E)} (h : disturbed turns = false) :
    disturbed turns.tail = false := by
  cases turns with
  | nil => rfl
  | cons turn turns => exact (disturbed_cons h).2

namespace System

variable [Queue K] (c : Controller K V A E X I)

def start : System K V A W := ⟨fun _ => Slot.empty, fun _ => false, Loop.start⟩

def outcome (s : System K V A W) (k : K) (cached : Option V) (input : I)
    (turns : List (Turn A E)) : Outcome A (Except X Unit) :=
  (c.sync input cached).run turns (s.slot k)

/-- The step of the queue and the workers. -/
def loopEvent (s : System K V A W) : SystemEvent K V A E I W → Option (Event K V W)
  | .request _ _ => none
  | .observe v => some (.observe (c.key v) v)
  | .remove k tombstone => some (.remove k (c.handlesRemoval && ! tombstone))
  | .move m => some (.move m)
  | .sync w input turns =>
      match s.loop.worker w with
      | .read k cached => some (.finish w (s.outcome c k cached input turns).result.isOk)
      | _ => none
  | .restart => some .restart

variable [DecidableEq K] [DecidableEq W]

/-- The object of the key changes. -/
def write (s : System K V A W) (k : K) (slot : Slot A) (touched : Bool) : System K V A W :=
  { s with
    slot := Function.update s.slot k slot
    touched := Function.update s.touched k touched }

def written (s : System K V A W) : SystemEvent K V A E I W → System K V A W
  | .request k r => s.write k (serve (s.slot k) r).slot true
  | .sync w input turns =>
      match s.loop.worker w with
      | .read k cached => s.write k (s.outcome c k cached input turns).slot (disturbed turns)
      | _ => s
  | _ => s

def step (s : System K V A W) (e : SystemEvent K V A E I W) : System K V A W :=
  { s.written c e with loop := (s.loopEvent c e).elim s.loop (WorkQueue.step s.loop) }

/-! ### What a step does -/

/-- A step is one of the queue and the workers, a request of another client, or work on a key. -/
inductive Stepped (s : System K V A W) : SystemEvent K V A E I W → System K V A W → Prop where
  | same (e : SystemEvent K V A E I W) : Stepped s e s
  | loop (e : SystemEvent K V A E I W) (e' : Event K V W) (other : ∀ w ok, e' ≠ .finish w ok) :
      Stepped s e { s with loop := WorkQueue.step s.loop e' }
  | request (k : K) (r : Request A E) :
      Stepped s (.request k r) (s.write k (serve (s.slot k) r).slot true)
  | sync {w : W} {k : K} {cached : Option V} (works : s.loop.worker w = .read k cached) (input : I)
      (turns : List (Turn A E)) : Stepped s (.sync w input turns)
      { s.write k (s.outcome c k cached input turns).slot (disturbed turns) with
        loop := finished s.loop w k cached (s.outcome c k cached input turns).result.isOk }

theorem stepped_step (s : System K V A W) (e : SystemEvent K V A E I W) :
    Stepped c s e (s.step c e) := by
  cases e with
  | request k r => exact .request k r
  | observe v => exact .loop _ (.observe (c.key v) v) (by simp)
  | remove k tombstone => exact .loop _ (.remove k (c.handlesRemoval && ! tombstone)) (by simp)
  | move m => exact .loop _ (.move m) (by simp)
  | restart => exact .loop _ .restart (by simp)
  | sync w input turns =>
      cases hw : s.loop.worker w with
      | read k cached =>
          have hstep : s.step c (.sync w input turns) =
              { s.write k (s.outcome c k cached input turns).slot (disturbed turns) with
                loop := finished s.loop w k cached
                  (s.outcome c k cached input turns).result.isOk } := by
            simp only [step, written, loopEvent, hw, Option.elim_some, WorkQueue.step]
          rw [hstep]
          exact .sync hw input turns
      | _ =>
          have hstep : s.step c (.sync w input turns) = s := by
            simp only [step, written, loopEvent, hw, Option.elim_none]
          rw [hstep]
          exact .same _

variable {c}

theorem inv_stepped [LawfulQueue K] {s s' : System K V A W} {e : SystemEvent K V A E I W}
    (h : Inv s.loop) (hstepped : Stepped c s e s') : Inv s'.loop := by
  cases hstepped with
  | same => exact h
  | loop _ e' => exact h.step e'
  | request k r => exact h
  | sync hw input turns => exact h.finish hw _

theorem inv_run [LawfulQueue K] (events : List (SystemEvent K V A E I W)) :
    Inv (run (step c) (start : System K V A W) events).loop :=
  invariant_run (fun s : System K V A W => Inv s.loop)
    (fun s e h _ => inv_stepped h (stepped_step c s e)) events start inv_start (along_true events _)

/-! ### What the controller achieves -/

section achieves

variable {P : V → Bool → Slot A → Prop}

/-- `P` holds of the copy that the last work on a key had, and the object there is now. -/
def Achieved (P : V → Bool → Slot A → Prop) (s : System K V A W) : Prop :=
  ∀ k v, s.loop.last k = some v → P v (s.touched k) (s.slot k)

omit [DecidableEq W] in
theorem Achieved.write {s : System K V A W} {k : K} {slot : Slot A} {touched : Bool}
    {loop : Loop K V W} (h : Achieved P s)
    (hlast : ∀ j ≠ k, ∀ v, loop.last j = some v → s.loop.last j = some v)
    (hk : ∀ v, loop.last k = some v → P v touched slot) :
    Achieved P { s.write k slot touched with loop := loop } := by
  intro j v hj
  show P v (Function.update s.touched k touched j) (Function.update s.slot k slot j)
  by_cases hjk : j = k
  · subst hjk
    rw [Function.update_self, Function.update_self]
    exact hk v hj
  · rw [Function.update_of_ne hjk, Function.update_of_ne hjk]
    exact h j v (hlast j hjk v hj)

theorem Achieved.stepped
    (hrequest : ∀ v touched s (r : Request A E), P v touched s → P v true (serve s r).slot)
    (hsync : ∀ v input turns s, ((c.sync input (some v)).run turns s).result.isOk = true →
      P v (disturbed turns) ((c.sync input (some v)).run turns s).slot)
    {s s' : System K V A W} {e : SystemEvent K V A E I W} (h : Achieved P s)
    (hstepped : Stepped c s e s') : Achieved P s' := by
  cases hstepped with
  | same => exact h
  | loop _ e' hother =>
      intro k v hlast
      exact h k v (last_of_stepped (WorkQueue.stepped_step s.loop e') hother hlast)
  | request k r => exact h.write (fun _ _ _ hv => hv) fun v hv => hrequest v _ _ r (h k v hv)
  | @sync w k cached _ input turns =>
      refine h.write (fun j hj v hv => ?_) fun v hv => ?_
      · exact ((last_finished hv).resolve_left fun h => hj h.1).2
      · obtain ⟨_, hok, rfl⟩ := (last_finished hv).resolve_right fun h => h.1 rfl
        exact hsync v input turns (s.slot k) hok

/-- The rule: if a success ensures `P` and other clients keep it, then it holds when nothing is to
be done for the key. -/
theorem holds_when_idle [LawfulQueue K]
    (hrequest : ∀ v touched s (r : Request A E), P v touched s → P v true (serve s r).slot)
    (hsync : ∀ v input turns s, ((c.sync input (some v)).run turns s).result.isOk = true →
      P v (disturbed turns) ((c.sync input (some v)).run turns s).slot)
    (events : List (SystemEvent K V A E I W)) {k : K} {v : V}
    (hidle : Idle (run (step c) (start : System K V A W) events).loop k)
    (hcache : (run (step c) (start : System K V A W) events).loop.cache k = some v) :
    P v ((run (step c) (start : System K V A W) events).touched k)
      ((run (step c) (start : System K V A W) events).slot k) := by
  have hachieved : Achieved P (run (step c) (start : System K V A W) events) :=
    invariant_run (Achieved P) (fun s e h _ => h.stepped hrequest hsync (stepped_step c s e)) events
      start (fun _ _ h => by cases h) (along_true events _)
  exact hachieved k v ((inv_run events).last_eq_of_idle hidle hcache)

end achieves

/-! ### The end of the work -/

/-- The controller can take the step by itself. -/
def Own (s : System K V A W) : SystemEvent K V A E I W → Prop
  | .move m => Enabled s.loop (.move m)
  | .sync w _ _ => ∃ k cached, s.loop.worker w = .read k cached
  | _ => False

variable (c) in
/-- What a failure brings. -/
def cost (s : System K V A W) (e : SystemEvent K V A E I W) : ℕ :=
  (s.loopEvent c e).elim 0 WorkQueue.cost

theorem work_step_lt [LawfulQueue K] [Fintype W] {s : System K V A W} (h : Inv s.loop)
    {e : SystemEvent K V A E I W} (hown : s.Own e) :
    work (s.step c e).loop < work s.loop + s.cost c e := by
  cases e with
  | move m => exact work_lt_of_enabled h hown (WorkQueue.stepped_step s.loop (.move m))
  | sync w input turns =>
      obtain ⟨k, cached, hw⟩ := hown
      have hevent : s.loopEvent c (.sync w input turns) =
          some (.finish w (s.outcome c k cached input turns).result.isOk) := by
        simp only [loopEvent, hw]
      rw [step, cost, hevent]
      exact work_lt_of_enabled h ⟨k, cached, hw⟩ (WorkQueue.stepped_step s.loop _)
  | request => exact hown.elim
  | observe => exact hown.elim
  | remove => exact hown.elim
  | restart => exact hown.elim

theorem length_le [LawfulQueue K] [Fintype W] {s : System K V A W} (h : Inv s.loop)
    (es : List (SystemEvent K V A E I W)) (hown : Along (step c) Own s es) :
    es.length ≤ work s.loop + total (step c) (cost c) s es :=
  length_le_add_total (fun s => Inv s.loop) (fun s => work s.loop) (cost c)
    (fun s e h _ => inv_stepped h (stepped_step c s e)) (fun _ _ h hown => work_step_lt h hown) es s
    h hown

omit [DecidableEq W] in
theorem idle_of_stuck [LawfulQueue K] [Inhabited W] [Inhabited I] {s : System K V A W}
    (h : Inv s.loop) (hstuck : ∀ e : SystemEvent K V A E I W, ¬ s.Own e) (k : K) : Idle s.loop k := by
  refine h.idle_of_stuck (fun e henabled => ?_) k
  cases e with
  | observe => exact henabled
  | remove => exact henabled
  | restart => exact henabled
  | move m => exact hstuck (.move m) henabled
  | finish w ok => exact hstuck (.sync w default []) henabled

end System

end AcceleratorFabric.Reconciler
