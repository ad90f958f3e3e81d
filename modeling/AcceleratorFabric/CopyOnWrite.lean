import AcceleratorFabric.Runs

/-! # A value behind an atomic pointer

Readers load the pointer and read the cell that it points to, without a lock.  A writer takes the
lock, loads the pointer, decides on the cell, copies it to a fresh one, edits the copy, stores the
pointer to the copy and releases the lock.  The steps of all threads interleave.

`linearizable`: what the threads see is what they would see if every operation took effect at one
moment between its call and its return.  A cell is edited only while no pointer to it is out
(`Private`), and the writer with the lock is the only one (`Inv`). -/

namespace AcceleratorFabric.CopyOnWrite

open Runs

variable {M W Q R T : Type}

/-- Operations that write and operations that read.  A write may answer before it takes the lock;
otherwise it answers on the value, with an edit if there is something to change. -/
structure Ops (M W Q R : Type) where
  early : W → Option R
  plan : W → M → R × Option (M → M)
  read : Q → M → R

inductive Op (W Q : Type) where
  | write (w : W)
  | read (q : Q)

/-- What the outside sees of a thread. -/
inductive Visible (W Q R T : Type) where
  | call (t : T) (op : Op W Q)
  | ret (t : T) (r : R)

/-! ### At one moment -/

/-- The answer and the value after the operation. -/
def Ops.apply (ops : Ops M W Q R) : Op W Q → M → R × M
  | .read q, m => (ops.read q m, m)
  | .write w, m =>
      match ops.early w with
      | some r => (r, m)
      | none => ((ops.plan w m).1, ((ops.plan w m).2.map fun edit => edit m).getD m)

inductive Status (W Q R : Type) where
  | idle
  | called (op : Op W Q)
  | answered (r : R)

structure Atomic (M W Q R T : Type) where
  value : M
  status : T → Status W Q R

inductive AtomicEvent (W Q T : Type) where
  | call (t : T) (op : Op W Q)
  | effect (t : T)
  | ret (t : T)

variable [DecidableEq T]

/-- An operation is called, takes effect and returns. -/
def atomicStep (effect : Op W Q → M → R × M) (s : Atomic M W Q R T) :
    AtomicEvent W Q T → Atomic M W Q R T × List (Visible W Q R T)
  | .call t op =>
      match s.status t with
      | .idle => (⟨s.value, Function.update s.status t (.called op)⟩, [.call t op])
      | _ => (s, [])
  | .effect t =>
      match s.status t with
      | .called op => (⟨(effect op s.value).2,
          Function.update s.status t (.answered (effect op s.value).1)⟩, [])
      | _ => (s, [])
  | .ret t =>
      match s.status t with
      | .answered r => (⟨s.value, Function.update s.status t .idle⟩, [.ret t r])
      | _ => (s, [])

/-! ### In steps -/

/-- Where a thread is in the code of its operation. -/
inductive Phase (M W Q R : Type) where
  | idle
  | called (op : Op W Q)
  /-- The lock is taken. -/
  | locked (w : W)
  /-- The pointer is loaded. -/
  | loaded (w : W) (cell : ℕ)
  /-- The fresh cell is a copy. -/
  | copied (w : W) (r : R) (edit : M → M) (cell : ℕ)
  /-- The copy is edited. -/
  | edited (w : W) (r : R) (cell : ℕ)
  | unlocking (r : R)
  /-- The reader has loaded the pointer. -/
  | reading (q : Q) (cell : ℕ)

structure State (M W Q R T : Type) where
  heap : ℕ → M
  /-- The first cell that is not in use. -/
  free : ℕ
  pointer : ℕ
  lock : Option T
  phase : T → Phase M W Q R

inductive Event (W Q T : Type) where
  | call (t : T) (op : Op W Q)
  | step (t : T)

variable (ops : Ops M W Q R)

def State.go (s : State M W Q R T) (t : T) (p : Phase M W Q R) : State M W Q R T :=
  { s with phase := Function.update s.phase t p }

/-- The next step of a thread; a thread that waits for the lock stays where it is. -/
def threadStep (s : State M W Q R T) (t : T) : State M W Q R T × List (Visible W Q R T) :=
  match s.phase t with
  | .idle => (s, [])
  | .called (.read q) => (s.go t (.reading q s.pointer), [])
  | .reading q cell => (s.go t .idle, [.ret t (ops.read q (s.heap cell))])
  | .called (.write w) =>
      match ops.early w with
      | some r => (s.go t .idle, [.ret t r])
      | none =>
          if s.lock = none then ({ s.go t (.locked w) with lock := some t }, []) else (s, [])
  | .locked w => (s.go t (.loaded w s.pointer), [])
  | .loaded w cell =>
      match ops.plan w (s.heap cell) with
      | (r, none) => (s.go t (.unlocking r), [])
      | (r, some edit) =>
          ({ s.go t (.copied w r edit s.free) with
              heap := Function.update s.heap s.free (s.heap cell)
              free := s.free + 1 }, [])
  | .copied w r edit cell =>
      ({ s.go t (.edited w r cell) with
          heap := Function.update s.heap cell (edit (s.heap cell)) }, [])
  | .edited _ r cell => ({ s.go t (.unlocking r) with pointer := cell }, [])
  | .unlocking r => ({ s.go t .idle with lock := none }, [.ret t r])

def step (s : State M W Q R T) : Event W Q T → State M W Q R T × List (Visible W Q R T)
  | .call t op =>
      match s.phase t with
      | .idle => (s.go t (.called op), [.call t op])
      | _ => (s, [])
  | .step t => threadStep ops s t

def State.start (m : M) : State M W Q R T := ⟨fun _ => m, 1, 0, none, fun _ => .idle⟩

/-! ### The invariant -/

/-- The thread is between its taking of the lock and its release. -/
def Phase.Critical : Phase M W Q R → Prop
  | .locked _ => True
  | .loaded _ _ => True
  | .copied _ _ _ _ => True
  | .edited _ _ _ => True
  | .unlocking _ => True
  | _ => False

/-- No pointer to the cell is out. -/
structure Private (s : State M W Q R T) (cell : ℕ) : Prop where
  lt_free : cell < s.free
  ne_pointer : cell ≠ s.pointer
  not_read : ∀ t q, s.phase t ≠ .reading q cell

/-- What a thread knows at its place. -/
def Knows (s : State M W Q R T) : Phase M W Q R → Prop
  | .loaded w cell => cell = s.pointer ∧ ops.early w = none
  | .locked w => ops.early w = none
  | .copied w r edit cell => Private s cell ∧ ops.early w = none ∧
      ops.plan w (s.heap s.pointer) = (r, some edit) ∧ s.heap cell = s.heap s.pointer
  | .edited w r cell => Private s cell ∧ ops.early w = none ∧
      ∃ edit, ops.plan w (s.heap s.pointer) = (r, some edit) ∧
        s.heap cell = edit (s.heap s.pointer)
  | .reading _ cell => cell < s.free
  | _ => True

structure Inv (s : State M W Q R T) : Prop where
  pointer_lt : s.pointer < s.free
  lock_iff : ∀ t, (s.phase t).Critical ↔ s.lock = some t
  knows : ∀ t, Knows ops s (s.phase t)

/-- What has taken effect, by the place of a thread. -/
def status (heap : ℕ → M) : Phase M W Q R → Status W Q R
  | .idle => .idle
  | .called op => .called op
  | .locked w => .called (.write w)
  | .loaded w cell =>
      match ops.plan w (heap cell) with
      | (r, none) => .answered r
      | (_, some _) => .called (.write w)
  | .copied w _ _ _ => .called (.write w)
  | .edited w _ _ => .called (.write w)
  | .unlocking r => .answered r
  | .reading q cell => .answered (ops.read q (heap cell))

def State.abstract (s : State M W Q R T) : Atomic M W Q R T :=
  ⟨s.heap s.pointer, fun t => status ops s.heap (s.phase t)⟩

variable {ops} {s : State M W Q R T} {t : T}

omit [DecidableEq T] in
theorem inv_start (m : M) : Inv ops (State.start m : State M W Q R T) where
  pointer_lt := Nat.zero_lt_one
  lock_iff _ := ⟨False.elim, fun h => by cases h⟩
  knows _ := trivial

omit [DecidableEq T] in
/-- A thread outside the lock only keeps a cell that is in use. -/
theorem knows_of_not_critical {p : Phase M W Q R} (hp : ¬ p.Critical)
    (hread : ∀ q cell, p = .reading q cell → cell < s.free) : Knows ops s p := by
  cases p with
  | idle => trivial
  | called op => trivial
  | reading q cell => exact hread q cell rfl
  | _ => exact absurd trivial hp

omit [DecidableEq T] in
theorem Inv.reading_lt (h : Inv ops s) {u : T} {q : Q} {cell : ℕ}
    (hu : s.phase u = .reading q cell) : cell < s.free := by
  have hknows := h.knows u
  rw [hu] at hknows
  exact hknows

@[simp] theorem phase_go_self (p : Phase M W Q R) : (s.go t p).phase t = p :=
  Function.update_self ..

@[simp] theorem phase_go_of_ne {u : T} (hut : u ≠ t) (p : Phase M W Q R) :
    (s.go t p).phase u = s.phase u :=
  Function.update_of_ne hut ..

/-- A step of a thread that leaves everything but its place as it is. -/
theorem Inv.go (h : Inv ops s) {p : Phase M W Q R} (hcritical : p.Critical ↔ (s.phase t).Critical)
    (hknows : Knows ops (s.go t p) p)
    (hread : ∀ q cell, p = .reading q cell → cell = s.pointer) : Inv ops (s.go t p) := by
  have hprivate : ∀ {cell}, Private s cell → Private (s.go t p) cell := by
    intro cell hcell
    refine ⟨hcell.lt_free, hcell.ne_pointer, fun u q hu => ?_⟩
    by_cases hut : u = t
    · rw [hut, phase_go_self] at hu
      exact hcell.ne_pointer (hread q cell hu)
    · rw [phase_go_of_ne hut] at hu
      exact hcell.not_read u q hu
  refine ⟨h.pointer_lt, fun u => ?_, fun u => ?_⟩
  · by_cases hut : u = t
    · rw [hut, phase_go_self, hcritical]
      exact h.lock_iff t
    · rw [phase_go_of_ne hut]
      exact h.lock_iff u
  · by_cases hut : u = t
    · rw [hut, phase_go_self]
      exact hknows
    · rw [phase_go_of_ne hut]
      have hold := h.knows u
      generalize s.phase u = q at hold
      cases q with
      | copied w r edit cell => exact ⟨hprivate hold.1, hold.2⟩
      | edited w r cell => exact ⟨hprivate hold.1, hold.2⟩
      | _ => exact hold

/-- A step of the thread that has the lock, or takes it. -/
theorem Inv.locked_step (h : Inv ops s) {s' : State M W Q R T} {p : Phase M W Q R}
    (hothers : ∀ u ≠ t, ¬ (s.phase u).Critical)
    (hphase : s'.phase = Function.update s.phase t p) (hfree : s.free ≤ s'.free)
    (hpointer : s'.pointer < s'.free) (hlock : s'.lock = some t ∧ p.Critical ∨
      s'.lock = none ∧ ¬ p.Critical) (hknows : Knows ops s' p) : Inv ops s' := by
  refine ⟨hpointer, fun u => ?_, fun u => ?_⟩
  · rw [hphase]
    by_cases hut : u = t
    · subst hut
      rw [Function.update_self]
      rcases hlock with ⟨hlock, hp⟩ | ⟨hlock, hp⟩
      · exact iff_of_true hp hlock
      · exact iff_of_false hp (by rw [hlock]; simp)
    · rw [Function.update_of_ne hut]
      refine iff_of_false (hothers u hut) ?_
      rcases hlock with ⟨hlock, _⟩ | ⟨hlock, _⟩
      · rw [hlock]
        exact fun heq => hut (Option.some.inj heq).symm
      · rw [hlock]
        simp
  · rw [hphase]
    by_cases hut : u = t
    · subst hut
      rw [Function.update_self]
      exact hknows
    · rw [Function.update_of_ne hut]
      exact knows_of_not_critical (hothers u hut) fun q cell hu =>
        (h.reading_lt hu).trans_le hfree

omit [DecidableEq T] in
theorem Inv.others (h : Inv ops s) (ht : (s.phase t).Critical) :
    ∀ u ≠ t, ¬ (s.phase u).Critical := by
  intro u hut hu
  have heq := ((h.lock_iff t).mp ht).symm.trans ((h.lock_iff u).mp hu)
  exact hut (Option.some.inj heq).symm

/-! ### The abstraction -/

/-- Outside the lock, only the cell of a reader matters. -/
theorem status_congr {heap heap' : ℕ → M} {p : Phase M W Q R} (hp : ¬ p.Critical)
    (hread : ∀ q cell, p = .reading q cell → heap' cell = heap cell) :
    status ops heap' p = status ops heap p := by
  cases p with
  | idle => rfl
  | called op => rfl
  | reading q cell => rw [status, status, hread q cell rfl]
  | _ => exact absurd trivial hp

theorem abstract_eq {s' : State M W Q R T} {p : Phase M W Q R}
    (hphase : s'.phase = Function.update s.phase t p)
    (hothers : ∀ u ≠ t, status ops s'.heap (s.phase u) = status ops s.heap (s.phase u)) :
    s'.abstract ops = ⟨s'.heap s'.pointer,
      Function.update (s.abstract ops).status t (status ops s'.heap p)⟩ := by
  unfold State.abstract
  congr 1
  funext u
  rw [hphase]
  by_cases hut : u = t
  · subst hut
    rw [Function.update_self, Function.update_self]
  · rw [Function.update_of_ne hut, Function.update_of_ne hut]
    exact hothers u hut

theorem abstract_go (p : Phase M W Q R) : (s.go t p).abstract ops =
    ⟨s.heap s.pointer, Function.update (s.abstract ops).status t (status ops s.heap p)⟩ :=
  abstract_eq rfl fun _ _ => rfl

/-- Nothing has taken effect if the thread has the same status as before. -/
theorem abstract_stutter {p : Phase M W Q R} (h : status ops s.heap p =
    (s.abstract ops).status t) : (⟨s.heap s.pointer, Function.update (s.abstract ops).status t
      (status ops s.heap p)⟩ : Atomic M W Q R T) = s.abstract ops := by
  rw [h, Function.update_eq_self]
  rfl

section atomic

variable {effect : Op W Q → M → R × M} {a : Atomic M W Q R T}

theorem atomicStep_call {op : Op W Q} (h : a.status t = .idle) : atomicStep effect a (.call t op) =
    (⟨a.value, Function.update a.status t (.called op)⟩, [.call t op]) := by
  simp only [atomicStep, h]

theorem atomicStep_effect {op : Op W Q} (h : a.status t = .called op) :
    atomicStep effect a (.effect t) = (⟨(effect op a.value).2,
      Function.update a.status t (.answered (effect op a.value).1)⟩, []) := by
  simp only [atomicStep, h]

theorem atomicStep_ret {r : R} (h : a.status t = .answered r) : atomicStep effect a (.ret t) =
    (⟨a.value, Function.update a.status t .idle⟩, [.ret t r]) := by
  simp only [atomicStep, h]

end atomic

/-- The steps that match a step of the pointer machine. -/
def Matches (ops : Ops M W Q R) (s : State M W Q R T)
    (next : State M W Q R T × List (Visible W Q R T)) : Prop :=
  Inv ops next.1 ∧ ∃ es, traced (atomicStep ops.apply) (s.abstract ops) es =
    (next.1.abstract ops, next.2)

theorem matches_stutter {s' : State M W Q R T} (hinv : Inv ops s')
    (h : s'.abstract ops = s.abstract ops) : Matches ops s (s', []) :=
  ⟨hinv, [], by rw [traced, h]⟩

theorem matches_effect (t : T) (op : Op W Q) {s' : State M W Q R T} (hinv : Inv ops s')
    (ht : (s.abstract ops).status t = .called op)
    (h : s'.abstract ops = ⟨(ops.apply op (s.heap s.pointer)).2, Function.update
      (s.abstract ops).status t (.answered (ops.apply op (s.heap s.pointer)).1)⟩) :
    Matches ops s (s', []) := by
  refine ⟨hinv, [.effect t], ?_⟩
  rw [traced, traced, atomicStep_effect ht, h]
  rfl

theorem matches_ret {s' : State M W Q R T} (hinv : Inv ops s') {r : R}
    (ht : (s.abstract ops).status t = .answered r)
    (h : s'.abstract ops = ⟨s.heap s.pointer, Function.update (s.abstract ops).status t .idle⟩) :
    Matches ops s (s', [.ret t r]) := by
  refine ⟨hinv, [.ret t], ?_⟩
  rw [traced, traced, atomicStep_ret ht, h]
  rfl

/-! ### The steps of a thread -/

theorem matches_call (h : Inv ops s) (t : T) (op : Op W Q) :
    Matches ops s (step ops s (.call t op)) := by
  simp only [step]
  split
  · next hidle =>
      have hstatus : (s.abstract ops).status t = .idle := by simp [State.abstract, hidle, status]
      refine ⟨h.go (by rw [hidle]; rfl) trivial (fun _ _ hp => by cases hp), [.call t op], ?_⟩
      rw [traced, traced, atomicStep_call hstatus, abstract_go]
      rfl
  · exact matches_stutter h rfl

theorem matches_read (h : Inv ops s) {q : Q} (ht : s.phase t = .called (.read q)) :
    Matches ops s (s.go t (.reading q s.pointer), []) := by
  refine matches_effect t (.read q) ?_ ?_ ?_
  · exact h.go (by rw [ht]; rfl) h.pointer_lt fun _ _ hp => by cases hp; rfl
  · simp [State.abstract, ht, status]
  · exact abstract_go _

theorem matches_reading (h : Inv ops s) {q : Q} {cell : ℕ} (ht : s.phase t = .reading q cell) :
    Matches ops s (s.go t .idle, [.ret t (ops.read q (s.heap cell))]) := by
  refine matches_ret ?_ ?_ (abstract_go _)
  · exact h.go (by rw [ht]; rfl) trivial fun _ _ hp => by cases hp
  · simp [State.abstract, ht, status]

theorem matches_early (h : Inv ops s) {w : W} {r : R} (ht : s.phase t = .called (.write w))
    (hearly : ops.early w = some r) : Matches ops s (s.go t .idle, [.ret t r]) := by
  have hstatus : (s.abstract ops).status t = .called (.write w) := by
    simp [State.abstract, ht, status]
  refine ⟨h.go (by rw [ht]; rfl) trivial (fun _ _ hp => by cases hp), [.effect t, .ret t], ?_⟩
  rw [traced, traced, traced, atomicStep_effect hstatus, abstract_go]
  simp [atomicStep, Ops.apply, hearly, State.abstract, status]

theorem matches_lock (h : Inv ops s) {w : W} (ht : s.phase t = .called (.write w))
    (hearly : ops.early w = none) (hlock : s.lock = none) :
    Matches ops s ({ s.go t (.locked w) with lock := some t }, []) := by
  have hothers : ∀ u ≠ t, ¬ (s.phase u).Critical := by
    intro u _ hu
    have := (h.lock_iff u).mp hu
    rw [hlock] at this
    cases this
  refine matches_stutter (h.locked_step hothers rfl le_rfl h.pointer_lt (.inl ⟨rfl, trivial⟩)
    hearly) ?_
  refine Eq.trans (abstract_eq (s := s) (t := t) (p := .locked w) rfl fun _ _ => rfl) ?_
  exact abstract_stutter (s := s) (t := t) (p := .locked w) (by simp [State.abstract, ht, status])

theorem matches_locked (h : Inv ops s) {w : W} (ht : s.phase t = .locked w) :
    Matches ops s (s.go t (.loaded w s.pointer), []) := by
  have hknows := h.knows t
  rw [ht] at hknows
  have hinv : Inv ops (s.go t (.loaded w s.pointer)) :=
    h.go (by rw [ht]; rfl) ⟨rfl, hknows⟩ fun _ _ hp => by cases hp
  have hstatus : (s.abstract ops).status t = .called (.write w) := by
    simp [State.abstract, ht, status]
  -- a write that changes nothing takes effect when the pointer is loaded
  cases hplan : ops.plan w (s.heap s.pointer) with
  | mk r edit =>
      cases edit with
      | none =>
          refine matches_effect t (.write w) hinv hstatus ?_
          rw [abstract_go]
          simp [status, Ops.apply, show ops.early w = none from hknows, hplan]
      | some edit =>
          refine matches_stutter hinv ?_
          rw [abstract_go]
          exact abstract_stutter (by rw [hstatus]; simp [status, hplan])

theorem matches_loaded (h : Inv ops s) {w : W} {cell : ℕ} (ht : s.phase t = .loaded w cell) :
    Matches ops s (threadStep ops s t) := by
  obtain ⟨rfl, hearly⟩ : cell = s.pointer ∧ ops.early w = none := by
    have hknows := h.knows t
    rwa [ht] at hknows
  have hothers := h.others (t := t) (by rw [ht]; trivial)
  have hlock := (h.lock_iff t).mp (by rw [ht]; trivial)
  simp only [threadStep, ht]
  split
  · next r hplan =>
      refine matches_stutter (h.go (by rw [ht]; rfl) trivial fun _ _ hp => by cases hp) ?_
      rw [abstract_go]
      exact abstract_stutter (by simp [State.abstract, ht, status, hplan])
  · next r edit hplan =>
      have hpointer : Function.update s.heap s.free (s.heap s.pointer) s.pointer =
          s.heap s.pointer := Function.update_of_ne h.pointer_lt.ne ..
      refine matches_stutter (h.locked_step hothers rfl (Nat.le_succ _)
        (h.pointer_lt.trans (Nat.lt_succ_self _)) (.inl ⟨hlock, trivial⟩) ?_) ?_
      · refine ⟨⟨Nat.lt_succ_self _, h.pointer_lt.ne', fun u q hu => ?_⟩, hearly, ?_, ?_⟩
        · -- the fresh cell is not in use yet
          by_cases hut : u = t
          · subst hut
            exact absurd (hu.symm.trans (phase_go_self _)) (by simp)
          · have hold := (phase_go_of_ne (s := s) hut _).symm.trans hu
            exact absurd (h.reading_lt hold) (lt_irrefl _)
        · exact (congrArg (ops.plan w) hpointer).trans hplan
        · exact (Function.update_self ..).trans hpointer.symm
      · refine (abstract_eq (s := s) (t := t) (p := .copied w r edit s.free) rfl fun u hut =>
          status_congr (hothers u hut) fun q cell hu =>
            Function.update_of_ne (h.reading_lt hu).ne ..).trans ?_
        exact (congrArg₂ Atomic.mk hpointer rfl).trans
          (abstract_stutter (p := .copied w r edit s.free)
            (by simp [State.abstract, ht, status, hplan]))

omit [DecidableEq T] in
/-- An edit of a private cell is seen by no other thread. -/
theorem status_private {cell : ℕ} (hcell : Private s cell) (m : M)
    (hothers : ∀ u ≠ t, ¬ (s.phase u).Critical) : ∀ u ≠ t,
      status ops (Function.update s.heap cell m) (s.phase u) = status ops s.heap (s.phase u) :=
  fun u hut => status_congr (hothers u hut) fun q cell' hu =>
    Function.update_of_ne (fun heq => hcell.not_read u q (by rw [hu, heq])) ..

theorem matches_copied (h : Inv ops s) {w : W} {r : R} {edit : M → M} {cell : ℕ}
    (ht : s.phase t = .copied w r edit cell) :
    Matches ops s ({ s.go t (.edited w r cell) with
      heap := Function.update s.heap cell (edit (s.heap cell)) }, []) := by
  obtain ⟨hcell, hearly, hplan, hcopy⟩ : Private s cell ∧ ops.early w = none ∧
      ops.plan w (s.heap s.pointer) = (r, some edit) ∧ s.heap cell = s.heap s.pointer := by
    have hknows := h.knows t
    rwa [ht] at hknows
  have hothers := h.others (t := t) (by rw [ht]; trivial)
  have hlock := (h.lock_iff t).mp (by rw [ht]; trivial)
  have hpointer : Function.update s.heap cell (edit (s.heap cell)) s.pointer =
      s.heap s.pointer := Function.update_of_ne hcell.ne_pointer.symm ..
  refine matches_stutter (h.locked_step hothers rfl le_rfl h.pointer_lt
    (.inl ⟨hlock, trivial⟩) ?_) ?_
  · refine ⟨⟨hcell.lt_free, hcell.ne_pointer, fun u q hu => ?_⟩, hearly, edit, ?_, ?_⟩
    · by_cases hut : u = t
      · subst hut
        exact absurd (hu.symm.trans (phase_go_self _)) (by simp)
      · exact hcell.not_read u q ((phase_go_of_ne (s := s) hut _).symm.trans hu)
    · exact (congrArg (ops.plan w) hpointer).trans hplan
    · exact (Function.update_self ..).trans (congrArg edit (hcopy.trans hpointer.symm))
  · refine (abstract_eq (s := s) (t := t) (p := .edited w r cell) rfl
      (status_private hcell _ hothers)).trans ?_
    exact (congrArg₂ Atomic.mk hpointer rfl).trans
      (abstract_stutter (p := .edited w r cell) (by simp [State.abstract, ht, status]))

/-- A write that changes something takes effect when the pointer is stored. -/
theorem matches_edited (h : Inv ops s) {w : W} {r : R} {cell : ℕ}
    (ht : s.phase t = .edited w r cell) :
    Matches ops s ({ s.go t (.unlocking r) with pointer := cell }, []) := by
  obtain ⟨hcell, hearly, edit, hplan, hedited⟩ : Private s cell ∧ ops.early w = none ∧
      ∃ edit, ops.plan w (s.heap s.pointer) = (r, some edit) ∧
        s.heap cell = edit (s.heap s.pointer) := by
    have hknows := h.knows t
    rwa [ht] at hknows
  have hothers := h.others (t := t) (by rw [ht]; trivial)
  have hlock := (h.lock_iff t).mp (by rw [ht]; trivial)
  refine matches_effect t (.write w) (h.locked_step hothers rfl le_rfl hcell.lt_free
    (.inl ⟨hlock, trivial⟩) trivial) (by simp [State.abstract, ht, status]) ?_
  refine Eq.trans (abstract_eq (s := s) (t := t) (p := .unlocking r) rfl fun _ _ => rfl) ?_
  simp [Ops.apply, hearly, hplan, hedited, status, State.go]

theorem matches_unlocking (h : Inv ops s) {r : R} (ht : s.phase t = .unlocking r) :
    Matches ops s ({ s.go t .idle with lock := none }, [.ret t r]) := by
  have hothers := h.others (t := t) (by rw [ht]; trivial)
  refine matches_ret (s := s) ?_ (by simp [State.abstract, ht, status]) ?_
  · exact h.locked_step hothers rfl le_rfl h.pointer_lt (.inr ⟨rfl, id⟩) trivial
  · exact abstract_eq (s := s) (p := .idle) rfl fun _ _ => rfl

theorem matches_step (h : Inv ops s) (e : Event W Q T) : Matches ops s (step ops s e) := by
  cases e with
  | call t op => exact matches_call h t op
  | step t =>
      show Matches ops s (threadStep ops s t)
      cases ht : s.phase t with
      | loaded w cell => exact matches_loaded h ht
      | called op =>
          cases op with
          | read q =>
              simp only [threadStep, ht]
              exact matches_read h ht
          | write w =>
              simp only [threadStep, ht]
              split
              · next r hearly => exact matches_early h ht hearly
              · next hearly =>
                  split_ifs with hlock
                  · exact matches_lock h ht hearly hlock
                  · exact matches_stutter h rfl
      | idle =>
          simp only [threadStep, ht]
          exact matches_stutter h rfl
      | locked w =>
          simp only [threadStep, ht]
          exact matches_locked h ht
      | copied w r edit cell =>
          simp only [threadStep, ht]
          exact matches_copied h ht
      | edited w r cell =>
          simp only [threadStep, ht]
          exact matches_edited h ht
      | unlocking r =>
          simp only [threadStep, ht]
          exact matches_unlocking h ht
      | reading q cell =>
          simp only [threadStep, ht]
          exact matches_reading h ht

def Atomic.start (m : M) : Atomic M W Q R T := ⟨m, fun _ => .idle⟩

/-- **Every trace is one of operations that take effect at one moment**, and the value behind the
pointer is the one that they make. -/
theorem linearizable (ops : Ops M W Q R) (m : M) (es : List (Event W Q T)) :
    let concrete := traced (step ops) (State.start m) es
    ∃ es', (traced (atomicStep ops.apply) (Atomic.start m) es').2 = concrete.2 ∧
      (traced (atomicStep ops.apply) (Atomic.start m) es').1.value =
        concrete.1.heap concrete.1.pointer := by
  intro concrete
  have hrefines := exists_traced (step ops) (atomicStep ops.apply)
    (fun s a => Inv ops s ∧ a = s.abstract ops) (fun s a e h => ?_) es (State.start m)
    (Atomic.start m) ⟨inv_start m, rfl⟩
  · obtain ⟨es', ⟨_, habstract⟩, htrace⟩ := hrefines
    exact ⟨es', htrace, congrArg Atomic.value habstract⟩
  · obtain ⟨hinv, rfl⟩ := h
    obtain ⟨hnext, es', hes'⟩ := matches_step hinv e
    exact ⟨es', ⟨hnext, congrArg Prod.fst hes'⟩, congrArg Prod.snd hes'⟩

end AcceleratorFabric.CopyOnWrite
