import Mathlib.Algebra.BigOperators.Fin
import AcceleratorFabric.Runs

/-! # A controller on a work queue

A controller has a cache of objects, which something else keeps up to date, and a queue of keys.
Every change of the cache is announced later by an `Add` of the key.  Workers get a key, read the
cache, do their work on the copy that they have read, add the key again after a while if the work
failed, and are done with the key.  The queue is any one that does what the documentation of work
queues says (`LawfulQueue`).

* `Keys.exclusive`: no two workers have the same key.
* `Inv.last_eq_of_idle`: when nothing is to be done for a key, the last work on it was a success
  and was done on the copy that is in the cache.
* `work_lt_of_enabled`, `Inv.idle_of_stuck`: without new changes the steps come to an end, and
  then nothing is left to be done. -/

namespace AcceleratorFabric.WorkQueue

open Runs

variable {K V W : Type}

/-! ### The queue -/

/-- A work queue: what its users call, and what it owes them, the keys that were added since they
were handed out last and those that are handed out. -/
class Queue (K : Type) where
  Q : Type
  empty : Q
  add : Q → K → Q
  /-- The key that is handed out next; without one the caller has to wait. -/
  get : Q → Option (K × Q)
  done : Q → K → Q
  dirty : Q → Finset K
  processing : Q → Finset K

/-- The documentation of a work queue.  A key that was added is handed out, once for all the times
it was added before, and not while it is handed out already; it may be added meanwhile. -/
class LawfulQueue (K : Type) [DecidableEq K] [Queue K] : Prop where
  processing_empty : Queue.processing (Queue.empty : Queue.Q K) = ∅
  dirty_add : ∀ (q : Queue.Q K) (k : K), Queue.dirty (Queue.add q k) = insert k (Queue.dirty q)
  processing_add : ∀ (q : Queue.Q K) (k : K),
    Queue.processing (Queue.add q k) = Queue.processing q
  get_none : ∀ {q : Queue.Q K}, Queue.get q = none → Queue.dirty q ⊆ Queue.processing q
  get_some : ∀ {q q' : Queue.Q K} {k : K}, Queue.get q = some (k, q') →
    k ∈ Queue.dirty q ∧ k ∉ Queue.processing q ∧ Queue.dirty q' = (Queue.dirty q).erase k ∧
      Queue.processing q' = insert k (Queue.processing q)
  dirty_done : ∀ {q : Queue.Q K} {k : K}, k ∈ Queue.processing q →
    Queue.dirty (Queue.done q k) = Queue.dirty q
  processing_done : ∀ {q : Queue.Q K} {k : K}, k ∈ Queue.processing q →
    Queue.processing (Queue.done q k) = (Queue.processing q).erase k

attribute [simp] LawfulQueue.dirty_add LawfulQueue.processing_add

/-- A list of the added keys, from which the first one that is not handed out is taken. -/
@[reducible] def listQueue (K : Type) [DecidableEq K] : Queue K where
  Q := List K × Finset K
  empty := ([], ∅)
  add q k := (q.1 ++ [k], q.2)
  get q := (q.1.find? fun k => decide (k ∉ q.2)).map fun k =>
    (k, q.1.filter (fun j => decide (j ≠ k)), insert k q.2)
  done q k := (q.1, q.2.erase k)
  dirty q := q.1.toFinset
  processing q := q.2

instance (K : Type) [DecidableEq K] : @LawfulQueue K _ (listQueue K) :=
  let : Queue K := listQueue K
  { processing_empty := rfl
    dirty_add := fun q k => by
      show (q.1 ++ [k]).toFinset = insert k q.1.toFinset
      ext j
      simp
    processing_add := fun _ _ => rfl
    get_none := fun {q} h k hk => by
      have hall := List.find?_eq_none.mp (Option.map_eq_none_iff.mp h) k (List.mem_toFinset.mp hk)
      show k ∈ q.2
      simpa using hall
    get_some := fun {q q' k} h => by
      obtain ⟨j, hfind, heq⟩ := Option.map_eq_some_iff.mp h
      obtain ⟨rfl, rfl⟩ := Prod.mk.inj heq
      have hfree : j ∉ q.2 := by simpa using List.find?_some hfind
      refine ⟨List.mem_toFinset.mpr (List.mem_of_find?_eq_some hfind), hfree, ?_, rfl⟩
      show (q.1.filter fun i => decide (i ≠ j)).toFinset = q.1.toFinset.erase j
      ext i
      simp [and_comm]
    dirty_done := fun _ => rfl
    processing_done := fun _ => rfl }

/-! ### The controller -/

/-- A worker waits for a key, has got one, works on the copy that it has read, or has finished the
work and is not done with the key. -/
inductive Worker (K V : Type) where
  | idle
  | got (k : K)
  | read (k : K) (v : Option V)
  | finished (k : K)

def Worker.key : Worker K V → Option K
  | .idle => none
  | .got k => some k
  | .read k _ => some k
  | .finished k => some k

variable [DecidableEq K] [DecidableEq W]

/-- Every key that is handed out has exactly one worker. -/
structure Keys (worker : W → Worker K V) (processing : Finset K) : Prop where
  mem_iff : ∀ k, k ∈ processing ↔ ∃ w, (worker w).key = some k
  exclusive : ∀ w w' k, (worker w).key = some k → (worker w').key = some k → w = w'

section keys

variable {worker : W → Worker K V} {processing : Finset K} {w : W} {k : K}

omit [DecidableEq K] in
theorem Keys.update_same (h : Keys worker processing) {x : Worker K V}
    (hx : x.key = (worker w).key) : Keys (Function.update worker w x) processing := by
  have hkey : ∀ w', (Function.update worker w x w').key = (worker w').key := by
    intro w'
    by_cases hw : w' = w
    · rw [hw, Function.update_self, hx]
    · rw [Function.update_of_ne hw]
  exact ⟨fun k => by simp only [hkey, h.mem_iff], fun w' w'' k => by
    rw [hkey, hkey]
    exact h.exclusive w' w'' k⟩

theorem Keys.get (h : Keys worker processing) (hidle : worker w = .idle) (hk : k ∉ processing) :
    Keys (Function.update worker w (.got k)) (insert k processing) := by
  have hnone : ∀ w', (worker w').key ≠ some k := fun w' hw' => hk ((h.mem_iff k).mpr ⟨w', hw'⟩)
  refine ⟨fun j => ?_, fun w' w'' j hw' hw'' => ?_⟩
  · rw [Finset.mem_insert, h.mem_iff]
    constructor
    · rintro (rfl | ⟨w', hw'⟩)
      · exact ⟨w, by rw [Function.update_self]; rfl⟩
      · have hne : w' ≠ w := by
          rintro rfl
          rw [hidle] at hw'
          cases hw'
        exact ⟨w', by rw [Function.update_of_ne hne, hw']⟩
    · rintro ⟨w', hw'⟩
      by_cases hw : w' = w
      · rw [hw, Function.update_self] at hw'
        exact .inl (Option.some.inj hw').symm
      · rw [Function.update_of_ne hw] at hw'
        exact .inr ⟨w', hw'⟩
  · by_cases hw : w' = w <;> by_cases hv : w'' = w
    · rw [hw, hv]
    · rw [hw, Function.update_self] at hw'
      rw [Function.update_of_ne hv, ← Option.some.inj hw'] at hw''
      exact absurd hw'' (hnone w'')
    · rw [hv, Function.update_self] at hw''
      rw [Function.update_of_ne hw, ← Option.some.inj hw''] at hw'
      exact absurd hw' (hnone w')
    · rw [Function.update_of_ne hw] at hw'
      rw [Function.update_of_ne hv] at hw''
      exact h.exclusive w' w'' j hw' hw''

theorem Keys.done (h : Keys worker processing) (hkey : (worker w).key = some k) :
    Keys (Function.update worker w .idle) (processing.erase k) := by
  have hof : ∀ {w' j}, (Function.update worker w .idle w').key = some j →
      w' ≠ w ∧ (worker w').key = some j := by
    intro w' j hw'
    by_cases hw : w' = w
    · rw [hw, Function.update_self] at hw'
      cases hw'
    · rw [Function.update_of_ne hw] at hw'
      exact ⟨hw, hw'⟩
  refine ⟨fun j => ?_, fun w' w'' j hw' hw'' => h.exclusive w' w'' j (hof hw').2 (hof hw'').2⟩
  rw [Finset.mem_erase, h.mem_iff]
  constructor
  · rintro ⟨hjk, w', hw'⟩
    have hne : w' ≠ w := by
      rintro rfl
      exact hjk (Option.some.inj (hw'.symm.trans hkey))
    exact ⟨w', by rw [Function.update_of_ne hne, hw']⟩
  · rintro ⟨w', hw'⟩
    obtain ⟨hne, hw'⟩ := hof hw'
    refine ⟨?_, w', hw'⟩
    rintro rfl
    exact hne (h.exclusive w' w j hw' hkey)

omit [DecidableEq K] in
/-- A worker that changes has nothing to do with the other keys. -/
theorem update_eq_iff {x y : Worker K V} (hold : (worker w).key ≠ some k) (hnew : y.key ≠ some k)
    (hx : x.key = some k) (w' : W) : Function.update worker w y w' = x ↔ worker w' = x := by
  by_cases hw : w' = w
  · rw [hw, Function.update_self]
    constructor
    · rintro rfl
      exact absurd hx hnew
    · rintro rfl
      exact absurd hx hold
  · rw [Function.update_of_ne hw]

end keys

/-- The controller: changes of the cache that were not announced yet are in `notices`, failed keys
that were not added again yet in `waiting`.  `last` has the copy that the last work on a key has
read, if it was a success. -/
structure Loop (K V W : Type) [Queue K] where
  cache : K → Option V
  notices : List K
  queue : Queue.Q K
  waiting : Finset K
  worker : W → Worker K V
  last : K → Option V

/-- The steps of the handler, the queue and the workers. -/
inductive Move (K W : Type) where
  | deliver
  | fire (k : K)
  | get (w : W)
  | read (w : W)
  | done (w : W)

/-- What happens: an object is seen, or seen to be gone, which the handler may or may not learn;
a worker finishes its work; the controller starts anew. -/
inductive Event (K V W : Type) where
  | observe (k : K) (v : V)
  | remove (k : K) (noticed : Bool)
  | move (m : Move K W)
  | finish (w : W) (ok : Bool)
  | restart

variable [Queue K]

def Loop.start : Loop K V W := ⟨fun _ => none, [], Queue.empty, ∅, fun _ => .idle, fun _ => none⟩

def Loop.set (s : Loop K V W) (w : W) (x : Worker K V) : Loop K V W :=
  { s with worker := Function.update s.worker w x }

def moved (s : Loop K V W) : Move K W → Loop K V W
  | .deliver =>
      match s.notices with
      | [] => s
      | k :: rest => { s with notices := rest, queue := Queue.add s.queue k }
  | .fire k =>
      if k ∈ s.waiting then { s with waiting := s.waiting.erase k, queue := Queue.add s.queue k }
      else s
  | .get w =>
      match s.worker w, Queue.get s.queue with
      | .idle, some (k, queue) => { s.set w (.got k) with queue := queue }
      | _, _ => s
  | .read w =>
      match s.worker w with
      | .got k => s.set w (.read k (s.cache k))
      | _ => s
  | .done w =>
      match s.worker w with
      | .finished k => { s.set w .idle with queue := Queue.done s.queue k }
      | _ => s

def finished (s : Loop K V W) (w : W) (k : K) (v : Option V) : Bool → Loop K V W
  | true => { s.set w (.finished k) with last := Function.update s.last k v }
  | false =>
      { s.set w (.finished k) with
        last := Function.update s.last k none
        waiting := insert k s.waiting }

def step (s : Loop K V W) : Event K V W → Loop K V W
  | .observe k v =>
      { s with cache := Function.update s.cache k (some v), notices := s.notices ++ [k] }
  | .remove k noticed =>
      { s with
        cache := Function.update s.cache k none
        notices := if noticed then s.notices ++ [k] else s.notices }
  | .move m => moved s m
  | .finish w ok =>
      match s.worker w with
      | .read k v => finished s w k v ok
      | _ => s
  | .restart => .start

/-- The controller can take the step by itself. -/
def Enabled (s : Loop K V W) : Event K V W → Prop
  | .observe _ _ => False
  | .remove _ _ => False
  | .move .deliver => s.notices ≠ []
  | .move (.fire k) => k ∈ s.waiting
  | .move (.get w) => s.worker w = .idle ∧ Queue.get s.queue ≠ none
  | .move (.read w) => ∃ k, s.worker w = .got k
  | .move (.done w) => ∃ k, s.worker w = .finished k
  | .finish w _ => ∃ k v, s.worker w = .read k v
  | .restart => False

/-- What a step can do. -/
inductive Stepped (s : Loop K V W) : Event K V W → Loop K V W → Prop where
  | same {e : Event K V W} (stays : ¬ Enabled s e) : Stepped s e s
  | observe (k : K) (v : V) : Stepped s (.observe k v)
      { s with cache := Function.update s.cache k (some v), notices := s.notices ++ [k] }
  | remove (k : K) (noticed : Bool) : Stepped s (.remove k noticed)
      { s with
        cache := Function.update s.cache k none
        notices := if noticed then s.notices ++ [k] else s.notices }
  | deliver {k : K} {rest : List K} (first : s.notices = k :: rest) :
      Stepped s (.move .deliver) { s with notices := rest, queue := Queue.add s.queue k }
  | fire {k : K} (waits : k ∈ s.waiting) : Stepped s (.move (.fire k))
      { s with waiting := s.waiting.erase k, queue := Queue.add s.queue k }
  | get {w : W} {k : K} {queue : Queue.Q K} (idle : s.worker w = .idle)
      (handed : Queue.get s.queue = some (k, queue)) :
      Stepped s (.move (.get w)) { s.set w (.got k) with queue := queue }
  | read {w : W} {k : K} (got : s.worker w = .got k) :
      Stepped s (.move (.read w)) (s.set w (.read k (s.cache k)))
  | done {w : W} {k : K} (worked : s.worker w = .finished k) :
      Stepped s (.move (.done w)) { s.set w .idle with queue := Queue.done s.queue k }
  | finish {w : W} {k : K} {v : Option V} (works : s.worker w = .read k v) (ok : Bool) :
      Stepped s (.finish w ok) (finished s w k v ok)
  | restart : Stepped s .restart .start

theorem stepped_moved (s : Loop K V W) (m : Move K W) : Stepped s (.move m) (moved s m) := by
  cases m with
  | deliver =>
      simp only [moved]
      split
      · next h => exact .same (fun hne => hne h)
      · next h => exact .deliver h
  | fire k =>
      simp only [moved]
      split_ifs with h
      · exact .fire h
      · exact .same h
  | get w =>
      simp only [moved]
      cases hw : s.worker w with
      | idle =>
          cases hget : Queue.get s.queue with
          | none => exact .same fun h => h.2 hget
          | some handed => exact .get hw hget
      | _ => exact .same fun h => by cases hw.symm.trans h.1
  | read w =>
      simp only [moved]
      split
      · next hw => exact .read hw
      · next hw => exact .same fun ⟨k, hk⟩ => hw k hk
  | done w =>
      simp only [moved]
      split
      · next hw => exact .done hw
      · next hw => exact .same fun ⟨k, hk⟩ => hw k hk

theorem stepped_step (s : Loop K V W) (e : Event K V W) : Stepped s e (step s e) := by
  cases e with
  | observe k v => exact .observe k v
  | remove k noticed => exact .remove k noticed
  | move m => exact stepped_moved s m
  | restart => exact .restart
  | finish w ok =>
      simp only [step]
      split
      · next hw => exact .finish hw ok
      · next hw => exact .same fun ⟨k, v, hk⟩ => hw k v hk

/-! ### What holds of every run -/

/-- The key is in the queue, or will be. -/
def Announced (s : Loop K V W) (k : K) : Prop := k ∈ s.notices ∨ k ∈ Queue.dirty s.queue

/-- Copies of the key that are in work are those of the cache, and one of them was the last, is in
work, or will be. -/
structure Fresh (s : Loop K V W) (k : K) : Prop where
  read_eq : ∀ w v, s.worker w = .read k v → v = s.cache k
  pending : k ∈ s.waiting ∨ s.last k = s.cache k ∨
    ∃ w, s.worker w = .got k ∨ s.worker w = .read k (s.cache k)

structure Inv (s : Loop K V W) : Prop where
  keys : Keys s.worker (Queue.processing s.queue)
  fresh : ∀ k v, s.cache k = some v → Announced s k ∨ Fresh s k

omit [DecidableEq W] in
theorem inv_start [LawfulQueue K] : Inv (Loop.start : Loop K V W) where
  keys := ⟨fun k => by simp [Loop.start, LawfulQueue.processing_empty, Worker.key],
    fun _ _ _ h => by cases h⟩
  fresh _ _ h := by cases h

/-- A step that is not about the key. -/
structure Unmoved (s s' : Loop K V W) (k : K) : Prop where
  cache : s'.cache k = s.cache k
  announced : Announced s k → Announced s' k
  waiting : k ∈ s.waiting → k ∈ s'.waiting
  last : s'.last k = s.last k
  worker : ∀ w x, x.key = some k → (s'.worker w = x ↔ s.worker w = x)

variable {s s' : Loop K V W} {e : Event K V W}

omit [DecidableEq K] [DecidableEq W] in
theorem Fresh.unmoved {k : K} (h : Fresh s k) (hsame : Unmoved s s' k) : Fresh s' k := by
  refine ⟨fun w v hw => ?_, ?_⟩
  · rw [hsame.cache]
    exact h.read_eq w v ((hsame.worker w _ rfl).mp hw)
  · rw [hsame.cache, hsame.last]
    rcases h.pending with hwaits | hlast | ⟨w, hw⟩
    · exact .inl (hsame.waiting hwaits)
    · exact .inr (.inl hlast)
    · refine .inr (.inr ⟨w, ?_⟩)
      rwa [hsame.worker w _ rfl, hsame.worker w _ rfl]

omit [DecidableEq W] in
/-- A step is about one key. -/
theorem Inv.fresh_step (h : Inv s) (k : K)
    (hk : ∀ v, s'.cache k = some v → Announced s' k ∨ Fresh s' k)
    (hothers : ∀ j ≠ k, Unmoved s s' j) (j : K) (v : V) (hj : s'.cache j = some v) :
    Announced s' j ∨ Fresh s' j := by
  by_cases hjk : j = k
  · subst hjk
    exact hk v hj
  · have hsame := hothers j hjk
    rw [hsame.cache] at hj
    exact (h.fresh j v hj).imp hsame.announced (fun hfresh => hfresh.unmoved hsame)

omit [DecidableEq W] in
theorem Inv.deliver [LawfulQueue K] (h : Inv s) {k : K} {rest : List K}
    (hfirst : s.notices = k :: rest) :
    Inv { s with notices := rest, queue := Queue.add s.queue k } := by
  refine ⟨by simpa using h.keys, h.fresh_step k (fun _ _ => ?_) fun j hj => ?_⟩
  · exact .inl (.inr (by simp))
  · refine ⟨rfl, ?_, id, rfl, fun _ _ _ => Iff.rfl⟩
    rintro (hnotice | hdirty)
    · rw [hfirst, List.mem_cons] at hnotice
      exact .inl (hnotice.resolve_left hj)
    · exact .inr (by simp [hdirty])

omit [DecidableEq W] in
theorem Inv.fire [LawfulQueue K] (h : Inv s) {k : K} :
    Inv { s with waiting := s.waiting.erase k, queue := Queue.add s.queue k } := by
  refine ⟨by simpa using h.keys, h.fresh_step k (fun _ _ => ?_) fun j hj => ?_⟩
  · exact .inl (.inr (by simp))
  · refine ⟨rfl, ?_, fun hwaits => Finset.mem_erase.mpr ⟨hj, hwaits⟩, rfl, fun _ _ _ => Iff.rfl⟩
    exact Or.imp_right fun hdirty => by simp [hdirty]

/-- The key that is handed out has no other worker, so no older copy of it is in work. -/
theorem Inv.get [LawfulQueue K] (h : Inv s) {w : W} {k : K} {queue : Queue.Q K}
    (hidle : s.worker w = .idle) (hget : Queue.get s.queue = some (k, queue)) :
    Inv { s.set w (.got k) with queue := queue } := by
  obtain ⟨_, hfree, hdirty, hprocessing⟩ := LawfulQueue.get_some hget
  refine ⟨hprocessing ▸ h.keys.get hidle hfree, h.fresh_step k (fun _ _ => .inr ?_)
    fun j hj => ?_⟩
  · refine ⟨fun w' v hw' => ?_, .inr (.inr ⟨w, .inl (Function.update_self ..)⟩)⟩
    exfalso
    have hw' : Function.update s.worker w (.got k) w' = .read k v := hw'
    by_cases hw : w' = w
    · rw [hw, Function.update_self] at hw'
      cases hw'
    · rw [Function.update_of_ne hw] at hw'
      exact hfree ((h.keys.mem_iff k).mpr ⟨w', by rw [hw']; rfl⟩)
  · refine ⟨rfl, Or.imp_right fun hmem => hdirty ▸ Finset.mem_erase.mpr ⟨hj, hmem⟩, id, rfl, ?_⟩
    intro w' x hx
    exact update_eq_iff (by simp [hidle, Worker.key]) (by simpa [Worker.key] using hj.symm) hx w'

theorem Inv.read (h : Inv s) {w : W} {k : K} (hgot : s.worker w = .got k) :
    Inv (s.set w (.read k (s.cache k))) := by
  refine ⟨h.keys.update_same (by rw [hgot]; rfl), h.fresh_step k (fun v hv => ?_)
    fun j hj => ?_⟩
  · refine (h.fresh k v hv).imp id fun hfresh => ⟨fun w' u hw' => ?_,
      .inr (.inr ⟨w, .inr (Function.update_self ..)⟩)⟩
    have hw' : Function.update s.worker w (.read k (s.cache k)) w' = .read k u := hw'
    by_cases hw : w' = w
    · rw [hw, Function.update_self] at hw'
      cases hw'
      rfl
    · rw [Function.update_of_ne hw] at hw'
      exact hfresh.read_eq w' u hw'
  · refine ⟨rfl, id, id, rfl, fun w' x hx => ?_⟩
    exact update_eq_iff (by simpa [hgot, Worker.key] using hj.symm)
      (by simpa [Worker.key] using hj.symm) hx w'

theorem Inv.done [LawfulQueue K] (h : Inv s) {w : W} {k : K} (hworked : s.worker w = .finished k) :
    Inv { s.set w .idle with queue := Queue.done s.queue k } := by
  have hkey : (s.worker w).key = some k := by rw [hworked]; rfl
  have hout : k ∈ Queue.processing s.queue := (h.keys.mem_iff k).mpr ⟨w, hkey⟩
  refine ⟨LawfulQueue.processing_done hout ▸ h.keys.done hkey,
    fun j v hj => (h.fresh j v hj).imp (Or.imp_right fun hdirty => ?_) fun hfresh => ?_⟩
  · show j ∈ Queue.dirty (Queue.done s.queue k)
    rwa [LawfulQueue.dirty_done hout]
  -- the worker had finished, so it was not the one that keeps the key fresh
  have hsame : ∀ w' x, x ≠ .idle → x ≠ .finished k →
      (Function.update s.worker w .idle w' = x ↔ s.worker w' = x) := by
    intro w' x hidle hfinished
    by_cases hw : w' = w
    · rw [hw, Function.update_self, hworked]
      exact iff_of_false hidle.symm hfinished.symm
    · rw [Function.update_of_ne hw]
  refine ⟨fun w' u hw' => hfresh.read_eq w' u ((hsame w' _ (by simp) (by simp)).mp hw'),
    hfresh.pending.imp id (Or.imp id fun ⟨w', hw'⟩ => ⟨w', ?_⟩)⟩
  exact hw'.imp (hsame w' _ (by simp) (by simp)).mpr (hsame w' _ (by simp) (by simp)).mpr

/-- A success was on the copy in the cache, or the key is announced; a failure is tried again. -/
theorem Inv.finish (h : Inv s) {w : W} {k : K} {v : Option V} (hworks : s.worker w = .read k v)
    (ok : Bool) : Inv (finished s w k v ok) := by
  have hkeys : Keys (Function.update s.worker w (.finished k)) (Queue.processing s.queue) :=
    h.keys.update_same (by rw [hworks]; rfl)
  have hread : ∀ w' u, Function.update s.worker w (.finished k) w' = .read k u →
      s.worker w' = .read k u := by
    intro w' u hw'
    by_cases hw : w' = w
    · rw [hw, Function.update_self] at hw'
      cases hw'
    · rwa [Function.update_of_ne hw] at hw'
  have hworker : ∀ j ≠ k, ∀ w' x, x.key = some j →
      (Function.update s.worker w (.finished k) w' = x ↔ s.worker w' = x) := fun j hj w' x hx =>
    update_eq_iff (by simpa [hworks, Worker.key] using hj.symm)
      (by simpa [Worker.key] using hj.symm) hx w'
  cases ok with
  | true =>
      refine ⟨hkeys, h.fresh_step k (fun u hu => ?_) fun j hj =>
        ⟨rfl, id, id, Function.update_of_ne hj .., hworker j hj⟩⟩
      refine (h.fresh k u hu).imp id fun hfresh =>
        ⟨fun w' u' hw' => hfresh.read_eq w' u' (hread w' u' hw'), .inr (.inl ?_)⟩
      exact (Function.update_self ..).trans (hfresh.read_eq w v hworks)
  | false =>
      refine ⟨hkeys, h.fresh_step k (fun u hu => ?_) fun j hj =>
        ⟨rfl, id, fun hwaits => Finset.mem_insert_of_mem hwaits, Function.update_of_ne hj ..,
          hworker j hj⟩⟩
      exact (h.fresh k u hu).imp id fun hfresh =>
        ⟨fun w' u' hw' => hfresh.read_eq w' u' (hread w' u' hw'),
          .inl (Finset.mem_insert_self ..)⟩

omit [DecidableEq W] in
theorem Inv.observe (h : Inv s) (k : K) (v : V) : Inv
    { s with cache := Function.update s.cache k (some v), notices := s.notices ++ [k] } := by
  refine ⟨h.keys, h.fresh_step k (fun _ _ => .inl (.inl (by simp))) fun j hj => ?_⟩
  exact ⟨Function.update_of_ne hj .., Or.imp_left (List.mem_append_left _), id, rfl,
    fun _ _ _ => Iff.rfl⟩

omit [DecidableEq W] in
theorem Inv.remove (h : Inv s) (k : K) (noticed : Bool) : Inv
    { s with
      cache := Function.update s.cache k none
      notices := if noticed then s.notices ++ [k] else s.notices } := by
  refine ⟨h.keys, h.fresh_step k (fun v hv => ?_) fun j hj => ?_⟩
  · cases hv.symm.trans (Function.update_self ..)
  · refine ⟨Function.update_of_ne hj .., Or.imp_left fun hnotice => ?_, id, rfl,
      fun _ _ _ => Iff.rfl⟩
    show j ∈ if noticed then s.notices ++ [k] else s.notices
    split_ifs
    · exact List.mem_append_left _ hnotice
    · exact hnotice

theorem Inv.stepped [LawfulQueue K] (h : Inv s) (hstepped : Stepped s e s') : Inv s' := by
  cases hstepped with
  | same _ => exact h
  | observe k v => exact h.observe k v
  | remove k noticed => exact h.remove k noticed
  | deliver hfirst => exact h.deliver hfirst
  | fire _ => exact h.fire
  | get hidle hget => exact h.get hidle hget
  | read hgot => exact h.read hgot
  | done hworked => exact h.done hworked
  | finish hworks ok => exact h.finish hworks ok
  | restart => exact inv_start

theorem Inv.step [LawfulQueue K] (h : Inv s) (e : Event K V W) : Inv (step s e) :=
  h.stepped (stepped_step s e)

theorem last_finished {w : W} {k j : K} {v : Option V} {ok : Bool} {u : V}
    (h : (finished s w k v ok).last j = some u) :
    j = k ∧ ok = true ∧ v = some u ∨ j ≠ k ∧ s.last j = some u := by
  by_cases hj : j = k
  · subst hj
    cases ok with
    | true =>
        have hlast : Function.update s.last j v j = some u := h
        rw [Function.update_self] at hlast
        exact .inl ⟨rfl, rfl, hlast⟩
    | false => cases h.symm.trans (Function.update_self ..)
  · cases ok <;> exact .inr ⟨hj, (Function.update_of_ne hj ..).symm.trans h⟩

/-- Only work on the key is recorded. -/
theorem last_of_stepped (hstepped : Stepped s e s') (hfinish : ∀ w ok, e ≠ .finish w ok) {k : K}
    {v : V} (h : s'.last k = some v) : s.last k = some v := by
  cases hstepped with
  | finish _ ok => exact absurd rfl (hfinish _ ok)
  | restart => cases h
  | _ => exact h

/-- Nothing is to be done for the key. -/
structure Idle (s : Loop K V W) (k : K) : Prop where
  not_announced : ¬ Announced s k
  not_waiting : k ∉ s.waiting
  no_worker : ∀ w, (s.worker w).key ≠ some k

instance [Fintype W] (s : Loop K V W) (k : K) : Decidable (Idle s k) :=
  decidable_of_iff ((¬ (k ∈ s.notices ∨ k ∈ Queue.dirty s.queue)) ∧ k ∉ s.waiting ∧
    ∀ w, (s.worker w).key ≠ some k) ⟨fun h => ⟨h.1, h.2.1, h.2.2⟩, fun h => ⟨h.1, h.2, h.3⟩⟩

omit [DecidableEq K] [DecidableEq W] in
theorem Inv.last_eq_of_idle (h : Inv s) {k : K} (hidle : Idle s k) {v : V}
    (hv : s.cache k = some v) : s.last k = some v := by
  have hfresh := (h.fresh k v hv).resolve_left hidle.not_announced
  rcases hfresh.pending with hwaits | hlast | ⟨w, hw | hw⟩
  · exact absurd hwaits hidle.not_waiting
  · rw [hlast, hv]
  · exact absurd (by rw [hw]; rfl) (hidle.no_worker w)
  · exact absurd (by rw [hw]; rfl) (hidle.no_worker w)

/-! ### The end of the work -/

def Worker.work : Worker K V → ℕ
  | .idle => 0
  | .got _ => 3
  | .read _ _ => 2
  | .finished _ => 1

section work

variable [Fintype W]

/-- A bound for the steps that are left if no work fails. -/
def work (s : Loop K V W) : ℕ :=
  5 * s.notices.length + 5 * s.waiting.card + 4 * (Queue.dirty s.queue).card +
    ∑ w, (s.worker w).work

/-- A failure costs the steps of one more attempt. -/
def cost : Event K V W → ℕ
  | .finish _ false => 5
  | _ => 0

omit [Queue K] [DecidableEq K] in
theorem sum_work_update (worker : W → Worker K V) (w : W) (x : Worker K V) :
    (∑ w', (Function.update worker w x w').work) + (worker w).work =
      (∑ w', (worker w').work) + x.work := by
  have hrest : ∑ w' ∈ Finset.univ.erase w, (Function.update worker w x w').work =
      ∑ w' ∈ Finset.univ.erase w, (worker w').work :=
    Finset.sum_congr rfl fun w' hw' => by rw [Function.update_of_ne (Finset.ne_of_mem_erase hw')]
  rw [← Finset.add_sum_erase _ _ (Finset.mem_univ w), hrest, Function.update_self,
    ← Finset.add_sum_erase Finset.univ (fun w' => (worker w').work) (Finset.mem_univ w)]
  omega

theorem work_lt_of_enabled [LawfulQueue K] (h : Inv s) (henabled : Enabled s e)
    (hstepped : Stepped s e s') :
    work s' < work s + cost e := by
  have hinsert : ∀ k, (insert k (Queue.dirty s.queue)).card ≤ (Queue.dirty s.queue).card + 1 :=
    fun k => Finset.card_insert_le k _
  cases hstepped with
  | same hstays => exact absurd henabled hstays
  | observe => exact henabled.elim
  | remove => exact henabled.elim
  | restart => exact henabled.elim
  | @deliver k rest hfirst =>
      have := hinsert k
      simp only [work, cost, LawfulQueue.dirty_add, hfirst, List.length_cons]
      omega
  | @fire k hwaits =>
      have := hinsert k
      have := Finset.card_erase_add_one hwaits
      simp only [work, cost, LawfulQueue.dirty_add]
      omega
  | @get w k queue hidle hget =>
      obtain ⟨hmem, _, hdirty, _⟩ := LawfulQueue.get_some hget
      have hsum := sum_work_update s.worker w (.got k)
      have := Finset.card_erase_add_one hmem
      rw [hidle] at hsum
      simp only [work, cost, Loop.set, Worker.work, hdirty] at hsum ⊢
      omega
  | @read w k hgot =>
      have hsum := sum_work_update s.worker w (.read k (s.cache k))
      rw [hgot] at hsum
      simp only [work, cost, Loop.set, Worker.work] at hsum ⊢
      omega
  | @done w k hworked =>
      have hsum := sum_work_update s.worker w .idle
      have hout : k ∈ Queue.processing s.queue :=
        (h.keys.mem_iff k).mpr ⟨w, by rw [hworked]; rfl⟩
      rw [hworked] at hsum
      simp only [work, cost, Loop.set, LawfulQueue.dirty_done hout, Worker.work] at hsum ⊢
      omega
  | @finish w k v hworks ok =>
      have hsum := sum_work_update s.worker w (.finished k)
      have := Finset.card_insert_le k s.waiting
      rw [hworks] at hsum
      cases ok <;> simp only [work, cost, finished, Loop.set, Worker.work] at hsum ⊢ <;> omega

omit [DecidableEq W] [Fintype W] in
/-- There is no deadlock. -/
theorem Inv.idle_of_stuck [LawfulQueue K] [Nonempty W] (h : Inv s) (hstuck : ∀ e, ¬ Enabled s e)
    (k : K) :
    Idle s k := by
  have hworker : ∀ w, s.worker w = .idle := by
    intro w
    cases hw : s.worker w with
    | idle => rfl
    | got j => exact absurd ⟨j, hw⟩ (hstuck (.move (.read w)))
    | read j v => exact absurd ⟨j, v, hw⟩ (hstuck (.finish w true))
    | finished j => exact absurd ⟨j, hw⟩ (hstuck (.move (.done w)))
  have hfree : ∀ w, (s.worker w).key ≠ some k := fun w => by simp [hworker w, Worker.key]
  have hget : Queue.get s.queue = none := by
    by_contra hne
    exact hstuck (.move (.get (Classical.arbitrary W))) ⟨hworker _, hne⟩
  refine ⟨?_, hstuck (.move (.fire k)), hfree⟩
  rintro (hnotice | hdirty)
  · exact hstuck (.move .deliver) (List.ne_nil_of_mem hnotice)
  · obtain ⟨w, hw⟩ := (h.keys.mem_iff k).mp (LawfulQueue.get_none hget hdirty)
    exact hfree w hw

end work

end AcceleratorFabric.WorkQueue
