import AcceleratorFabric.GoMap

/-! # Programs over a disk that fails

A program is a tree of file requests (`Prog`): what it asks next depends on the answers so far.
Every request may fail, as a list of faults decides (`run`), and the machine may stop between
any two requests (`crashAfter`).

Two kinds of facts about a program are proved by its structure.  `Post Q` says that `Q` holds
of result and disk under every fault; `post_bind` and `post_mono` are its rules.  `Spares x` and
`Switches x` say what happens to the file `x` on the way: it is never written, or it is replaced
in one request after which it is never written again.  From these, at every crash of a program
that switches `x`, the file is as it was or as the completed program leaves it
(`Switches.crashAfter`).  `Always I` says that `I` holds between any two requests, for facts about
several files at once.

For facts about the place where a program stops, `Served` and `Failed` say what became of its
`i`-th request; `stop_call` is the rule that follows a program from request to request. -/

namespace AcceleratorFabric.FaultyDisk

open GoMap

/-! ### Requests -/

/-- The files of a disk by path. -/
abbrev Disk (P C : Type) := GoMap P C

inductive FileError (E : Type) where
  | notExist
  | failed (error : E)
deriving DecidableEq, Repr

/-- What goes wrong with a request; a failed write may leave some content in its file. -/
structure Fault (C E : Type) where
  error : E
  left : Option C
deriving DecidableEq, Repr

inductive Request (P C : Type) where
  | readFile (path : P)
  | writeFile (path : P) (content : C)
  | rename (source target : P)
  | remove (path : P)
  | mkdirAll (path : P)

/-- What a request that succeeds returns. -/
abbrev Request.Answer {P C : Type} : Request P C → Type
  | readFile _ => C
  | writeFile _ _ => Unit
  | rename _ _ => Unit
  | remove _ => Unit
  | mkdirAll _ => Unit

/-- The paths whose files a request may change. -/
def Request.writes {P C : Type} : Request P C → List P
  | readFile _ => []
  | writeFile path _ => [path]
  | rename source target => [source, target]
  | remove path => [path]
  | mkdirAll _ => []

section service

variable {P C E : Type} [DecidableEq P]

/-- The answer to a request and the disk after it. -/
def serve (fault : Option (Fault C E)) (disk : Disk P C) :
    (r : Request P C) → Except (FileError E) r.Answer × Disk P C
  | .readFile path =>
      match fault, disk.lookup path with
      | some f, _ => (.error (.failed f.error), disk)
      | none, none => (.error .notExist, disk)
      | none, some content => (.ok content, disk)
  | .writeFile path content =>
      match fault with
      | some f => (.error (.failed f.error), insertSome disk path f.left)
      | none => (.ok (), disk.insert path content)
  | .rename source target =>
      match fault, disk.lookup source with
      | some f, _ => (.error (.failed f.error), disk)
      | none, none => (.error .notExist, disk)
      | none, some content => (.ok (), (disk.erase source).insert target content)
  | .remove path =>
      match fault, disk.lookup path with
      | some f, _ => (.error (.failed f.error), disk)
      | none, none => (.error .notExist, disk)
      | none, some _ => (.ok (), disk.erase path)
  | .mkdirAll _ =>
      match fault with
      | some f => (.error (.failed f.error), disk)
      | none => (.ok (), disk)

/-- A request leaves the other files alone. -/
theorem lookup_serve (fault : Option (Fault C E)) (disk : Disk P C) (r : Request P C) {x : P}
    (h : x ∉ r.writes) : (serve fault disk r).2.lookup x = disk.lookup x := by
  cases r with
  | readFile path => simp only [serve]; split <;> rfl
  | writeFile path content =>
      have hne : x ≠ path := by simpa [Request.writes] using h
      simp only [serve]
      split
      · rw [lookup_insertSome, if_neg hne]
      · rw [lookup_insert_ite, if_neg hne]
  | rename source target =>
      have hne : x ≠ source ∧ x ≠ target := by simpa [Request.writes] using h
      simp only [serve]
      split
      · rfl
      · rfl
      · rw [lookup_insert_ite, if_neg hne.2, lookup_erase_ite, if_neg hne.1]
  | remove path =>
      have hne : x ≠ path := by simpa [Request.writes] using h
      simp only [serve]
      split
      · rfl
      · rfl
      · rw [lookup_erase_ite, if_neg hne]
  | mkdirAll path => simp only [serve]; split <;> rfl

theorem serve_readFile_cases (fault : Option (Fault C E)) (disk : Disk P C) (path : P) :
    (∃ e, serve fault disk (.readFile path) = (.error (.failed e), disk)) ∨
      (disk.lookup path = none ∧ serve fault disk (.readFile path) = (.error .notExist, disk)) ∨
      ∃ content, disk.lookup path = some content ∧
        serve fault disk (.readFile path) = (.ok content, disk) := by
  simp only [serve]
  split
  · exact .inl ⟨_, rfl⟩
  · rename_i hnone
    exact .inr (.inl ⟨hnone, rfl⟩)
  · rename_i content hcontent
    exact .inr (.inr ⟨content, hcontent, rfl⟩)

/-- A rename moves the file or changes nothing. -/
theorem serve_rename_cases (fault : Option (Fault C E)) (disk : Disk P C) (source target : P) :
    (∃ e, serve fault disk (.rename source target) = (.error e, disk)) ∨
      ∃ content, disk.lookup source = some content ∧
        serve fault disk (.rename source target) =
          (.ok (), (disk.erase source).insert target content) := by
  simp only [serve]
  split
  · exact .inl ⟨_, rfl⟩
  · exact .inl ⟨_, rfl⟩
  · rename_i content hcontent
    exact .inr ⟨content, hcontent, rfl⟩

theorem serve_remove_cases (fault : Option (Fault C E)) (disk : Disk P C) (path : P) :
    (∃ e, serve fault disk (.remove path) = (.error (.failed e), disk)) ∨
      (disk.lookup path = none ∧ serve fault disk (.remove path) = (.error .notExist, disk)) ∨
      serve fault disk (.remove path) = (.ok (), disk.erase path) := by
  simp only [serve]
  split
  · exact .inl ⟨_, rfl⟩
  · rename_i hnone
    exact .inr (.inl ⟨hnone, rfl⟩)
  · exact .inr (.inr rfl)

/-- Without a fault a file is only not removed because it is not there. -/
theorem serve_remove_none (disk : Disk P C) (path : P) :
    serve (none : Option (Fault C E)) disk (.remove path) = (.error .notExist, disk) ∨
      serve (none : Option (Fault C E)) disk (.remove path) = (.ok (), disk.erase path) := by
  cases hfile : disk.lookup path with
  | none =>
      left
      simp only [serve, hfile]
  | some content =>
      right
      simp only [serve, hfile]

end service

/-! ### Programs -/

/-- A program that returns an `α`. -/
inductive Prog (P C E : Type) (α : Type) where
  | done (result : α)
  | call (r : Request P C) (next : Except (FileError E) r.Answer → Prog P C E α)

namespace Prog

variable {P C E : Type} {α β : Type}

def bind : Prog P C E α → (α → Prog P C E β) → Prog P C E β
  | done a, f => f a
  | call r next, f => call r (fun answer => (next answer).bind f)

instance : Monad (Prog P C E) where
  pure := done
  bind := bind

/-- A program of one request. -/
def request (r : Request P C) : Prog P C E (Except (FileError E) r.Answer) := call r done

@[simp] theorem pure_eq (a : α) : (pure a : Prog P C E α) = done a := rfl

@[simp] theorem bind_eq (p : Prog P C E α) (f : α → Prog P C E β) : (p >>= f) = p.bind f := rfl

@[simp] theorem done_bind (a : α) (f : α → Prog P C E β) : (done a).bind f = f a := rfl

theorem bind_assoc {γ : Type} (f : α → Prog P C E β) (g : β → Prog P C E γ) :
    ∀ p : Prog P C E α, (p.bind f).bind g = p.bind fun a => (f a).bind g
  | done _ => rfl
  | call r next => congrArg (call r) (funext fun answer => bind_assoc f g (next answer))

/-! ### Executions -/

variable [DecidableEq P]

/-- Result and disk of the completed program. -/
def run : Prog P C E α → List (Option (Fault C E)) → Disk P C → α × Disk P C
  | done a, _, disk => (a, disk)
  | call r next, faults, disk =>
      (next (serve (faults.headD none) disk r).1).run faults.tail
        (serve (faults.headD none) disk r).2

/-- The disk after the first `n` requests of the program. -/
def crashAfter : ℕ → Prog P C E α → List (Option (Fault C E)) → Disk P C → Disk P C
  | 0, _, _, disk => disk
  | _ + 1, done _, _, disk => disk
  | n + 1, call r next, faults, disk =>
      (next (serve (faults.headD none) disk r).1).crashAfter n faults.tail
        (serve (faults.headD none) disk r).2

/-- Without faults, a sequence is run one part after the other. -/
theorem run_bind_nil (f : α → Prog P C E β) : ∀ (p : Prog P C E α) (disk : Disk P C),
    (p.bind f).run [] disk = (f (p.run [] disk).1).run [] (p.run [] disk).2
  | done _, _ => rfl
  | call _ next, _ => run_bind_nil f (next _) _

/-- A result that is only passed on. -/
theorem run_bind_done (g : α → β) : ∀ (p : Prog P C E α) (faults : List (Option (Fault C E)))
    (disk : Disk P C), (p.bind fun a => done (g a)).run faults disk =
      (g (p.run faults disk).1, (p.run faults disk).2)
  | done _, _, _ => rfl
  | call _ next, faults, _ => run_bind_done g (next _) faults.tail _

theorem crashAfter_bind_done (g : α → β) : ∀ (n : ℕ) (p : Prog P C E α)
    (faults : List (Option (Fault C E))) (disk : Disk P C),
      (p.bind fun a => done (g a)).crashAfter n faults disk = p.crashAfter n faults disk
  | 0, _, _, _ => rfl
  | _ + 1, done _, _, _ => rfl
  | n + 1, call _ next, faults, _ => crashAfter_bind_done g n (next _) faults.tail _

/-! ### Results -/

/-- `Q` holds of result and disk, whatever fails. -/
def Post (Q : α → Disk P C → Prop) : Prog P C E α → Disk P C → Prop
  | done a, disk => Q a disk
  | call r next, disk => ∀ fault : Option (Fault C E),
      (next (serve fault disk r).1).Post Q (serve fault disk r).2

theorem post_run {Q : α → Disk P C → Prop} : ∀ {p : Prog P C E α} {disk : Disk P C},
    p.Post Q disk → ∀ faults, Q (p.run faults disk).1 (p.run faults disk).2
  | done _, _, h, _ => h
  | call _ next, _, h, faults => post_run (p := next _) (h (faults.headD none)) faults.tail

theorem post_mono {Q R : α → Disk P C → Prop} (hQR : ∀ a disk, Q a disk → R a disk) :
    ∀ {p : Prog P C E α} {disk : Disk P C}, p.Post Q disk → p.Post R disk
  | done _, _, h => hQR _ _ h
  | call _ next, _, h => fun fault => post_mono hQR (p := next _) (h fault)

theorem post_and {Q R : α → Disk P C → Prop} : ∀ {p : Prog P C E α} {disk : Disk P C},
    p.Post Q disk → p.Post R disk → p.Post (fun a disk' => Q a disk' ∧ R a disk') disk
  | done _, _, hq, hr => ⟨hq, hr⟩
  | call _ next, _, hq, hr => fun fault => post_and (p := next _) (hq fault) (hr fault)

theorem post_true : ∀ (p : Prog P C E α) (disk : Disk P C), p.Post (fun _ _ => True) disk
  | done _, _ => trivial
  | call _ next, _ => fun _ => post_true (next _) _

/-- The rule of sequences. -/
theorem post_bind {Q : β → Disk P C → Prop} {f : α → Prog P C E β} :
    ∀ {p : Prog P C E α} {disk : Disk P C},
      p.Post (fun a disk' => (f a).Post Q disk') disk → (p.bind f).Post Q disk
  | done _, _, h => h
  | call _ next, _, h => fun fault => post_bind (p := next _) (h fault)

/-! ### Files on the way -/

/-- The program, started on the disk, never changes the file. -/
def Spares (x : P) : Prog P C E α → Disk P C → Prop
  | done _, _ => True
  | call r next, disk => ∀ fault : Option (Fault C E),
      (serve fault disk r).2.lookup x = disk.lookup x ∧
        (next (serve fault disk r).1).Spares x (serve fault disk r).2

/-- The program changes the file in at most one request. -/
def Switches (x : P) : Prog P C E α → Disk P C → Prop
  | done _, _ => True
  | call r next, disk => ∀ fault : Option (Fault C E),
      ((serve fault disk r).2.lookup x = disk.lookup x ∧
        (next (serve fault disk r).1).Switches x (serve fault disk r).2) ∨
      (next (serve fault disk r).1).Spares x (serve fault disk r).2

variable {x : P}

theorem spares_request {r : Request P C} (h : x ∉ r.writes) (disk : Disk P C) :
    (request r : Prog P C E _).Spares x disk :=
  fun fault => ⟨lookup_serve fault disk r h, trivial⟩

theorem Spares.bind {f : α → Prog P C E β} : ∀ {p : Prog P C E α} {disk : Disk P C},
    p.Spares x disk →
    (∀ a disk', disk'.lookup x = disk.lookup x → (f a).Spares x disk') →
      (p.bind f).Spares x disk
  | done a, disk, _, hf => hf a disk rfl
  | call _ _, _, hp, hf => fun fault =>
      ⟨(hp fault).1, (hp fault).2.bind fun a disk' h => hf a disk' (h.trans (hp fault).1)⟩

theorem Spares.switches : ∀ {p : Prog P C E α} {disk : Disk P C},
    p.Spares x disk → p.Switches x disk
  | done _, _, _ => trivial
  | call _ _, _, h => fun fault => .inl ⟨(h fault).1, (h fault).2.switches⟩

/-- A part that spares the file before one that switches it. -/
theorem Spares.bind_switches {f : α → Prog P C E β} :
    ∀ {p : Prog P C E α} {disk : Disk P C}, p.Spares x disk →
    (∀ a disk', disk'.lookup x = disk.lookup x → (f a).Switches x disk') →
      (p.bind f).Switches x disk
  | done a, disk, _, hf => hf a disk rfl
  | call _ _, _, hp, hf => fun fault => .inl ⟨(hp fault).1,
      (hp fault).2.bind_switches fun a disk' h => hf a disk' (h.trans (hp fault).1)⟩

/-- A part that switches the file before one that spares it. -/
theorem Switches.bind {f : α → Prog P C E β} : ∀ {p : Prog P C E α} {disk : Disk P C},
    p.Switches x disk → (∀ a disk', (f a).Spares x disk') → (p.bind f).Switches x disk
  | done a, disk, _, hf => (hf a disk).switches
  | call _ _, _, hp, hf => fun fault => by
      rcases hp fault with ⟨hsame, hnext⟩ | hnext
      · exact .inl ⟨hsame, hnext.bind hf⟩
      · exact .inr (hnext.bind fun a disk' _ => hf a disk')

theorem Spares.post : ∀ {p : Prog P C E α} {disk : Disk P C}, p.Spares x disk →
    p.Post (fun _ disk' => disk'.lookup x = disk.lookup x) disk
  | done _, _, _ => rfl
  | call _ _, _, h => fun fault => by
      have hnext := (h fault).2.post
      rw [(h fault).1] at hnext
      exact hnext

/-- A part that spares the file before any other. -/
theorem Spares.post_bind {Q : β → Disk P C → Prop} {f : α → Prog P C E β} {p : Prog P C E α}
    {disk : Disk P C} (hp : p.Spares x disk)
    (hf : ∀ a disk', disk'.lookup x = disk.lookup x → (f a).Post Q disk') :
    (p.bind f).Post Q disk :=
  Prog.post_bind (post_mono hf hp.post)

theorem Spares.crashAfter : ∀ (n : ℕ) {p : Prog P C E α} {disk : Disk P C}, p.Spares x disk →
    ∀ faults : List (Option (Fault C E)), (p.crashAfter n faults disk).lookup x = disk.lookup x
  | 0, _, _, _, _ => rfl
  | _ + 1, done _, _, _, _ => rfl
  | n + 1, call _ _, _, h, faults => by
      rw [Prog.crashAfter, (h _).2.crashAfter n, (h _).1]

/-- **Atomic replacement.**  Wherever the program stops, the file is as before or as after the
completed program. -/
theorem Switches.crashAfter : ∀ (n : ℕ) {p : Prog P C E α} {disk : Disk P C},
    p.Switches x disk → ∀ faults : List (Option (Fault C E)),
      (p.crashAfter n faults disk).lookup x = disk.lookup x ∨
      (p.crashAfter n faults disk).lookup x = (p.run faults disk).2.lookup x
  | 0, _, _, _, _ => .inl rfl
  | _ + 1, done _, _, _, _ => .inl rfl
  | n + 1, call _ _, _, h, faults => by
      rw [Prog.crashAfter, Prog.run]
      rcases h (faults.headD none) with ⟨hsame, hnext⟩ | hnext
      · rw [← hsame]
        exact hnext.crashAfter n faults.tail
      · right
        rw [hnext.crashAfter n]
        exact (post_run hnext.post faults.tail).symm

/-! ### Every moment of a program -/

/-- `I` holds of the disk before, between and after the requests, whatever fails. -/
def Always (I : Disk P C → Prop) : Prog P C E α → Disk P C → Prop
  | done _, disk => I disk
  | call r next, disk => I disk ∧ ∀ fault : Option (Fault C E),
      (next (serve fault disk r).1).Always I (serve fault disk r).2

variable {I : Disk P C → Prop}

theorem Always.start : ∀ {p : Prog P C E α} {disk : Disk P C}, p.Always I disk → I disk
  | done _, _, h => h
  | call _ _, _, h => h.1

theorem Always.bind {f : α → Prog P C E β} : ∀ {p : Prog P C E α} {disk : Disk P C},
    p.Always I disk → p.Post (fun a disk' => (f a).Always I disk') disk → (p.bind f).Always I disk
  | done _, _, _, hf => hf
  | call _ _, _, hp, hf => ⟨hp.1, fun fault => (hp.2 fault).bind (hf fault)⟩

theorem Always.post : ∀ {p : Prog P C E α} {disk : Disk P C}, p.Always I disk →
    p.Post (fun _ disk' => I disk') disk
  | done _, _, h => h
  | call _ _, _, h => fun fault => (h.2 fault).post

/-- Two parts that both keep `I`. -/
theorem Always.then {f : α → Prog P C E β} {p : Prog P C E α} {disk : Disk P C}
    (hp : p.Always I disk) (hf : ∀ a disk', I disk' → (f a).Always I disk') :
    (p.bind f).Always I disk :=
  hp.bind (post_mono hf hp.post)

/-- What depends on a file that the program spares. -/
theorem Spares.always : ∀ {p : Prog P C E α} {disk : Disk P C}, p.Spares x disk →
    (∀ disk', disk'.lookup x = disk.lookup x → I disk') → p.Always I disk
  | done _, disk, _, hI => hI disk rfl
  | call _ _, disk, h, hI => ⟨hI disk rfl, fun fault =>
      (h fault).2.always fun disk' hsame => hI disk' (hsame.trans (h fault).1)⟩

theorem Always.crashAfter : ∀ (n : ℕ) {p : Prog P C E α} {disk : Disk P C}, p.Always I disk →
    ∀ faults : List (Option (Fault C E)), I (p.crashAfter n faults disk)
  | 0, _, _, h, _ => h.start
  | _ + 1, done _, _, h, _ => h
  | n + 1, call _ _, _, h, faults => (h.2 (faults.headD none)).crashAfter n faults.tail

end Prog

/-! ### The fate of single requests -/

section fates

variable {C E : Type}

/-- The machine does not stop before the request with this number. -/
def Reached (crash : Option ℕ) (i : ℕ) : Prop := ∀ n ∈ crash, i < n

/-- The request takes place and does not fail. -/
def Served (crash : Option ℕ) (faults : List (Option (Fault C E))) (i : ℕ) : Prop :=
  Reached crash i ∧ faults.getD i none = none

/-- The request takes place and fails. -/
def Failed (crash : Option ℕ) (faults : List (Option (Fault C E))) (i : ℕ) : Prop :=
  Reached crash i ∧ faults.getD i none ≠ none

variable {crash : Option ℕ} {faults : List (Option (Fault C E))} {i : ℕ}

theorem Reached.mono {j : ℕ} (h : Reached crash j) (hij : i ≤ j) : Reached crash i :=
  fun n hn => lt_of_le_of_lt hij (h n hn)

theorem Served.not_failed (h : Served crash faults i) : ¬ Failed crash faults i :=
  fun hfailed => hfailed.2 h.2

end fates

namespace Prog

variable {P C E α : Type} [DecidableEq P]

/-- The disk that is left, completed or stopped, when the program begins with request `n`. -/
def stop (crash : Option ℕ) (faults : List (Option (Fault C E))) (n : ℕ) (p : Prog P C E α)
    (disk : Disk P C) : Disk P C :=
  match crash with
  | none => (p.run (faults.drop n) disk).2
  | some k => p.crashAfter (k - n) (faults.drop n) disk

variable {crash : Option ℕ} {faults : List (Option (Fault C E))} {n : ℕ} {disk : Disk P C}

@[simp] theorem stop_done (a : α) : (done a : Prog P C E α).stop crash faults n disk = disk := by
  unfold stop
  cases crash with
  | none => rfl
  | some k => cases h : k - n <;> simp [h, crashAfter]

/-- A result that is only passed on makes no difference to the disk. -/
theorem stop_bind_done {β : Type} (g : α → β) (p : Prog P C E α) :
    (p.bind fun a => done (g a)).stop crash faults n disk = p.stop crash faults n disk := by
  cases crash with
  | none => exact congrArg Prod.snd (run_bind_done g p _ disk)
  | some k => exact crashAfter_bind_done g _ p _ disk

theorem Spares.stop {x : P} {p : Prog P C E α} (h : p.Spares x disk) :
    (p.stop crash faults n disk).lookup x = disk.lookup x := by
  cases crash with
  | none => exact post_run h.post _
  | some k => exact h.crashAfter _ _

theorem Always.stop {I : Disk P C → Prop} {p : Prog P C E α} (h : p.Always I disk) :
    I (p.stop crash faults n disk) := by
  cases crash with
  | none => exact post_run h.post _
  | some k => exact h.crashAfter _ _

theorem stop_of_not_reached (h : ¬ Reached crash n) (p : Prog P C E α) :
    p.stop crash faults n disk = disk := by
  simp only [Reached, not_forall, not_lt] at h
  obtain ⟨k, hk, hle⟩ := h
  rw [Option.mem_def.mp hk, stop, Nat.sub_eq_zero_of_le hle]
  rfl

theorem stop_call (h : Reached crash n) (r : Request P C)
    (next : Except (FileError E) r.Answer → Prog P C E α) :
    (call r next).stop crash faults n disk =
      (next (serve (faults.getD n none) disk r).1).stop crash faults (n + 1)
        (serve (faults.getD n none) disk r).2 := by
  have hhead : (faults.drop n).headD none = faults.getD n none := by
    rw [List.headD_eq_head?_getD, List.head?_drop, List.getD_eq_getElem?_getD]
  cases crash with
  | none => simp only [stop, run, hhead, List.tail_drop]
  | some k =>
      obtain ⟨m, hm⟩ : ∃ m, k - n = m + 1 := ⟨k - n - 1, by have := h k rfl; omega⟩
      have hrest : k - (n + 1) = m := by omega
      simp only [stop, hm, crashAfter, hhead, List.tail_drop, hrest]

end Prog

end AcceleratorFabric.FaultyDisk
