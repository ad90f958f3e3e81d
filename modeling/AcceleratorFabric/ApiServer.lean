import Mathlib.Data.List.Basic
import Mathlib.Order.Basic
import Mathlib.Tactic.Common

/-! # One object behind an API server

Clients share the object of one name.  The server gives every content it stores a version of its
own and refuses an update that was prepared from another version than the stored one.

A client is a tree of requests (`Prog`).  In front of each of them other clients get a turn, and
the answer may be lost on the way, with or without the request carried out (`Turn`).  `run`
collects what the client's own requests did to the object (`Effect`).  `Post Q` says that `Q`
holds of result, slot and effects in every such environment, and `Known v a` that version `v` is
the content `a`, which no request can change: what a client has read under a version is what an
update of that version replaces.  `Retries` says what a client does that repeats itself after
conflicts. -/

namespace AcceleratorFabric.ApiServer

variable {A E α β : Type}

/-! ### The server -/

/-- The object with its version, if there is one; no version above `revision` was given yet. -/
structure Slot (A : Type) where
  revision : ℕ
  stored : Option (ℕ × A)
  bounded : ∀ p ∈ stored, p.1 ≤ revision

namespace Slot

/-- Nothing was ever stored. -/
def empty : Slot A := ⟨0, none, by simp⟩

def put (s : Slot A) (a : A) : Slot A :=
  ⟨s.revision + 1, some (s.revision + 1, a), by simp⟩

def clear (s : Slot A) : Slot A := ⟨s.revision, none, by simp⟩

end Slot

inductive ApiError (E : Type) where
  | notFound
  | alreadyExists
  | conflict
  | invalid (error : E)
  | unavailable
deriving DecidableEq, Repr

/-- The requests on the object.  What an update stores depends on the stored content as well,
since some of its fields may be fixed or written elsewhere. -/
inductive Request (A E : Type) where
  | get
  | create (object : A)
  | update (version : ℕ) (change : A → Except E A)
  | delete

/-- What a request did to the stored object. -/
inductive Effect (A : Type) where
  | created (object : A)
  | updated (old new : A)
  | deleted (old : A)
deriving DecidableEq, Repr

structure Served (A E : Type) where
  answer : Except (ApiError E) (ℕ × A)
  slot : Slot A
  effects : List (Effect A)

def serve (s : Slot A) : Request A E → Served A E
  | .get =>
      match s.stored with
      | none => ⟨.error .notFound, s, []⟩
      | some current => ⟨.ok current, s, []⟩
  | .create object =>
      match s.stored with
      | none => ⟨.ok (s.revision + 1, object), s.put object, [.created object]⟩
      | some _ => ⟨.error .alreadyExists, s, []⟩
  | .update version change =>
      match s.stored with
      | none => ⟨.error .notFound, s, []⟩
      | some (current, old) =>
          if current ≠ version then ⟨.error .conflict, s, []⟩
          else match change old with
            | .error e => ⟨.error (.invalid e), s, []⟩
            | .ok new => ⟨.ok (s.revision + 1, new), s.put new, [.updated old new]⟩
  | .delete =>
      match s.stored with
      | none => ⟨.error .notFound, s, []⟩
      | some (current, old) => ⟨.ok (current, old), s.clear, [.deleted old]⟩

/-- What a request can do to a slot, with its effects. -/
inductive Carried (s : Slot A) : Request A E → Slot A → List (Effect A) → Prop where
  | nothing (r : Request A E) : Carried s r s []
  | created {object : A} (free : s.stored = none) :
      Carried s (.create object) (s.put object) [.created object]
  | updated {version : ℕ} {change : A → Except E A} {old new : A}
      (current : s.stored = some (version, old)) (changed : change old = .ok new) :
      Carried s (.update version change) (s.put new) [.updated old new]
  | deleted {p : ℕ × A} (current : s.stored = some p) :
      Carried s .delete s.clear [.deleted p.2]

theorem carried_serve (s : Slot A) (r : Request A E) :
    Carried s r (serve s r).slot (serve s r).effects := by
  cases r with
  | get => simp only [serve]; split <;> exact .nothing _
  | create object =>
      simp only [serve]
      split
      · exact .created (by assumption)
      · exact .nothing _
  | update version change =>
      simp only [serve]
      split
      · exact .nothing _
      · rename_i current old hstored
        split_ifs with hne
        · exact .nothing _
        · obtain rfl := not_not.mp hne
          split
          · exact .nothing _
          · exact .updated hstored (by assumption)
  | delete =>
      simp only [serve]
      split
      · exact .nothing _
      · exact .deleted (by assumption)

/-- The requests of other clients, one after the other. -/
def serveAll (s : Slot A) (requests : List (Request A E)) : Slot A :=
  requests.foldl (fun s r => (serve s r).slot) s

/-- What comes before a request of the client, and whether its answer is lost; a request whose
answer is lost may have been carried out. -/
structure Turn (A E : Type) where
  before : List (Request A E)
  lost : Option Bool

/-- Nobody else is there. -/
def quiet : Turn A E := ⟨[], none⟩

def take (turn : Turn A E) (s : Slot A) (r : Request A E) : Served A E :=
  match turn.lost with
  | none => serve (serveAll s turn.before) r
  | some true => { serve (serveAll s turn.before) r with answer := .error .unavailable }
  | some false => ⟨.error .unavailable, serveAll s turn.before, []⟩

theorem take_quiet (s : Slot A) (r : Request A E) : take quiet s r = serve s r := rfl

/-- A request does what it can do to the slot that it finds, whether its answer is lost or not. -/
theorem carried_take (turn : Turn A E) (s : Slot A) (r : Request A E) :
    Carried (serveAll s turn.before) r (take turn s r).slot (take turn s r).effects := by
  unfold take
  split
  · exact carried_serve _ r
  · exact carried_serve _ r
  · exact .nothing r

/-- An answer that arrives is the server's. -/
theorem serve_of_take_ok {turn : Turn A E} {s : Slot A} {r : Request A E} {p : ℕ × A}
    (h : (take turn s r).answer = .ok p) :
    turn.lost = none ∧ take turn s r = serve (serveAll s turn.before) r := by
  unfold take at h ⊢
  split at h
  · rename_i hlost
    exact ⟨hlost, rfl⟩
  · cases h
  · cases h

/-! ### Versions -/

/-- The version is the content, now and forever. -/
def Known (v : ℕ) (a : A) (s : Slot A) : Prop :=
  v ≤ s.revision ∧ ∀ b, s.stored = some (v, b) → b = a

theorem Known.put {v : ℕ} {a : A} {s : Slot A} (h : Known v a s) (b : A) : Known v a (s.put b) := by
  refine ⟨Nat.le_succ_of_le h.1, ?_⟩
  intro c hc
  -- the new version is above every earlier one
  have hv : s.revision + 1 = v := congrArg Prod.fst (Option.some.inj hc)
  have := h.1
  omega

theorem Known.clear {v : ℕ} {a : A} {s : Slot A} (h : Known v a s) : Known v a s.clear :=
  ⟨h.1, fun _ hb => by cases hb⟩

theorem Known.carried {v : ℕ} {a : A} {s s' : Slot A} {r : Request A E} {effects : List (Effect A)}
    (h : Known v a s) (hcarried : Carried s r s' effects) : Known v a s' := by
  cases hcarried with
  | nothing => exact h
  | created _ => exact h.put _
  | updated _ _ => exact h.put _
  | deleted _ => exact h.clear

theorem Known.serveAll {v : ℕ} {a : A} : ∀ {s : Slot A} (rs : List (Request A E)),
    Known v a s → Known v a (serveAll s rs)
  | _, [], h => h
  | _, r :: rs, h => Known.serveAll rs (h.carried (carried_serve _ r))

theorem known_of_stored {v : ℕ} {a : A} {s : Slot A} (h : s.stored = some (v, a)) :
    Known v a s := by
  refine ⟨s.bounded (v, a) h, ?_⟩
  intro b hb
  rw [h] at hb
  exact (congrArg Prod.snd (Option.some.inj hb)).symm

theorem stored_of_get {s : Slot A} {p : ℕ × A}
    (h : (serve s (.get : Request A E)).answer = .ok p) : s.stored = some p := by
  simp only [serve] at h
  split at h
  · cases h
  · rename_i hstored
    rw [hstored, Except.ok.inj h]

/-- What was read is known. -/
theorem known_of_get {turn : Turn A E} {s : Slot A} {v : ℕ} {a : A}
    (h : (take turn s .get).answer = .ok (v, a)) : Known v a (take turn s .get).slot := by
  have hserve := (serve_of_take_ok h).2
  rw [hserve] at h ⊢
  exact (known_of_stored (stored_of_get h)).carried (carried_serve _ _)

/-! ### What is stored after a success -/

theorem stored_after_get {turn : Turn A E} {s : Slot A} {p : ℕ × A}
    (h : (take turn s .get).answer = .ok p) : (take turn s .get).slot.stored = some p := by
  have hserve := (serve_of_take_ok h).2
  rw [hserve] at h ⊢
  have hstored := stored_of_get h
  simp only [serve, hstored]

theorem stored_after_not_found {turn : Turn A E} {s : Slot A}
    (h : (take turn s .get).answer = .error .notFound) : (take turn s .get).slot.stored = none := by
  unfold take at h ⊢
  split at h
  · simp only [serve] at h ⊢
    split at h
    · assumption
    · cases h
  · cases h
  · cases h

theorem stored_after_create {s : Slot A} {object : A} {p : ℕ × A}
    (h : (serve s (.create object : Request A E)).answer = .ok p) :
    (serve s (.create object : Request A E)).slot.stored = some p ∧ p.2 = object := by
  simp only [serve] at h ⊢
  split at h
  · cases h
    exact ⟨rfl, rfl⟩
  · cases h

theorem stored_after_update {v : ℕ} {s : Slot A} {change : A → Except E A} {p : ℕ × A}
    (h : (serve s (.update v change)).answer = .ok p) :
    (serve s (.update v change)).slot.stored = some p ∧ ∃ old, change old = .ok p.2 := by
  simp only [serve] at h ⊢
  split at h
  · cases h
  · next current old hstored =>
      split_ifs at h ⊢
      split at h
      · cases h
      · next hchange =>
          cases h
          exact ⟨rfl, old, hchange⟩

theorem stored_after_delete {s : Slot A} {p : ℕ × A}
    (h : (serve s (.delete : Request A E)).answer = .ok p) :
    (serve s (.delete : Request A E)).slot.stored = none := by
  simp only [serve] at h ⊢
  split at h
  · cases h
  · rfl

/-- The version was replaced or deleted, and will not be stored again. -/
def Gone (v : ℕ) (s : Slot A) : Prop := v ≤ s.revision ∧ ∀ p, s.stored = some p → p.1 ≠ v

theorem gone_put {v : ℕ} {s : Slot A} (h : v ≤ s.revision) (a : A) : Gone v (s.put a) := by
  refine ⟨Nat.le_succ_of_le h, fun p hp => ?_⟩
  have hv : s.revision + 1 = p.1 := congrArg Prod.fst (Option.some.inj hp)
  omega

theorem Gone.carried {v : ℕ} {s s' : Slot A} {r : Request A E} {effects : List (Effect A)}
    (h : Gone v s) (hcarried : Carried s r s' effects) : Gone v s' := by
  cases hcarried with
  | nothing => exact h
  | created _ => exact gone_put h.1 _
  | updated _ _ => exact gone_put h.1 _
  | deleted _ => exact ⟨h.1, fun _ hp => by cases hp⟩

/-- What an update replaces is gone. -/
theorem gone_of_update {v : ℕ} {s : Slot A} {change : A → Except E A} {p : ℕ × A}
    (h : (serve s (.update v change)).answer = .ok p) :
    Gone v (serve s (.update v change)).slot := by
  simp only [serve] at h ⊢
  split at h
  · cases h
  · next current old hstored =>
      split_ifs at h ⊢ with hne
      split at h
      · cases h
      · next hchange =>
          rw [not_not.mp hne] at hstored
          exact gone_put (s.bounded _ hstored) _

/-! ### Past versions -/

/-- The versions so far, with what is stored now. -/
def record (past : List (ℕ × A)) (s : Slot A) : List (ℕ × A) := s.stored.toList ++ past

/-- The list holds every version there was, and all their contents satisfy `P`. -/
structure Records (P : A → Prop) (past : List (ℕ × A)) (s : Slot A) : Prop where
  known : ∀ p ∈ past, Known p.1 p.2 s
  holds : ∀ p ∈ past, P p.2
  current : ∀ p, s.stored = some p → p ∈ past

theorem records_empty (P : A → Prop) : Records P [] Slot.empty :=
  ⟨by simp, by simp, fun _ h => by cases h⟩

theorem Records.stored {P : A → Prop} {past : List (ℕ × A)} {s : Slot A} (h : Records P past s)
    {p : ℕ × A} (hp : s.stored = some p) : P p.2 :=
  h.holds p (h.current p hp)

theorem Records.same {P : A → Prop} {past : List (ℕ × A)} {s : Slot A} (h : Records P past s) :
    Records P (record past s) s := by
  have hmem : ∀ p ∈ record past s, p ∈ past := by
    intro p hp
    rcases List.mem_append.mp hp with hp | hp
    · exact h.current p (Option.mem_toList.mp hp)
    · exact hp
  refine ⟨fun p hp => h.known p (hmem p hp), fun p hp => h.holds p (hmem p hp), ?_⟩
  intro p hp
  exact List.mem_append_right _ (h.current p hp)

theorem Records.put {P : A → Prop} {past : List (ℕ × A)} {s : Slot A} (h : Records P past s)
    {a : A} (ha : P a) : Records P (record past (s.put a)) (s.put a) := by
  refine ⟨?_, ?_, ?_⟩
  · intro p hp
    rcases List.mem_append.mp hp with hp | hp
    · exact known_of_stored (Option.mem_toList.mp hp)
    · exact (h.known p hp).put a
  · intro p hp
    rcases List.mem_append.mp hp with hp | hp
    · cases Option.mem_toList.mp hp
      exact ha
    · exact h.holds p hp
  · intro p hp
    exact List.mem_append_left _ (Option.mem_toList.mpr hp)

theorem Records.clear {P : A → Prop} {past : List (ℕ × A)} {s : Slot A} (h : Records P past s) :
    Records P (record past s.clear) s.clear :=
  ⟨fun p hp => (h.known p hp).clear, h.holds, fun _ hp => by cases hp⟩

/-- The rule of requests: `P` holds of what is created, and updates of the stored object keep
it. -/
theorem Records.carried {P : A → Prop} {past : List (ℕ × A)} {s s' : Slot A} {r : Request A E}
    {effects : List (Effect A)} (h : Records P past s) (hcarried : Carried s r s' effects)
    (hcreate : ∀ object, r = .create object → P object)
    (hupdate : ∀ version change old new, r = .update version change →
      s.stored = some (version, old) → change old = .ok new → P new) :
    Records P (record past s') s' := by
  cases hcarried with
  | nothing => exact h.same
  | created _ => exact h.put (hcreate _ rfl)
  | updated hcurrent hchanged => exact h.put (hupdate _ _ _ _ rfl hcurrent hchanged)
  | deleted _ => exact h.clear

theorem Records.imp {P Q : A → Prop} {past : List (ℕ × A)} {s : Slot A} (h : Records P past s)
    (hPQ : ∀ a, P a → Q a) : Records Q past s :=
  ⟨h.known, fun p hp => hPQ p.2 (h.holds p hp), h.current⟩

/-- The request stores nothing but contents that satisfy `P`. -/
def Keeps (P : A → Prop) : Request A E → Prop
  | .create object => P object
  | .update _ change => ∀ old new, P old → change old = .ok new → P new
  | _ => True

theorem Records.keeps {P : A → Prop} {past : List (ℕ × A)} {s s' : Slot A} {r : Request A E}
    {effects : List (Effect A)} (h : Records P past s) (hcarried : Carried s r s' effects)
    (hr : Keeps P r) : Records P (record past s') s' := by
  refine h.carried hcarried ?_ ?_
  · rintro object rfl
    exact hr
  · rintro version change old new rfl hold hnew
    exact hr old new (h.stored hold) hnew

/-- A client is only given contents that satisfy `P`. -/
theorem Records.answer {P : A → Prop} {past : List (ℕ × A)} {s : Slot A} {r : Request A E}
    (h : Records P past s) (hr : Keeps P r) {p : ℕ × A} (hp : (serve s r).answer = .ok p) :
    P p.2 := by
  cases r with
  | get => exact h.stored (stored_of_get hp)
  | create object =>
      rw [(stored_after_create hp).2]
      exact hr
  | update version change =>
      simp only [serve] at hp
      split at hp
      · cases hp
      · next current old hold =>
          split_ifs at hp
          split at hp
          · cases hp
          · next new hnew =>
              cases hp
              exact hr old new (h.stored hold) hnew
  | delete =>
      simp only [serve] at hp
      split at hp
      · cases hp
      · next current old hold =>
          cases hp
          exact h.stored hold

/-! ### Growing contents -/

section growth

variable {K : Type} [Preorder K] {key : A → K} {past : List (ℕ × A)} {s s' : Slot A}

/-- A later version is not below an earlier one, and the latest one is stored. -/
structure Grows (key : A → K) (past : List (ℕ × A)) (s : Slot A) : Prop where
  bounded : ∀ p ∈ past, p.1 ≤ s.revision
  ordered : ∀ p ∈ past, ∀ q ∈ past, p.1 ≤ q.1 → key p.2 ≤ key q.2
  latest : ∀ p ∈ past, ∃ q ∈ past, s.stored = some q ∧ p.1 ≤ q.1
  current : ∀ p, s.stored = some p → p ∈ past

theorem grows_empty (key : A → K) : Grows key [] Slot.empty :=
  ⟨by simp, by simp, by simp, fun _ h => by cases h⟩

theorem Grows.same (h : Grows key past s) : Grows key (record past s) s := by
  have hmem : ∀ p ∈ record past s, p ∈ past := by
    intro p hp
    rcases List.mem_append.mp hp with hp | hp
    · exact h.current p (Option.mem_toList.mp hp)
    · exact hp
  refine ⟨fun p hp => h.bounded p (hmem p hp),
    fun p hp q hq => h.ordered p (hmem p hp) q (hmem q hq), fun p hp => ?_,
    fun p hp => List.mem_append_right _ (h.current p hp)⟩
  obtain ⟨q, hq, hstored, hle⟩ := h.latest p (hmem p hp)
  exact ⟨q, List.mem_append_right _ hq, hstored, hle⟩

theorem Grows.put (h : Grows key past s) {a : A} (ha : ∀ p, s.stored = some p → key p.2 ≤ key a) :
    Grows key (record past (s.put a)) (s.put a) := by
  have hcases : ∀ p ∈ record past (s.put a), p = (s.revision + 1, a) ∨ p ∈ past := by
    intro p hp
    rcases List.mem_append.mp hp with hp | hp
    · exact .inl (Option.some.inj (Option.mem_toList.mp hp)).symm
    · exact .inr hp
  have hbelow : ∀ p ∈ past, key p.2 ≤ key a := by
    intro p hp
    obtain ⟨q, hq, hstored, hle⟩ := h.latest p hp
    exact (h.ordered p hp q hq hle).trans (ha q hstored)
  have hnew : (s.revision + 1, a) ∈ record past (s.put a) :=
    List.mem_append_left _ (Option.mem_toList.mpr rfl)
  refine ⟨?_, ?_, ?_, ?_⟩
  · intro p hp
    rcases hcases p hp with rfl | hp
    · exact Nat.le_refl _
    · exact Nat.le_succ_of_le (h.bounded p hp)
  · intro p hp q hq hle
    rcases hcases p hp with rfl | hp
    · rcases hcases q hq with rfl | hq
      · exact le_rfl
      · -- no earlier version is above the new one
        have hbound := h.bounded q hq
        simp only at hle
        omega
    · rcases hcases q hq with rfl | hq
      · exact hbelow p hp
      · exact h.ordered p hp q hq hle
  · intro p hp
    refine ⟨_, hnew, rfl, ?_⟩
    rcases hcases p hp with rfl | hp
    · exact Nat.le_refl _
    · exact Nat.le_succ_of_le (h.bounded p hp)
  · intro p hp
    rw [← Option.some.inj hp]
    exact hnew

/-- The request does not delete, and does not let the contents shrink. -/
def Raises (key : A → K) : Request A E → Prop
  | .update _ change => ∀ old new, change old = .ok new → key old ≤ key new
  | .delete => False
  | _ => True

theorem Grows.carried {r : Request A E} {effects : List (Effect A)} (h : Grows key past s)
    (hcarried : Carried s r s' effects) (hr : Raises key r) : Grows key (record past s') s' := by
  cases hcarried with
  | nothing => exact h.same
  | created hfree =>
      refine h.put fun p hp => ?_
      rw [hfree] at hp
      cases hp
  | updated hcurrent hchanged =>
      refine h.put fun p hp => ?_
      rw [hcurrent] at hp
      cases hp
      exact hr _ _ hchanged
  | deleted _ => exact hr.elim

end growth

/-! ### Effects -/

theorem effects_get (turn : Turn A E) (s : Slot A) : (take turn s .get).effects = [] := by
  have hcarried := carried_take turn s (.get : Request A E)
  generalize (take turn s .get).slot = s', (take turn s .get).effects = effects at hcarried ⊢
  cases hcarried
  rfl

/-- A creation finds the name free. -/
theorem effects_create (turn : Turn A E) (s : Slot A) (object : A) :
    (take turn s (.create object)).effects = [] ∨
      (serveAll s turn.before).stored = none ∧
        (take turn s (.create object)).effects = [.created object] := by
  have hcarried := carried_take turn s (.create object : Request A E)
  generalize (take turn s (.create object)).slot = s',
    (take turn s (.create object)).effects = effects at hcarried ⊢
  cases hcarried with
  | nothing => exact .inl rfl
  | created hfree => exact .inr ⟨hfree, rfl⟩

/-- An update acts on what the client read under the version. -/
theorem effects_update {v : ℕ} {a : A} {s : Slot A} (h : Known v a s) (turn : Turn A E)
    (change : A → Except E A) :
    (take turn s (.update v change)).effects = [] ∨
      ∃ new, (serveAll s turn.before).stored = some (v, a) ∧ change a = .ok new ∧
        (take turn s (.update v change)).effects = [.updated a new] := by
  have hcarried := carried_take turn s (.update v change)
  generalize (take turn s (.update v change)).slot = s',
    (take turn s (.update v change)).effects = effects at hcarried ⊢
  cases hcarried with
  | nothing => exact .inl rfl
  | updated hcurrent hchanged =>
      obtain rfl := (h.serveAll turn.before).2 _ hcurrent
      exact .inr ⟨_, hcurrent, hchanged, rfl⟩

/-- A deletion acts on whatever is stored. -/
theorem effects_delete (turn : Turn A E) (s : Slot A) :
    (take turn s .delete).effects = if turn.lost = some false then [] else
      ((serveAll s turn.before).stored.map fun p => Effect.deleted p.2).toList := by
  unfold take
  split
  · rename_i hlost
    rw [if_neg (by simp [hlost])]
    simp only [serve]
    split <;> rename_i hstored <;> rw [hstored] <;> rfl
  · rename_i hlost
    rw [if_neg (by simp [hlost])]
    simp only [serve]
    split <;> rename_i hstored <;> rw [hstored] <;> rfl
  · rename_i hlost
    rw [if_pos hlost]

/-- A request that writes has an effect and no conflict, or no effect and an error. -/
theorem take_write_cases (turn : Turn A E) (s : Slot A) {r : Request A E} (hr : r ≠ .get) :
    ((take turn s r).effects = [] ∧ ∃ e, (take turn s r).answer = .error e) ∨
      ((take turn s r).effects ≠ [] ∧ (take turn s r).answer ≠ .error .conflict) := by
  have hserve : ∀ s' : Slot A, ((serve s' r).effects = [] ∧ ∃ e, (serve s' r).answer = .error e) ∨
      ((serve s' r).effects ≠ [] ∧ ∃ p, (serve s' r).answer = .ok p) := by
    intro s'
    cases r with
    | get => exact absurd rfl hr
    | create object => simp only [serve]; split <;> simp
    | update version change =>
        simp only [serve]
        split
        · simp
        · split_ifs
          · simp
          · split <;> simp
    | delete => simp only [serve]; split <;> simp
  unfold take
  split
  · rcases hserve (serveAll s turn.before) with h | ⟨heffects, p, hp⟩
    · exact .inl h
    · exact .inr ⟨heffects, by rw [hp]; simp⟩
  · rcases hserve (serveAll s turn.before) with h | ⟨heffects, _⟩
    · exact .inl ⟨h.1, _, rfl⟩
    · exact .inr ⟨heffects, by simp⟩
  · exact .inl ⟨rfl, _, rfl⟩

/-! ### Clients -/

/-- A client that returns an `α`. -/
inductive Prog (A E α : Type) where
  | done (result : α)
  | call (r : Request A E) (next : Except (ApiError E) (ℕ × A) → Prog A E α)

structure Outcome (A α : Type) where
  result : α
  slot : Slot A
  effects : List (Effect A)

namespace Prog

def bind : Prog A E α → (α → Prog A E β) → Prog A E β
  | done a, f => f a
  | call r next, f => call r (fun answer => (next answer).bind f)

/-- The client among others; when the turns are used up, it is alone. -/
def run : Prog A E α → List (Turn A E) → Slot A → Outcome A α
  | done a, _, s => ⟨a, s, []⟩
  | call r next, turns, s =>
      let served := take (turns.headD quiet) s r
      let rest := (next served.answer).run turns.tail served.slot
      { rest with effects := served.effects ++ rest.effects }

/-- `Q` holds of result, slot and effects, whatever others do and whichever answers are lost. -/
def Post (Q : α → Slot A → List (Effect A) → Prop) : Prog A E α → Slot A → Prop
  | done a, s => Q a s []
  | call r next, s => ∀ turn : Turn A E,
      (next (take turn s r).answer).Post
        (fun a s' effects => Q a s' ((take turn s r).effects ++ effects)) (take turn s r).slot

theorem post_run : ∀ {Q : α → Slot A → List (Effect A) → Prop} {p : Prog A E α} {s : Slot A},
    p.Post Q s → ∀ turns, Q (p.run turns s).result (p.run turns s).slot (p.run turns s).effects
  | _, done _, _, h, _ => h
  | _, call _ next, _, h, turns => post_run (p := next _) (h (turns.headD quiet)) turns.tail

theorem post_mono : ∀ {Q R : α → Slot A → List (Effect A) → Prop} {p : Prog A E α} {s : Slot A},
    (∀ a s' effects, Q a s' effects → R a s' effects) → p.Post Q s → p.Post R s
  | _, _, done _, _, hQR, h => hQR _ _ _ h
  | _, _, call _ next, _, hQR, h => fun turn =>
      post_mono (p := next _) (fun a s' _ => hQR a s' _) (h turn)

/-- The rule of sequences. -/
theorem post_bind : ∀ {Q : β → Slot A → List (Effect A) → Prop} {f : α → Prog A E β}
    {p : Prog A E α} {s : Slot A},
    p.Post (fun a s' effects => (f a).Post (fun b s'' more => Q b s'' (effects ++ more)) s') s →
      (p.bind f).Post Q s
  | _, _, done _, _, h => by simpa [Post, bind] using h
  | _, _, call _ next, _, h => fun turn =>
      post_bind (p := next _) (by simpa only [List.append_assoc] using h turn)

/-- Requests of others in front of the next one change nothing for the rest, and after the end
only what `Q` minds. -/
theorem Post.serve {Q : α → Slot A → List (Effect A) → Prop} {p : Prog A E α} {s : Slot A}
    (h : p.Post Q s) {r : Request A E}
    (hQ : ∀ a effects, Q a s effects → Q a (ApiServer.serve s r).slot effects) :
    p.Post Q (ApiServer.serve s r).slot := by
  cases p with
  | done a => exact hQ a [] h
  | call r' next => exact fun turn => h ⟨r :: turn.before, turn.lost⟩

/-- All requests of the client satisfy `R`, as long as it is given contents that satisfy `P`. -/
def Asks (P : A → Prop) (R : Request A E → Prop) : Prog A E α → Prop
  | done _ => True
  | call r next => R r ∧ ∀ answer, (∀ p, answer = .ok p → P p.2) → (next answer).Asks P R

theorem asks_bind {P : A → Prop} {R : Request A E → Prop} {f : α → Prog A E β}
    (hf : ∀ a, (f a).Asks P R) : ∀ {p : Prog A E α}, p.Asks P R → (p.bind f).Asks P R
  | done a, _ => hf a
  | call _ _, h => ⟨h.1, fun answer hanswer => asks_bind hf (h.2 answer hanswer)⟩

end Prog

/-! ### Last requests -/

/-- A request whose error, wrapped, is the result. -/
def finish {X : Type} (wrap : ApiError E → X) (r : Request A E) : Prog A E (Except X Unit) :=
  .call r fun answer => .done ((answer.mapError wrap).map fun _ => ())

theorem run_finish {X : Type} (wrap : ApiError E → X) (r : Request A E) (turns : List (Turn A E))
    (s : Slot A) : (finish wrap r).run turns s =
      ⟨((take (turns.headD quiet) s r).answer.mapError wrap).map fun _ => (),
        (take (turns.headD quiet) s r).slot, (take (turns.headD quiet) s r).effects⟩ := by
  simp only [finish, Prog.run, List.append_nil]

theorem Prog.bind_done : ∀ p : Prog A E α, p.bind .done = p
  | done _ => rfl
  | call r next => congrArg (call r) (funext fun answer => (next answer).bind_done)

theorem Prog.run_bind_nil (f : α → Prog A E β) : ∀ (p : Prog A E α) (s : Slot A),
    (p.bind f).run [] s = ⟨((f (p.run [] s).result).run [] (p.run [] s).slot).result,
      ((f (p.run [] s).result).run [] (p.run [] s).slot).slot,
      (p.run [] s).effects ++ ((f (p.run [] s).result).run [] (p.run [] s).slot).effects⟩
  | done _, _ => rfl
  | call _ next, _ => by
      simp only [Prog.bind, Prog.run, List.tail_nil, run_bind_nil f (next _), List.append_assoc]

/-! ### Retries

How often a client tries again, and what it makes of the result of its last attempt, is up to the
library that runs the attempts.  Its documentation says that it returns nil for a success, that it
tries again after a conflict, and that it returns an error when it gives up or the attempt fails
otherwise. -/

/-- The attempts from number `n` on, each of them after a conflict of the one before.  The result
`a` of the last one is returned as some `b` with `Returns a b`. -/
inductive Retries (isConflict : α → Bool) (attempt : ℕ → Prog A E α) (Returns : α → α → Prop) :
    ℕ → Prog A E α → Prop where
  | intro {n : ℕ} {next : α → Prog A E α} (again : α → Bool)
      (conflict : ∀ a, again a = true → isConflict a = true)
      (retries : ∀ a, again a = true → Retries isConflict attempt Returns (n + 1) (next a))
      (returns : ∀ a, again a = false → ∃ b, Returns a b ∧ next a = .done b) :
      Retries isConflict attempt Returns n ((attempt n).bind next)

section retries

variable {isConflict : α → Bool} {attempt : ℕ → Prog A E α} {Returns : α → α → Prop} {n : ℕ}
  {p : Prog A E α}

theorem Retries.mono {Returns' : α → α → Prop} (h : Retries isConflict attempt Returns n p)
    (hreturns : ∀ a b, Returns a b → Returns' a b) : Retries isConflict attempt Returns' n p := by
  induction h with
  | intro again conflict _ returns ih =>
      refine .intro again conflict ih fun a ha => ?_
      obtain ⟨b, hb, hnext⟩ := returns a ha
      exact ⟨b, hreturns a b hb, hnext⟩

/-- What every attempt ensures from every slot, the retried attempt ensures of what it returns, if
a conflict leaves nothing behind that would spoil it. -/
theorem Retries.post {Q R : α → Slot A → List (Effect A) → Prop}
    (h : Retries isConflict attempt Returns n p) (hattempt : ∀ n s, (attempt n).Post Q s)
    (hreturns : ∀ a b s effects, Returns a b → Q a s effects → R b s effects)
    (happend : ∀ a s effects b s' more, isConflict a = true → Q a s effects → R b s' more →
      R b s' (effects ++ more)) :
    ∀ s : Slot A, p.Post R s := by
  induction h with
  | @intro n next again conflict _ returns ih =>
      intro s
      refine Prog.post_bind (Prog.post_mono ?_ (hattempt n s))
      intro a s' effects hQ
      cases hagain : again a with
      | true =>
          refine Prog.post_mono ?_ (ih a hagain s')
          intro b s'' more hmore
          exact happend a s' effects b s'' more (conflict a hagain) hQ hmore
      | false =>
          obtain ⟨b, hb, hnext⟩ := returns a hagain
          rw [hnext]
          simpa [Prog.Post] using hreturns a b s' effects hb hQ

theorem Retries.asks {P : A → Prop} {R : Request A E → Prop}
    (h : Retries isConflict attempt Returns n p) (hattempt : ∀ n, (attempt n).Asks P R) :
    p.Asks P R := by
  induction h with
  | @intro n next again _ _ returns ih =>
      refine Prog.asks_bind (fun a => ?_) (hattempt n)
      cases hagain : again a with
      | true => exact ih a hagain
      | false =>
          obtain ⟨b, _, hnext⟩ := returns a hagain
          rw [hnext]
          exact trivial

/-- Alone, an attempt without a conflict is the only one. -/
theorem Retries.slot_run_nil (h : Retries isConflict attempt Returns n p) {s : Slot A}
    (hconflict : isConflict ((attempt n).run [] s).result = false) :
    (p.run [] s).slot = ((attempt n).run [] s).slot := by
  cases h with
  | @intro _ next again conflict _ returns =>
      have hagain : again ((attempt n).run [] s).result = false := by
        cases htrue : again ((attempt n).run [] s).result with
        | false => rfl
        | true => exact (conflict _ htrue).symm.trans hconflict
      obtain ⟨b, _, hnext⟩ := returns _ hagain
      rw [Prog.run_bind_nil, hnext]
      rfl

end retries

/-- `retry.RetryOnConflict`, for attempts that are told their number. -/
class RetryLoop where
  retryOnConflict {A E X : Type} (isConflict : Except X Unit → Bool)
    (attempt : ℕ → Prog A E (Except X Unit)) : Prog A E (Except X Unit)

export RetryLoop (retryOnConflict)

/-- The loop makes attempts, and another one only after a conflict. -/
class RetriesConflicts [RetryLoop] : Prop where
  retries {A E X : Type} (isConflict : Except X Unit → Bool)
    (attempt : ℕ → Prog A E (Except X Unit)) :
    Retries isConflict attempt (fun _ _ => True) 0 (retryOnConflict isConflict attempt)

/-- What is returned for the last attempt: nil for a success, and for an error an error. -/
inductive Documented {X : Type} : Except X Unit → Except X Unit → Prop where
  | success : Documented (.ok ()) (.ok ())
  | failure (e e' : X) : Documented (.error e) (.error e')

/-- The loop as it is documented.  An error of a cancelled context is no exception here, while the
implementation may return nil for it. -/
class LawfulRetryLoop [RetryLoop] : Prop where
  documented {A E X : Type} (isConflict : Except X Unit → Bool)
    (attempt : ℕ → Prog A E (Except X Unit)) :
    Retries isConflict attempt Documented 0 (retryOnConflict isConflict attempt)

instance [RetryLoop] [LawfulRetryLoop] : RetriesConflicts where
  retries isConflict attempt :=
    (LawfulRetryLoop.documented isConflict attempt).mono fun _ _ _ => trivial

theorem documented_self {X : Type} (result : Except X Unit) : Documented result result := by
  cases result with
  | ok u => exact .success
  | error e => exact .failure e e

/-- At most `retries` attempts after the one with number `n`. -/
def retryUpTo (isConflict : α → Bool) (attempt : ℕ → Prog A E α) : ℕ → ℕ → Prog A E α
  | 0, n => attempt n
  | retries + 1, n => (attempt n).bind fun a =>
      if isConflict a then retryUpTo isConflict attempt retries (n + 1) else .done a

theorem retries_retryUpTo (isConflict : α → Bool) (attempt : ℕ → Prog A E α)
    {Returns : α → α → Prop} (hreturns : ∀ a, Returns a a) :
    ∀ retries n, Retries isConflict attempt Returns n (retryUpTo isConflict attempt retries n)
  | 0, n => by
      have hlast : Retries isConflict attempt Returns n ((attempt n).bind .done) :=
        .intro (fun _ => false) (by simp) (by simp) fun a _ => ⟨a, hreturns a, rfl⟩
      rwa [Prog.bind_done] at hlast
  | retries + 1, n => by
      refine .intro isConflict (fun _ h => h) (fun a ha => ?_) fun a ha => ⟨a, hreturns a, ?_⟩
      · rw [if_pos ha]
        exact retries_retryUpTo isConflict attempt hreturns retries (n + 1)
      · rw [if_neg (by simp [ha])]

/-- Five attempts, as `retry.DefaultRetry` allows. -/
@[reducible] def sampleRetry : RetryLoop where
  retryOnConflict isConflict attempt := retryUpTo isConflict attempt 4 0

instance : @LawfulRetryLoop sampleRetry :=
  @LawfulRetryLoop.mk sampleRetry fun isConflict attempt =>
    retries_retryUpTo isConflict attempt documented_self 4 0

end AcceleratorFabric.ApiServer
