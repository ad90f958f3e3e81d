import AcceleratorFabric.TopologyStore
import AcceleratorFabric.TopologySync

/-! # Heartbeats

The controller renews the heartbeat of a topology when it is thirty seconds old.  The scheduler's
cache gives up a topology whose heartbeat is older than its time to live.  An object keeps whole
seconds of a heartbeat only.

* `status_writes_bounded`: every write of the controller comes back to it as a change, and still
  it writes at most once in twenty-nine seconds for itself and once for each request of another
  client.
* `never_stale`: if the time to live is thirty seconds more than the time since a `sync`, the
  cache does not give the topology up. -/

namespace AcceleratorFabric.TopologyController

open AcceleratorFabric.Topology ApiServer Runs

def second : ℤ := 1000000000

section times

variable {t u d : ℤ}

theorem lt_of_sub_lt (hd : d < 2 ^ 63) (h : Time.sub t u < d) : t - u < d := by
  have h : max (-2 ^ 63) (min (2 ^ 63 - 1) (t - u)) < d := h
  omega

theorem sub_le_of_le (hd : 0 ≤ d) (h : t - u ≤ d) : Time.sub t u ≤ d := by
  show max (-2 ^ 63) (min (2 ^ 63 - 1) (t - u)) ≤ d
  omega

theorem le_of_le_sub (hd : 0 < d) (h : d ≤ Time.sub t u) : d ≤ t - u := by
  have h : d ≤ max (-2 ^ 63) (min (2 ^ 63 - 1) (t - u)) := h
  omega

theorem sub_self_time (t : ℤ) : Time.sub t t = 0 := by
  show max (-2 ^ 63) (min (2 ^ 63 - 1) (t - t)) = 0
  omega

/-- What an object keeps of a time is less than a second earlier. -/
theorem encodeTime_eq (ht : second ≤ t) :
    ∃ h : ℤ, encodeTime t = some h ∧ second ≤ h ∧ t < h + second := by
  have ht : (1000000000 : ℤ) ≤ t := ht
  have hne : t ≠ 0 := by omega
  refine ⟨t - t % 1000000000, if_neg hne, ?_, ?_⟩
  · show (1000000000 : ℤ) ≤ t - t % 1000000000
    omega
  · show t < t - t % 1000000000 + 1000000000
    omega

end times

section heartbeats

variable [Kube] {E : Type}

/-! ### What happens to the status -/

/-- The object with the report of a `sync`. -/
def withReport (object : AcceleratorTopology) (now : Time) : AcceleratorTopology :=
  { object with status :=
    { reported object now with lastHeartbeatTime := encodeTime now } }

/-- A `sync` changes nothing, or replaces the version that it has judged. -/
theorem served_sync {P : AcceleratorTopology → Prop} {w : World} (h : Records P w.past w.slot)
    {version : ℕ × AcceleratorTopology} (hversion : version ∈ w.past) (now : Time)
    (lost : Option Bool) :
    served w (.sync version now lost : Event E) = w.slot ∨
      w.slot.stored = some version ∧ upToDate version.2 (verdict version.2) now = false ∧
        served w (.sync version now lost : Event E) = w.slot.put (withReport version.2 now) := by
  simp only [served, sync]
  split_ifs with hcurrent
  · exact .inl rfl
  · have hcarried := carried_take ⟨[], lost⟩ w.slot
      (.update version.1 (updateStatus (reported version.2 now)) : Request _ E)
    rw [run_finish]
    show (take ⟨[], lost⟩ w.slot _).slot = _ ∨ _ ∧ _ ∧ (take ⟨[], lost⟩ w.slot _).slot = _
    generalize (take ⟨[], lost⟩ w.slot (.update version.1 (updateStatus (reported version.2 now)) :
      Request _ E)).slot = slot, (take ⟨[], lost⟩ w.slot (.update version.1
        (updateStatus (reported version.2 now)) : Request _ E)).effects = effects at hcarried ⊢
    cases hcarried with
    | nothing => exact .inl rfl
    | updated hstored hchanged =>
        -- the version that is replaced is the one that was judged
        obtain rfl := (h.known version hversion).2 _ hstored
        cases hchanged
        exact .inr ⟨hstored, Bool.not_eq_true _ ▸ hcurrent, rfl⟩

/-- A request of another client leaves the status of the object, or makes a new object. -/
theorem status_request {w : World} {r : Request AcceleratorTopology E}
    (hpossible : Possible w (.request r : Event E)) {p : ℕ × AcceleratorTopology}
    (hp : (served w (.request r : Event E)).stored = some p) :
    p.2.status = ⟨[], none⟩ ∨ ∃ q, w.slot.stored = some q ∧ p.2.status = q.2.status := by
  have hcarried := carried_serve w.slot r
  simp only [served] at hp
  generalize (serve w.slot r).slot = slot, (serve w.slot r).effects = effects at hcarried hp
  cases hcarried with
  | nothing => exact .inr ⟨p, hp, rfl⟩
  | created _ =>
      cases hp
      exact .inl hpossible
  | updated hstored hchanged =>
      cases hp
      exact .inr ⟨_, hstored, (hpossible _ _ hchanged).1⟩
  | deleted _ => cases hp

/-! ### Ages -/

/-- The heartbeat is less than `d` before `t`. -/
def Beats (d t : ℤ) (s : Slot AcceleratorTopology) : Prop :=
  ∀ p h, s.stored = some p → p.2.status.lastHeartbeatTime = some h → t < h + d

theorem Beats.request {d t : ℤ} {w : World} (h : Beats d t w.slot)
    {r : Request AcceleratorTopology E} (hpossible : Possible w (.request r : Event E)) :
    Beats d t (served w (.request r : Event E)) := by
  intro p heartbeat hp hheartbeat
  rcases status_request hpossible hp with hnew | ⟨q, hq, hstatus⟩
  · rw [hnew] at hheartbeat
    cases hheartbeat
  · rw [hstatus] at hheartbeat
    exact h q heartbeat hq hheartbeat

theorem beats_put {d t now : ℤ} (hd : second ≤ d) (hnow : second ≤ now) (ht : t ≤ now)
    (s : Slot AcceleratorTopology) (object : AcceleratorTopology) :
    Beats d t (s.put (withReport object now)) := by
  intro p heartbeat hp hheartbeat
  obtain ⟨h, hencoded, _, hlt⟩ := encodeTime_eq hnow
  cases hp
  have heq : h = heartbeat := Option.some.inj (hencoded.symm.trans hheartbeat)
  omega

/-! ### The controller and its clock -/

/-- The world and the time of the last `sync`. -/
def timedStep (s : World × ℤ) : Event E → World × ℤ
  | .request r => (step s.1 (.request r : Event E), s.2)
  | .sync version now lost => (step s.1 (.sync version now lost : Event E), now)

/-- The clock of the controller does not go back. -/
def Timely (s : World × ℤ) : Event E → Prop
  | .request r => Possible s.1 (.request r : Event E)
  | .sync version now lost => Possible s.1 (.sync version now lost : Event E) ∧ s.2 ≤ now

def isRequest : Event E → Bool
  | .request _ => true
  | .sync _ _ _ => false

/-- The writes of a `sync`; each of them takes a new revision. -/
def reports (s : World × ℤ) : Event E → ℕ
  | .request _ => 0
  | .sync version now lost =>
      (served s.1 (.sync version now lost : Event E)).revision - s.1.slot.revision

theorem records_timedStep {s : World × ℤ} (e : Event E)
    (h : Records (fun _ => True) s.1.past s.1.slot) :
    Records (fun _ => True) (timedStep s e).1.past (timedStep s e).1.slot := by
  cases e with
  | request r =>
      exact h.carried (carried_serve s.1.slot r) (fun _ _ => trivial) fun _ _ _ _ _ _ _ => trivial
  | sync version now lost =>
      obtain ⟨effects, hcarried⟩ := carried_sync (E := E) version now lost s.1.slot
      exact h.carried hcarried (fun _ _ => trivial) fun _ _ _ _ _ _ _ => trivial

/-! ### A bound on the writes -/

/-- The time between two writes that no other client has caused. -/
def gap : ℤ := heartbeatInterval - second

/-- Only the age of the heartbeat can make a report necessary. -/
def Settled (s : Slot AcceleratorTopology) : Prop :=
  ∀ p, s.stored = some p → ∃ now, upToDate p.2 (verdict p.2) now = true

/-- A report that became necessary with time. -/
theorem age_of_outdated {object : AcceleratorTopology} {c : Condition} {now now' : ℤ}
    (h : upToDate object c now = true) (h' : upToDate object c now' = false) :
    ∃ heartbeat : ℤ, object.status.lastHeartbeatTime = some heartbeat ∧
      heartbeatInterval ≤ now' - heartbeat := by
  unfold upToDate at h h'
  split at h
  · next current heartbeat hcurrent hheartbeat =>
      obtain ⟨hstatus, hreason, hmessage, hgeneration, _⟩ := of_decide_eq_true h
      simp only [hcurrent, hheartbeat] at h'
      have hold : ¬ Time.sub now' heartbeat < heartbeatInterval := fun hlt =>
        of_decide_eq_false h' ⟨hstatus, hreason, hmessage, hgeneration, hlt⟩
      exact ⟨heartbeat, hheartbeat, le_of_le_sub (by decide) (not_lt.mp hold)⟩
  · cases h

theorem settled_put [LawfulKube] {now : ℤ} (hnow : second ≤ now) (s : Slot AcceleratorTopology)
    (object : AcceleratorTopology) : Settled (s.put (withReport object now)) := by
  intro p hp
  cases hp
  obtain ⟨h, hencoded, _⟩ := encodeTime_eq hnow
  have hfind : Kube.findStatusCondition (withReport object now).status.conditions "Ready" =
      some (verdict object) := by
    rw [← (verdict_eq object).1]
    exact LawfulKube.find_setStatusCondition object.status.conditions (verdict object)
  refine ⟨h, ?_⟩
  show upToDate (withReport object now) (verdict object) h = true
  have hheartbeat : (withReport object now).status.lastHeartbeatTime = some h := hencoded
  have hfresh : Time.sub h h < heartbeatInterval := by
    rw [sub_self_time]
    decide
  have hgeneration : (verdict object).observedGeneration = (withReport object now).generation :=
    (verdict_eq object).2.1
  simp [upToDate, hfind, hheartbeat, hgeneration, hfresh]

/-- The budget covers the time since the last write, and a write if it may become necessary
before. -/
structure Allowance (s : World × ℤ) (b : ℤ) : Prop where
  records : Records (fun _ => True) s.1.past s.1.slot
  started : second ≤ s.2
  covered : ∃ last ≤ s.2, Beats second last s.1.slot ∧
    (Settled s.1.slot ∧ s.2 - last ≤ b ∨ gap + (s.2 - last) ≤ b)

theorem Allowance.nonneg {s : World × ℤ} {b : ℤ} (h : Allowance s b) : 0 ≤ b := by
  obtain ⟨last, hlast, _, ⟨_, hle⟩ | hle⟩ := h.covered
  · omega
  · have : (0 : ℤ) ≤ gap := by decide
    omega

/-- A request of another client brings one write, a `sync` the time that has passed. -/
def income (s : World × ℤ) : Event E → ℤ
  | .request _ => gap
  | .sync _ now _ => now - s.2

/-- Time passes. -/
theorem Allowance.keep {w w' : World} {t now b : ℤ} (h : Allowance (w, t) b) (hnow : t ≤ now)
    (hrecords : Records (fun _ => True) w'.past w'.slot) (hslot : w'.slot = w.slot) :
    Allowance (w', now) (b + (now - t)) := by
  obtain ⟨last, hlast, hbeats, hcovered⟩ := h.covered
  have hlast : last ≤ t := hlast
  have hcovered : Settled w.slot ∧ t - last ≤ b ∨ gap + (t - last) ≤ b := hcovered
  refine ⟨hrecords, h.started.trans hnow, last, hlast.trans hnow, ?_, ?_⟩
  · show Beats second last w'.slot
    rw [hslot]
    exact hbeats
  · show Settled w'.slot ∧ now - last ≤ b + (now - t) ∨ gap + (now - last) ≤ b + (now - t)
    rw [hslot]
    exact hcovered.imp (fun hle => ⟨hle.1, by omega⟩) fun hle => by omega

/-- A report is written, and the time since the last one pays for it. -/
theorem Allowance.report [LawfulKube] {w w' : World} {t now b : ℤ} (h : Allowance (w, t) b)
    (hnow : t ≤ now) (hrecords : Records (fun _ => True) w'.past w'.slot)
    {version : ℕ × AcceleratorTopology} (hstored : w.slot.stored = some version)
    (houtdated : upToDate version.2 (verdict version.2) now = false)
    (hslot : w'.slot = w.slot.put (withReport version.2 now)) :
    Allowance (w', now) (b + (now - t) - gap) := by
  obtain ⟨last, hlast, hbeats, hcovered⟩ := h.covered
  have hlast : last ≤ t := hlast
  have hcovered : Settled w.slot ∧ t - last ≤ b ∨ gap + (t - last) ≤ b := hcovered
  have hstarted : second ≤ now := h.started.trans hnow
  have hpaid : gap ≤ b + (now - t) := by
    rcases hcovered with ⟨hsettled, hle⟩ | hle
    · -- the heartbeat had become too old
      obtain ⟨now', hcurrent⟩ := hsettled version hstored
      obtain ⟨heartbeat, hheartbeat, hage⟩ := age_of_outdated hcurrent houtdated
      have hlt := hbeats version heartbeat hstored hheartbeat
      have hgap : gap + second ≤ now - heartbeat := by
        rw [gap, sub_add_cancel]
        exact hage
      omega
    · omega
  refine ⟨hrecords, hstarted, now, le_rfl, ?_, .inl ⟨?_, ?_⟩⟩
  · show Beats second now w'.slot
    rw [hslot]
    exact beats_put le_rfl hstarted le_rfl _ _
  · show Settled w'.slot
    rw [hslot]
    exact settled_put hstarted _ _
  · show now - now ≤ b + (now - t) - gap
    omega

theorem Allowance.step [LawfulKube] {s : World × ℤ} {b : ℤ} (h : Allowance s b) (e : Event E)
    (htimely : Timely s e) :
    Allowance (timedStep s e) (b + income s e - gap * reports s e) := by
  have hrecords := records_timedStep e h.records
  cases e with
  | request r =>
      obtain ⟨last, hlast, hbeats, hcovered⟩ := h.covered
      refine ⟨hrecords, h.started, last, hlast, hbeats.request htimely, .inr ?_⟩
      show gap + (s.2 - last) ≤ b + gap - gap * (0 : ℕ)
      have : (0 : ℤ) ≤ gap := by decide
      rcases hcovered with ⟨_, hle⟩ | hle <;> omega
  | sync version now lost =>
      obtain ⟨hpossible, hnow⟩ := htimely
      rcases served_sync (E := E) h.records hpossible now lost with
        hsame | ⟨hstored, houtdated, hput⟩
      · have hreports : reports s (.sync version now lost : Event E) = 0 := by
          rw [reports, hsame, Nat.sub_self]
        rw [hreports, Nat.cast_zero, mul_zero, sub_zero]
        exact h.keep hnow hrecords hsame
      · have hreports : reports s (.sync version now lost : Event E) = 1 := by
          rw [reports, hput]
          exact Nat.add_sub_cancel_left ..
        rw [hreports, Nat.cast_one, mul_one]
        exact h.report hnow hrecords hstored houtdated hput

theorem total_income (events : List (Event E)) (s : World × ℤ) :
    total timedStep income s events =
      gap * (events.countP isRequest : ℕ) + ((run timedStep s events).2 - s.2) := by
  induction events generalizing s with
  | nil => simp [total, run]
  | cons e events ih =>
      rw [total, ih, List.countP_cons]
      cases e with
      | request r =>
          simp only [income, isRequest, timedStep, run, List.foldl_cons, if_true]
          push_cast
          ring
      | sync version now lost =>
          have helapsed : ∀ a b c d : ℤ, a - b + (c + (d - a)) = c + (d - b) := by
            intro a b c d
            ring
          exact helapsed now s.2 _ _

/-- **The controller does not keep itself busy.**  Every status it writes comes back to it as a
change of the object.  Whatever is written and synced, it writes no more statuses than one for
itself, one for each request of another client, and one for every twenty-nine seconds. -/
theorem status_writes_bounded [LawfulKube] (events : List (Event E)) (start : ℤ)
    (hstart : second ≤ start) (htimely : Along timedStep Timely (World.start, start) events) :
    gap * (total timedStep reports (World.start, start) events : ℕ) ≤
      gap * (1 + events.countP isRequest : ℕ) +
        ((run timedStep (World.start, start) events).2 - start) := by
  have hinitial : Allowance (World.start, start) gap := by
    refine ⟨records_empty _, hstart, start, le_rfl, ?_, .inr ?_⟩
    · intro p h hp
      cases hp
    · show gap + (start - start) ≤ gap
      omega
  have hle := total_le_of_budget Allowance income (fun s e => gap * reports s e)
    (fun _ _ h => h.nonneg) (fun _ _ e h hok => h.step e hok) events (World.start, start) gap
    hinitial htimely
  rw [total_mul, total_income] at hle
  push_cast
  linarith

/-! ### The age of what readers see -/

section readers

variable [LawfulKube]

/-- Where there is a Ready condition, there is a heartbeat. -/
def Alive (s : Slot AcceleratorTopology) : Prop :=
  ∀ p c, s.stored = some p → Kube.findStatusCondition p.2.status.conditions "Ready" = some c →
    ∃ h : ℤ, p.2.status.lastHeartbeatTime = some h ∧ second ≤ h

theorem Alive.request {w : World} (h : Alive w.slot) {r : Request AcceleratorTopology E}
    (hpossible : Possible w (.request r : Event E)) :
    Alive (served w (.request r : Event E)) := by
  intro p c hp hc
  rcases status_request hpossible hp with hnew | ⟨q, hq, hstatus⟩
  · rw [hnew, LawfulKube.findStatusCondition_eq] at hc
    cases hc
  · rw [hstatus] at hc ⊢
    exact h q c hq hc

omit [LawfulKube] in
theorem alive_put {now : ℤ} (hnow : second ≤ now) (s : Slot AcceleratorTopology)
    (object : AcceleratorTopology) : Alive (s.put (withReport object now)) := by
  intro p c hp _
  cases hp
  obtain ⟨h, hencoded, hle, _⟩ := encodeTime_eq hnow
  exact ⟨h, hencoded, hle⟩

omit [LawfulKube] in
/-- After a `sync` of the stored version the heartbeat is not old. -/
theorem beats_sync {w : World} {version : ℕ × AcceleratorTopology}
    (hstored : w.slot.stored = some version) {now : ℤ} (hnow : second ≤ now) :
    Beats heartbeatInterval now (served w (.sync version now none : Event E)) := by
  simp only [served, sync]
  split_ifs with hcurrent
  · intro p h hp hheartbeat
    obtain rfl := Option.some.inj (hstored.symm.trans hp)
    unfold upToDate at hcurrent
    split at hcurrent
    · next heartbeat _ hheartbeat' =>
        obtain rfl := Option.some.inj (hheartbeat'.symm.trans hheartbeat)
        have hage := lt_of_sub_lt (by decide) (of_decide_eq_true hcurrent).2.2.2.2
        exact sub_lt_iff_lt_add'.mp hage
    · cases hcurrent
  · have hslot : ((finish id (.update version.1 (updateStatus (reported version.2 now)) :
        Request _ E)).run [⟨[], none⟩] w.slot).slot = w.slot.put (withReport version.2 now) := by
      rw [run_finish]
      show (serve w.slot _).slot = _
      simp only [serve, hstored, ne_eq, not_true_eq_false, if_false]
      rfl
    rw [hslot]
    exact beats_put (by decide) hnow le_rfl _ _

/-- What holds of the topology after a `sync` at the time. -/
structure Lively (t : ℤ) (s : World × ℤ) : Prop where
  records : Records (fun _ => True) s.1.past s.1.slot
  started : second ≤ s.2
  le_clock : t ≤ s.2
  alive : Alive s.1.slot
  beats : Beats heartbeatInterval t s.1.slot

theorem Lively.step {t : ℤ} {s : World × ℤ} (h : Lively t s) (e : Event E) (htimely : Timely s e) :
    Lively t (timedStep s e) := by
  have hrecords := records_timedStep e h.records
  cases e with
  | request r =>
      exact ⟨hrecords, h.started, h.le_clock, h.alive.request htimely, h.beats.request htimely⟩
  | sync version now lost =>
      obtain ⟨hpossible, hnow⟩ := htimely
      have hstarted : second ≤ now := h.started.trans hnow
      have hle : t ≤ now := h.le_clock.trans hnow
      have hnext : Alive (served s.1 (.sync version now lost : Event E)) ∧
          Beats heartbeatInterval t (served s.1 (.sync version now lost : Event E)) := by
        rcases served_sync (E := E) h.records hpossible now lost with hsame | ⟨_, _, hput⟩
        · rw [hsame]
          exact ⟨h.alive, h.beats⟩
        · rw [hput]
          exact ⟨alive_put hstarted _ _, beats_put (by decide) hstarted hle _ _⟩
      exact ⟨hrecords, hstarted, hle, hnext.1, hnext.2⟩

/-- **The cache never gives up a topology that is synced in time.**  Take any run with a `sync` of
the then stored version, and a version that is stored at any time after it.  As long as the `sync`
is not longer ago than the time to live less thirty seconds, the cache reports that version Ready
if its Ready condition says so: it is never stale. -/
theorem never_stale (before after : List (Event E)) (start t : ℤ) (hstart : second ≤ start)
    (version p : ℕ × AcceleratorTopology)
    (hcurrent : (run timedStep (World.start, start) before).1.slot.stored = some version)
    (htimely : Along timedStep Timely (World.start, start)
      (before ++ .sync version t none :: after))
    (hp : (run timedStep (World.start, start)
      (before ++ .sync version t none :: after)).1.slot.stored = some p)
    (store : Store) (nodeName : String) (snapshot : Snapshot)
    (hentry : store.entries.lookup nodeName = some (resultOf p.2 snapshot)) (now ttl : ℤ)
    (hnow : now - t ≤ ttl - heartbeatInterval) :
    (store.get nodeName now ttl).availability = .ready ↔ readyForGeneration p.2 = true := by
  rw [along_append] at htimely
  obtain ⟨hbefore, hsync, hafter⟩ := htimely
  rw [run_append] at hp
  have hearlier : Lively start (run timedStep (World.start, start) before) := by
    refine invariant_run (Lively start) (fun s e h hok => h.step e hok) before _ ?_ hbefore
    refine ⟨records_empty _, hstart, le_rfl, ?_, ?_⟩ <;>
    · intro p _ hp
      cases hp
  have hsynced : Lively t (timedStep (run timedStep (World.start, start) before)
      (.sync version t none : Event E)) := by
    have hnext := hearlier.step _ hsync
    exact ⟨hnext.records, hnext.started, le_rfl, hnext.alive, beats_sync hcurrent hnext.started⟩
  have hlast := invariant_run (Lively t) (fun s e h hok => h.step e hok) after _ hsynced hafter
  rw [Store.get_of_lookup hentry]
  have havailable : (resultOf p.2 snapshot).availability = .ready ↔
      readyForGeneration p.2 = true := by
    simp only [resultOf]
    split_ifs with hready <;> simp [hready]
  rw [havailable]
  refine and_iff_left_of_imp fun hready => ?_
  obtain ⟨c, hc⟩ : ∃ c, Kube.findStatusCondition p.2.status.conditions "Ready" = some c := by
    unfold readyForGeneration at hready
    split at hready
    · cases hready
    · exact ⟨_, by assumption⟩
  obtain ⟨h, hheartbeat, hpos⟩ := hlast.alive p c hp hc
  have hage := hlast.beats p h hp hheartbeat
  have heq : (resultOf p.2 snapshot).lastHeartbeatTime = h := by
    simp [resultOf, hheartbeat]
  rw [heq]
  refine ⟨?_, fun hstale => ?_⟩
  · rintro rfl
    exact absurd hpos (by decide)
  · have hle : now - h ≤ ttl := by
      have hsum : now - h = (now - t) + (t - h) := by ring
      have hlt : t - h < heartbeatInterval := sub_lt_iff_lt_add'.mpr hage
      rw [hsum]
      linarith
    exact absurd (sub_le_of_le hstale.1.le hle) (not_le.mpr hstale.2)

end readers

end heartbeats

/-- A topology is created, and synced seven seconds after the start. -/
def sampleSynced (object : AcceleratorTopology) : List (Event Empty) :=
  [.request (.create object), .sync (1, object) 7000000000 none]

theorem timely_sampleSynced [Kube] {object : AcceleratorTopology}
    (h : object.status = ⟨[], none⟩) :
    Along timedStep Timely (World.start, second) (sampleSynced object) :=
  ⟨h, ⟨List.mem_append_left _ (List.mem_singleton.mpr rfl),
    show second ≤ 7000000000 by decide⟩, trivial⟩

theorem status_writes_bounded_after_create :
    let : Kube := sampleKube
    let object := { sampleTopology 1 (sampleSpec [sampleDevice "gpu0"] []) with
      status := ⟨[], none⟩ }
    total timedStep reports (World.start, second) (sampleSynced object) = 1 ∧
      gap * (1 : ℕ) ≤ gap * (1 + 1 : ℕ) + (7000000000 - second) := by
  intro kube object
  have hbound := status_writes_bounded (sampleSynced object) second le_rfl
    (timely_sampleSynced rfl)
  exact ⟨rfl, hbound⟩

/-- Ninety seconds after the `sync`, with two minutes to live. -/
theorem never_stale_after_create :
    let : Kube := sampleKube
    let object := { sampleTopology 1 (sampleSpec [sampleDevice "gpu0"] []) with
      status := ⟨[], none⟩ }
    let stored := withReport object 7000000000
    ∃ snapshot, build stored.spec = .ok snapshot ∧
      ((newStore.put "worker" (resultOf stored snapshot) (by decide) rfl).get "worker" 97000000000
        120000000000).availability = .ready := by
  intro kube object stored
  obtain ⟨snapshot, hbuild⟩ : ∃ snapshot, build stored.spec = .ok snapshot := ⟨_, rfl⟩
  refine ⟨snapshot, hbuild, ?_⟩
  refine (never_stale [.request (.create object)] [] second 7000000000 le_rfl (1, object)
    (2, stored) rfl (timely_sampleSynced rfl) rfl _ "worker" snapshot
    (Finmap.lookup_insert _) 97000000000 120000000000 (by decide)).mpr ?_
  decide +kernel

end AcceleratorFabric.TopologyController
