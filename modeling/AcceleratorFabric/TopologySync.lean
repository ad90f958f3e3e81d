import AcceleratorFabric.ApiServer
import AcceleratorFabric.Runs
import AcceleratorFabric.Snapshot

/-! # The topology controller

`Controller.sync` validates a topology object from the lister's cache and reports the verdict in
its status.  The cache may be arbitrarily stale, other clients write the spec meanwhile, and the
object may be deleted and created again.

`ready_is_valid`: whatever the order, an object that is Ready at its generation has a spec that
`Build` accepts.  Every version there ever was is sound in this sense, since the controller's
write replaces exactly the version it judged (`Known`). -/

namespace AcceleratorFabric.TopologyController

open AcceleratorFabric.Topology ApiServer Runs

/-! ### Conditions -/

/-- The documentation of the library: `FindStatusCondition` finds the first condition of the type,
and after `SetStatusCondition` that is the new one. -/
class LawfulKube [Kube] : Prop where
  findStatusCondition_eq : ∀ (conditions : List Condition) (type : String),
    Kube.findStatusCondition conditions type = conditions.find? (fun c => decide (c.type = type))
  find_setStatusCondition : ∀ (conditions : List Condition) (new : Condition),
    Kube.findStatusCondition (Kube.setStatusCondition conditions new) new.type = some new

/-! ### The controller -/

def heartbeatInterval : Duration := 30 * 1000000000

section controller

variable [Kube] {E : Type}

/-- The Ready condition for the object. -/
def verdict (object : AcceleratorTopology) : Condition :=
  match build object.spec with
  | .ok _ => ⟨"Ready", .conditionTrue, object.generation, "ValidTopology",
      "topology graph passed validation"⟩
  | .error e => ⟨"Ready", .conditionFalse, object.generation, "InvalidTopology", e.message⟩

/-- The object has this condition and a recent heartbeat. -/
def upToDate (object : AcceleratorTopology) (new : Condition) (now : Time) : Bool :=
  match Kube.findStatusCondition object.status.conditions "Ready",
      object.status.lastHeartbeatTime with
  | some current, some heartbeat =>
      decide (current.status = new.status ∧ current.reason = new.reason ∧
        current.message = new.message ∧ current.observedGeneration = object.generation ∧
        Time.sub now heartbeat < heartbeatInterval)
  | _, _ => false

/-- The status that `sync` writes. -/
def reported (object : AcceleratorTopology) (now : Time) : AcceleratorTopologyStatus where
  conditions := Kube.setStatusCondition object.status.conditions (verdict object)
  lastHeartbeatTime := some now

/-- The encoding of a `metav1.Time` in an object: whole seconds, and null for the zero time. -/
def encodeTime (t : Time) : Option Time := if t = 0 then none else some (t - t % 1000000000)

/-- What the server makes of `UpdateStatus`: only the status is taken over. -/
def updateStatus (status : AcceleratorTopologyStatus) (old : AcceleratorTopology) :
    Except E AcceleratorTopology :=
  .ok { old with status :=
    { status with lastHeartbeatTime := status.lastHeartbeatTime.bind encodeTime } }

/-- `Controller.sync` for the version that the lister has under the name. -/
def sync (lister : Except (ApiError E) (ℕ × AcceleratorTopology)) (now : Time) :
    Prog AcceleratorTopology E (Except (ApiError E) Unit) :=
  match lister with
  | .error .notFound => .done (.ok ())
  | .error e => .done (.error e)
  | .ok (version, object) =>
      if upToDate object (verdict object) now then .done (.ok ())
      else finish id (.update version (updateStatus (reported object now)))

end controller

/-! ### Any interleaving -/

/-- Another client's request, or a `sync` on a version from the cache, whose answer may be lost. -/
inductive Event (E : Type) where
  | request (r : Request AcceleratorTopology E)
  | sync (version : ℕ × AcceleratorTopology) (now : Time) (lost : Option Bool)

/-- The object under the name, and all versions it ever had. -/
structure World where
  slot : Slot AcceleratorTopology
  past : List (ℕ × AcceleratorTopology)

def World.start : World := ⟨Slot.empty, []⟩

section interleaving

variable [Kube] {E : Type}

def served (w : World) : Event E → Slot AcceleratorTopology
  | .request r => (serve w.slot r).slot
  | .sync version now lost => ((sync (E := E) (.ok version) now).run [⟨[], lost⟩] w.slot).slot

def step (w : World) (e : Event E) : World := ⟨served w e, record w.past (served w e)⟩

/-- Other clients leave the status alone, and a new spec has a new generation. -/
def SpecWrite (old new : AcceleratorTopology) : Prop :=
  new.status = old.status ∧ old.generation ≤ new.generation ∧
    (new.spec ≠ old.spec → old.generation < new.generation)

/-- What the server lets happen: objects are created without a status, other clients write the
spec, and the cache holds a version from the past. -/
def Possible (w : World) : Event E → Prop
  | .request .get => True
  | .request (.create object) => object.status = ⟨[], none⟩
  | .request (.update _ change) => ∀ old new, change old = .ok new → SpecWrite old new
  | .request .delete => True
  | .sync version _ _ => version ∈ w.past

/-- A Ready condition is not from the future, and if it is True at the object's generation, then
`Build` accepts the spec. -/
def Sound (object : AcceleratorTopology) : Prop :=
  ∀ c, Kube.findStatusCondition object.status.conditions "Ready" = some c →
    c.observedGeneration ≤ object.generation ∧
    (c.status = .conditionTrue → c.observedGeneration = object.generation →
      ∃ snapshot, build object.spec = .ok snapshot)

variable [LawfulKube]

theorem sound_created {object : AcceleratorTopology} (h : object.status = ⟨[], none⟩) :
    Sound object := by
  intro c hc
  rw [h, LawfulKube.findStatusCondition_eq] at hc
  cases hc

omit [LawfulKube] in
theorem Sound.specWrite {old new : AcceleratorTopology} (h : Sound old)
    (hwrite : SpecWrite old new) : Sound new := by
  obtain ⟨hstatus, hle, hlt⟩ := hwrite
  intro c hc
  rw [hstatus] at hc
  obtain ⟨hgeneration, hbuild⟩ := h c hc
  refine ⟨hgeneration.trans hle, ?_⟩
  intro htrue heq
  -- at the same generation the spec is the one that was judged
  have hsame : new.generation = old.generation := by omega
  have hspec : new.spec = old.spec := by
    by_contra hne
    have := hlt hne
    omega
  rw [hspec]
  exact hbuild htrue (by omega)

omit [LawfulKube] in
theorem verdict_eq (object : AcceleratorTopology) :
    (verdict object).type = "Ready" ∧ (verdict object).observedGeneration = object.generation ∧
      ((verdict object).status = .conditionTrue →
        ∃ snapshot, build object.spec = .ok snapshot) := by
  unfold verdict
  cases build object.spec with
  | ok snapshot => exact ⟨rfl, rfl, fun _ => ⟨snapshot, rfl⟩⟩
  | error e => exact ⟨rfl, rfl, fun h => by cases h⟩

theorem sound_reported (object : AcceleratorTopology) (now : Time) (heartbeat : Option Time) :
    Sound { object with status :=
      { reported object now with lastHeartbeatTime := heartbeat } } := by
  obtain ⟨htype, hgeneration, htrue⟩ := verdict_eq object
  intro c hc
  have hfind := LawfulKube.find_setStatusCondition object.status.conditions (verdict object)
  rw [htype] at hfind
  obtain rfl := Option.some.inj (hfind.symm.trans hc)
  exact ⟨hgeneration.le, fun h _ => htrue h⟩

omit [LawfulKube] in
/-- A `sync` does nothing, or what its only request can do. -/
theorem carried_sync (version : ℕ × AcceleratorTopology) (now : Time) (lost : Option Bool)
    (s : Slot AcceleratorTopology) :
    ∃ effects, Carried s (.update version.1 (updateStatus (reported version.2 now)) : Request _ E)
      ((sync (E := E) (.ok version) now).run [⟨[], lost⟩] s).slot effects := by
  simp only [sync]
  split_ifs
  · exact ⟨[], .nothing _⟩
  · rw [run_finish]
    exact ⟨_, carried_take ⟨[], lost⟩ s _⟩

/-- The step lemma: every version there is stays sound. -/
theorem records_step (w : World) (e : Event E) (h : Records Sound w.past w.slot)
    (hpossible : Possible w e) : Records Sound (step w e).past (step w e).slot := by
  cases e with
  | request r =>
      refine h.carried (carried_serve w.slot r) ?_ ?_
      · rintro object rfl
        exact sound_created hpossible
      · rintro version change old new rfl hold hnew
        exact (h.stored hold).specWrite (hpossible old new hnew)
  | sync version now lost =>
      obtain ⟨effects, hcarried⟩ := carried_sync (E := E) version now lost w.slot
      refine h.carried hcarried (fun _ hr => by cases hr) ?_
      rintro _ _ old new hr hold hnew
      cases hr
      -- the version that is replaced is the one that was judged
      obtain rfl := (h.known version hpossible).2 old hold
      cases hnew
      exact sound_reported _ now _

/-- **Ready is never asserted for an invalid graph.**  After any interleaving of spec writes,
deletions and creations with `sync` runs on stale versions, an object whose Ready condition is
True at its generation has a spec that `Build` accepts. -/
theorem ready_is_valid (events : List (Event E))
    (hpossible : Along step Possible World.start events) (p : ℕ × AcceleratorTopology)
    (hstored : (run step World.start events).slot.stored = some p) (c : Condition)
    (hready : Kube.findStatusCondition p.2.status.conditions "Ready" = some c)
    (htrue : c.status = .conditionTrue) (hgeneration : c.observedGeneration = p.2.generation) :
    ∃ snapshot, build p.2.spec = .ok snapshot := by
  have hrecords := invariant_run (fun w : World => Records Sound w.past w.slot) records_step events
    World.start (records_empty Sound) hpossible
  exact (hrecords.stored hstored c hready).2 htrue hgeneration

end interleaving

theorem find_overwriteCondition (conditions : List Condition) (new : Condition) :
    (overwriteCondition conditions new).find? (fun c => decide (c.type = new.type)) = some new := by
  induction conditions with
  | nil => simp [overwriteCondition]
  | cons c rest ih =>
      rw [overwriteCondition]
      split_ifs with htype
      · exact List.find?_cons_of_pos (by simp)
      · rw [List.find?_cons_of_neg (by simpa using htype)]
        exact ih

instance : @LawfulKube sampleKube :=
  @LawfulKube.mk sampleKube (fun _ _ => rfl) find_overwriteCondition

/-- A topology is created and validated. -/
theorem ready_is_valid_after_sync :
    let : Kube := sampleKube
    let object := { sampleTopology 1 (sampleSpec [sampleDevice "gpu0"] []) with
      status := ⟨[], none⟩ }
    let events : List (Event Empty) := [.request (.create object), .sync (1, object) 7 none]
    ∃ p, (run step World.start events).slot.stored = some p ∧
      ∃ snapshot, build p.2.spec = .ok snapshot := by
  intro kube object events
  have hpossible : Along step Possible World.start events :=
    ⟨rfl, List.mem_append_left _ (List.mem_singleton.mpr rfl), trivial⟩
  exact ⟨_, rfl, ready_is_valid events hpossible _ rfl _ rfl rfl rfl⟩

end AcceleratorFabric.TopologyController
