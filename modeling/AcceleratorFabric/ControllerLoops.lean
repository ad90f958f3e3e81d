import AcceleratorFabric.PolicySync
import AcceleratorFabric.Reconciler
import AcceleratorFabric.TopologySync

/-! # The controllers as they run

The informer fills a cache and announces every change; `enqueue` adds the name to the queue;
`processNext` gets a name, calls `sync` on what the lister has under it, adds the name again after
a while if that failed, and is done with it.  Several workers do this at the same time, other
clients write meanwhile, and the process may be restarted at any time.

* `TopologyController.ready_when_idle`: when nothing is to be done for a topology, its Ready
  condition is the verdict on its current spec.
* `TopologyController.reconcile_ends`: without changes from outside the work comes to an end.
* `PolicyController.template_when_idle`: when nothing is to be done for a policy, its template is
  the desired one. -/

namespace AcceleratorFabric

open ApiServer Reconciler Runs WorkQueue

/-- `lister.Get` on what the cache has under the name. -/
def listed {V E : Type} : Option V → Except (ApiError E) V
  | none => .error .notFound
  | some v => .ok v

/-! ### Topologies -/

namespace TopologyController

open AcceleratorFabric.Topology

section topologies

variable [Kube] {E W : Type}

/-- The controller of topologies, under their names; there is no handler for deletions. -/
def controller (E : Type) :
    Controller String (ℕ × AcceleratorTopology) AcceleratorTopology E (ApiError E) Time where
  key version := version.2.name
  handlesRemoval := false
  sync now cached := sync (listed cached) now

/-- The version needed no report at some time, or has been replaced by one. -/
def Judged (version : ℕ × AcceleratorTopology) (s : Slot AcceleratorTopology) : Prop :=
  (∃ now, upToDate version.2 (verdict version.2) now = true) ∨ Gone version.1 s

theorem judged_of_sync {version : ℕ × AcceleratorTopology} {now : Time}
    {turns : List (Turn AcceleratorTopology E)} {s : Slot AcceleratorTopology}
    (h : ((sync (.ok version) now).run turns s).result.isOk = true) :
    Judged version ((sync (.ok version) now).run turns s).slot := by
  simp only [sync] at h ⊢
  split_ifs at h ⊢ with hcurrent
  · exact .inl ⟨now, hcurrent⟩
  · rw [run_finish] at h ⊢
    refine .inr ?_
    cases hanswer : (take (turns.headD quiet) s
        (.update version.1 (updateStatus (reported version.2 now)))).answer with
    | error e =>
        rw [hanswer] at h
        cases h
    | ok p =>
        have hserve := (serve_of_take_ok hanswer).2
        rw [hserve] at hanswer ⊢
        exact gone_of_update hanswer

theorem verdict_status_iff (object : AcceleratorTopology) :
    (verdict object).status = .conditionTrue ↔ ∃ snapshot, build object.spec = .ok snapshot := by
  unfold verdict
  cases build object.spec <;> simp

/-- The Ready condition is the verdict on the object, and there is a heartbeat. -/
def ReadyReported (object : AcceleratorTopology) : Prop :=
  ∃ c, Kube.findStatusCondition object.status.conditions "Ready" = some c ∧
    c.observedGeneration = object.generation ∧ c.reason = (verdict object).reason ∧
    c.message = (verdict object).message ∧
    (c.status = .conditionTrue ↔ ∃ snapshot, build object.spec = .ok snapshot) ∧
    object.status.lastHeartbeatTime ≠ none

theorem ready_of_upToDate {object : AcceleratorTopology} {now : Time}
    (h : upToDate object (verdict object) now = true) : ReadyReported object := by
  unfold upToDate at h
  split at h
  · next current heartbeat hcurrent hheartbeat =>
      obtain ⟨hstatus, hreason, hmessage, hgeneration, _⟩ := of_decide_eq_true h
      refine ⟨current, hcurrent, hgeneration, hreason, hmessage, ?_, by rw [hheartbeat]; simp⟩
      rw [hstatus]
      exact verdict_status_iff object
  · cases h

variable [Queue String] [DecidableEq W]

/-- The topologies and their controller after the events. -/
def systemAfter (events : List (SystemEvent String (ℕ × AcceleratorTopology) AcceleratorTopology E
    Time W)) : System String (ℕ × AcceleratorTopology) AcceleratorTopology W :=
  run (System.step (controller E)) System.start events

/-- **No change of a topology is lost.**  Whatever the order in which clients write, the informer
sees versions, workers `sync` and fail, and the controller is restarted: when nothing is to be
done for a topology and the cache has its stored version, then the Ready condition of that version
is the verdict on its spec. -/
theorem ready_when_idle [LawfulQueue String] (events : List (SystemEvent String
    (ℕ × AcceleratorTopology) AcceleratorTopology E Time W)) (name : String)
    (version : ℕ × AcceleratorTopology)
    (hidle : Idle (systemAfter events).loop name)
    (hcache : (systemAfter events).loop.cache name = some version)
    (hstored : ((systemAfter events).slot name).stored = some version) :
    ReadyReported version.2 := by
  have hjudged : Judged version ((systemAfter events).slot name) :=
    System.holds_when_idle (c := controller E) (P := fun version _ s => Judged version s)
      (fun _ _ _ r h => h.imp_right fun hgone => hgone.carried (carried_serve _ r))
      (fun _ _ _ _ hok => judged_of_sync hok) events hidle hcache
  rcases hjudged with ⟨now, hcurrent⟩ | hgone
  · exact ready_of_upToDate hcurrent
  · exact absurd rfl (hgone.2 version hstored)

/-- **The controller comes to rest.**  From any state that it can get into, steps that it takes
without a change from outside come to an end unless `sync` fails again and again, and it never
gets stuck before there is nothing to be done for any topology. -/
theorem reconcile_ends [LawfulQueue String] [Fintype W] [Inhabited W]
    (events : List (SystemEvent String (ℕ × AcceleratorTopology) AcceleratorTopology E Time W)) :
    (∀ more, Along (System.step (controller E)) System.Own (systemAfter events) more →
      more.length ≤ work (systemAfter events).loop +
        total (System.step (controller E)) (System.cost (controller E)) (systemAfter events) more) ∧
    ((∀ e : SystemEvent String (ℕ × AcceleratorTopology) AcceleratorTopology E Time W,
      ¬ (systemAfter events).Own e) → ∀ name, Idle (systemAfter events).loop name) :=
  have hinv : Inv (systemAfter events).loop := System.inv_run events
  ⟨fun more hown => System.length_le hinv more hown,
    fun hstuck name => System.idle_of_stuck hinv hstuck name⟩

end topologies

/-- The informer sees a version, and a worker takes care of it. -/
def sampleRound (version : ℕ × AcceleratorTopology) (now : Time) :
    List (SystemEvent String (ℕ × AcceleratorTopology) AcceleratorTopology Empty Time Unit) :=
  [.observe version, .move .deliver, .move (.get ()), .move (.read ()), .sync () now [],
    .move (.done ())]

/-- A topology is seen: the controller takes five steps at most if no `sync` fails. -/
theorem reconcile_ends_after_observe :
    let : Kube := sampleKube
    let : Queue String := listQueue String
    let version := (1, sampleTopology 1 (sampleSpec [sampleDevice "gpu0"] []))
    let events : List (SystemEvent String (ℕ × AcceleratorTopology) AcceleratorTopology Empty Time
      Unit) := [.observe version]
    work (systemAfter events).loop = 5 ∧
      ∀ more, Along (System.step (controller Empty)) System.Own (systemAfter events) more →
        more.length ≤ 5 +
          total (System.step (controller Empty)) (System.cost (controller Empty))
            (systemAfter events) more := by
  intro kube queue version events
  have hwork : work (systemAfter events).loop = 5 := by decide +kernel
  refine ⟨hwork, fun more hown => ?_⟩
  have hle := (reconcile_ends events).1 more hown
  rwa [hwork] at hle

/-- A topology is created, validated and seen again with its verdict. -/
theorem ready_when_idle_after_report :
    let : Kube := sampleKube
    let : Queue String := listQueue String
    let object := { sampleTopology 1 (sampleSpec [sampleDevice "gpu0"] []) with
      status := ⟨[], none⟩ }
    let stored := { object with status := ⟨[verdict object], some 7000000000⟩ }
    let events := .request object.name (.create object) ::
      (sampleRound (1, object) 7000000000 ++ sampleRound (2, stored) 7000000000)
    ((systemAfter events).slot object.name).stored = some (2, stored) ∧
      ReadyReported stored := by
  intro kube queue object stored events
  have hstored : ((systemAfter events).slot object.name).stored = some (2, stored) := by
    decide +kernel
  have hcache : (systemAfter events).loop.cache object.name = some (2, stored) := by
    decide +kernel
  have hidle : Idle (systemAfter events).loop object.name := by decide +kernel
  exact ⟨hstored, ready_when_idle events object.name (2, stored) hidle hcache hstored⟩

end TopologyController

/-! ### Policies -/

namespace PolicyController

open AcceleratorFabric.Dra

/-- `toolscache.ObjectName`. -/
structure ObjectName where
  namespaceName : String
  name : String
deriving DecidableEq

section policies

variable [Kube] [FloatConversion] {W : Type}

/-- The controller of policies; the template of a policy has its name. -/
def controller : Controller ObjectName AcceleratorPlacementPolicy TemplateObject TemplateRejection
    SyncError Unit where
  key policy := ⟨policy.namespaceName, policy.name⟩
  handlesRemoval := true
  sync _ cached := sync (listed cached)

/-- There is the desired template, or none of the policy if it has no DRA parameters. -/
structure Reconciled (policy : AcceleratorPlacementPolicy) (s : Slot TemplateObject) : Prop where
  desired : policy.spec.dra ≠ none → ∃ desired p,
    resourceClaimTemplateForPolicy (some policy) = .ok desired ∧ s.stored = some p ∧
      Matches desired p.2
  removed : policy.spec.dra = none → ∀ p, s.stored = some p → ¬ Ours policy p.2

theorem reconciled_of_removed {policy : AcceleratorPlacementPolicy} {s : Slot TemplateObject}
    (hdra : policy.spec.dra = none) (h : ∀ p, s.stored = some p → ¬ Ours policy p.2) :
    Reconciled policy s :=
  ⟨fun hne => absurd hdra hne, fun _ => h⟩

theorem reconciled_of_matches {policy : AcceleratorPlacementPolicy}
    {desired : ResourceClaimTemplate}
    (h : resourceClaimTemplateForPolicy (some policy) = .ok desired) {s : Slot TemplateObject}
    {p : ℕ × TemplateObject} (hp : s.stored = some p) (hmatches : Matches desired p.2) :
    Reconciled policy s := by
  obtain ⟨⟨dra, hdra⟩, _⟩ := owned_of_template h
  exact ⟨fun _ => ⟨desired, p, h, hp, hmatches⟩, fun hnone => by cases hdra.symm.trans hnone⟩

omit [Kube] [FloatConversion] in
theorem send_ok {r : Request TemplateObject TemplateRejection}
    {turns : List (Turn TemplateObject TemplateRejection)} (hturns : disturbed turns = false)
    {s : Slot TemplateObject} (h : ((send r).run turns s).result.isOk = true) :
    ∃ p, (serve s r).answer = .ok p ∧ ((send r).run turns s).slot = (serve s r).slot := by
  rw [send, run_finish] at h ⊢
  cases hanswer : (take (turns.headD quiet) s r).answer with
  | error e =>
      rw [hanswer] at h
      cases h
  | ok p =>
      have hserve := serve_of_undisturbed hturns hanswer
      rw [hserve] at hanswer ⊢
      exact ⟨p, hanswer, rfl⟩

/-- Without DRA parameters, a `sync` that succeeds has found no template of the policy, or has
deleted it. -/
theorem removed_of_sync {policy : AcceleratorPlacementPolicy} (hdra : policy.spec.dra = none)
    {turns : List (Turn TemplateObject TemplateRejection)} (hturns : disturbed turns = false)
    {s : Slot TemplateObject} (h : ((sync (.ok policy)).run turns s).result.isOk = true) :
    Reconciled policy ((sync (.ok policy)).run turns s).slot := by
  refine reconciled_of_removed hdra fun q hq => ?_
  simp only [sync, Prog.run, hdra] at h hq
  cases hanswer : (take (turns.headD quiet) s .get).answer with
  | error e =>
      simp only [hanswer] at h hq
      cases e with
      | notFound => cases (stored_after_not_found hanswer).symm.trans hq
      | _ => cases h
  | ok p =>
      simp only [hanswer] at h hq
      split_ifs at h hq with hours
      · obtain ⟨_, hdeleted, hslot⟩ := send_ok (disturbed_tail hturns) h
        rw [hslot, stored_after_delete hdeleted] at hq
        cases hq
      · obtain rfl := Option.some.inj ((stored_after_get hanswer).symm.trans hq)
        exact hours

/-- With DRA parameters, a `sync` that succeeds has found the desired template, or has written
it. -/
theorem desired_of_sync {policy : AcceleratorPlacementPolicy} {dra : DRAParameters}
    (hdra : policy.spec.dra = some dra) {turns : List (Turn TemplateObject TemplateRejection)}
    (hturns : disturbed turns = false) {s : Slot TemplateObject}
    (h : ((sync (.ok policy)).run turns s).result.isOk = true) :
    Reconciled policy ((sync (.ok policy)).run turns s).slot := by
  have htail := disturbed_tail hturns
  cases htemplate : resourceClaimTemplateForPolicy (some policy) with
  | error e =>
      simp only [sync, Prog.run, hdra, htemplate] at h
      cases h
  | ok desired =>
      simp only [sync, Prog.run, hdra, htemplate] at h ⊢
      cases hanswer : (take (turns.headD quiet) s .get).answer with
      | error e =>
          simp only [hanswer] at h ⊢
          cases e with
          | notFound =>
              obtain ⟨p, hcreated, hslot⟩ := send_ok htail h
              obtain ⟨hstored, hp⟩ := stored_after_create hcreated
              rw [hslot]
              exact reconciled_of_matches htemplate hstored (by rw [hp]; exact matches_object _)
          | _ => cases h
      | ok p =>
          simp only [hanswer] at h ⊢
          split_ifs at h ⊢ with hours hmatches
          · exact reconciled_of_matches htemplate (stored_after_get hanswer) hmatches
          · obtain ⟨q, hupdated, hslot⟩ := send_ok htail h
            obtain ⟨hstored, old, hold⟩ := stored_after_update hupdated
            rw [hslot]
            refine reconciled_of_matches htemplate hstored ?_
            unfold updateTemplate at hold
            split_ifs at hold
            rw [← Except.ok.inj hold]
            exact matches_replaced desired p.2
          · cases h

variable [Queue ObjectName] [DecidableEq W]

/-- The templates and the controller of policies after the events. -/
def systemAfter (events : List (SystemEvent ObjectName AcceleratorPlacementPolicy TemplateObject
    TemplateRejection Unit W)) : System ObjectName AcceleratorPlacementPolicy TemplateObject W :=
  run (System.step controller) System.start events

/-- **No change of a policy is lost.**  Whatever the order in which policies change and disappear,
other clients write templates, workers `sync` and fail, and the controller is restarted: when
nothing is to be done for a policy, and no other client came to its template since the last `sync`
began, then the template is the desired one, or there is none of the policy if it has no DRA
parameters. -/
theorem template_when_idle [LawfulQueue ObjectName] (events : List (SystemEvent ObjectName
    AcceleratorPlacementPolicy TemplateObject TemplateRejection Unit W)) (name : ObjectName)
    (policy : AcceleratorPlacementPolicy) (hidle : Idle (systemAfter events).loop name)
    (hcache : (systemAfter events).loop.cache name = some policy)
    (htouched : (systemAfter events).touched name = false) :
    Reconciled policy ((systemAfter events).slot name) := by
  refine System.holds_when_idle (c := controller)
    (P := fun policy touched s => touched = false → Reconciled policy s)
    (fun _ _ _ _ _ h => by cases h) (fun policy _ turns s hok hturns => ?_) events hidle hcache
    htouched
  cases hdra : policy.spec.dra with
  | none => exact removed_of_sync hdra hturns hok
  | some dra => exact desired_of_sync hdra hturns hok

end policies

/-- A policy is seen and its template created. -/
theorem template_when_idle_after_create :
    let : Kube := sampleKube
    let : Queue ObjectName := listQueue ObjectName
    let : FloatConversion := amd64
    let policy := samplePolicyObject .bestEffort 4
    let name : ObjectName := ⟨policy.namespaceName, policy.name⟩
    let events : List (SystemEvent ObjectName AcceleratorPlacementPolicy TemplateObject
        TemplateRejection Unit Unit) :=
      [.observe policy, .move .deliver, .move (.get ()), .move (.read ()), .sync () () [],
        .move (.done ())]
    ((systemAfter events).slot name).stored ≠ none ∧
      Reconciled policy ((systemAfter events).slot name) := by
  intro kube queue conversion policy name events
  have hidle : Idle (systemAfter events).loop name := by decide +kernel
  have hcache : (systemAfter events).loop.cache name = some policy := by decide +kernel
  have htouched : (systemAfter events).touched name = false := by decide +kernel
  exact ⟨by decide +kernel, template_when_idle events name policy hidle hcache htouched⟩

end PolicyController

end AcceleratorFabric
