import AcceleratorFabric.ApiServer
import AcceleratorFabric.Providers
import AcceleratorFabric.TopologySync

/-! # The discovery agent

`Agent.Reconcile` publishes what its provider discovers as the topology object of its node.  It
creates the object if there is none, takes over only objects that are its own or that already
say the same, and advances `observedGeneration` when the content differs from what is stored.

* `reconcile_respects_owners`: among any other clients, and with a retry loop that keeps to its
  documentation, every write of the agent hits a free name or an object it may own, and keeps what
  is not the agent's.
* `observedGeneration_exact_iff`: for which discoveries the generation tells whether the content
  changed. -/

namespace AcceleratorFabric.Discovery

open GoMap GoText ApiServer

/-! ### Objects -/

structure TopologyObject where
  name : String
  generation : ℤ
  labels : GoMap String String
  annotations : GoMap String String
  spec : TopologySpec
  status : AcceleratorTopologyStatus
deriving DecidableEq

/-- The spec after its JSON encoding: `links` is tagged `omitempty`, so an empty list is left out
and read back as nil. -/
def TopologySpec.decoded (spec : TopologySpec) : TopologySpec :=
  { spec with links := if spec.links = some [] then none else spec.links }

/-- What `Create` stores: a first generation without a status. -/
def createObject (object : TopologyObject) : TopologyObject :=
  { object with generation := 1, spec := object.spec.decoded, status := ⟨[], none⟩ }

/-- What `Update` stores: the status is not touched, and a new spec is a new generation. -/
def updateObject (new old : TopologyObject) : TopologyObject :=
  { new with
    name := old.name
    generation := if new.spec.decoded = old.spec then old.generation else old.generation + 1
    spec := new.spec.decoded
    status := old.status }

/-! ### The agent -/

def managedByLabel : String := "app.kubernetes.io/managed-by"

def managedByValue : String := "accelerator-topology-discovery"

def providerLabel : String := "scheduling.bupt.dev/provider"

def discoveredAtAnnotation : String := "scheduling.bupt.dev/discovered-at"

/-- An agent with the name of its provider. -/
structure Agent where
  nodeName : String
  providerName : String
deriving DecidableEq, Repr

/-- What a topology says, its `observedGeneration` aside. -/
def TopologySpec.content (spec : TopologySpec) : TopologySpec :=
  { spec with observedGeneration := 0 }

/-- `specContentEqual`. -/
def specContentEqual (left right : TopologySpec) : Bool := decide (left.content = right.content)

def topologyChanged (current discovered : TopologySpec) : Bool :=
  !specContentEqual current discovered

inductive ReconcileError (E : Type) where
  | discover (cause : String)
  | otherNode (returned nodeName : String)
  | managed (name manager : String)
  | belongs (name provider : String)
  | adopt (name : String)
  | api (error : ApiError E)
deriving DecidableEq, Repr

def ReconcileError.message [IsPrint] {E : Type} (describe : ApiError E → String) :
    ReconcileError E → String
  | discover cause => "discover topology: " ++ cause
  | otherNode returned nodeName => "provider returned node " ++ quote returned ++
      " for agent node " ++ quote nodeName
  | managed name manager => "topology " ++ quote name ++ " is managed by " ++ quote manager
  | belongs name provider => "topology " ++ quote name ++ " belongs to provider " ++ quote provider
  | adopt name => "refusing to adopt unmanaged topology " ++ quote name ++ " with different content"
  | api e => describe e

/-- `object.Labels[key]`, empty if there is none. -/
def TopologyObject.label (object : TopologyObject) (key : String) : String :=
  (object.labels.lookup key).getD ""

def validateOwnership {E : Type} (agent : Agent) (current : TopologyObject)
    (discovered : TopologySpec) : Option (ReconcileError E) :=
  if current.label managedByLabel ≠ "" ∧ current.label managedByLabel ≠ managedByValue then
    some (.managed current.name (current.label managedByLabel))
  else if current.label providerLabel ≠ "" ∧ current.label providerLabel ≠ agent.providerName then
    some (.belongs current.name (current.label providerLabel))
  else if current.label managedByLabel = "" ∧ ¬ specContentEqual current.spec discovered then
    some (.adopt current.name)
  else none

/-- The marks of the agent; `now` is the text of the current time. -/
def stamp (agent : Agent) (now : String) (object : TopologyObject) : TopologyObject :=
  { object with
    labels := (object.labels.insert managedByLabel managedByValue).insert providerLabel
      agent.providerName
    annotations := object.annotations.insert discoveredAtAnnotation now }

/-- The next `observedGeneration`, an `int64` that starts again at one. -/
def nextGeneration (current : ℤ) : ℤ :=
  let next := wrap64 (current + 1)
  if next < 1 then 1 else next

/-- A first object for the node, before it is stamped. -/
def unmarked (agent : Agent) (discovered : TopologySpec) : TopologyObject where
  name := agent.nodeName
  generation := 0
  labels := ∅
  annotations := ∅
  spec := { discovered with observedGeneration := 1 }
  status := ⟨[], none⟩

def created (agent : Agent) (discovered : TopologySpec) (now : String) : TopologyObject :=
  stamp agent now (unmarked agent discovered)

def updated (agent : Agent) (discovered : TopologySpec) (now : String) (current : TopologyObject) :
    TopologyObject :=
  stamp agent now (if topologyChanged current.spec discovered then
    { current with spec := { discovered with
        observedGeneration := nextGeneration current.spec.observedGeneration } }
  else current)

section agent

variable {E : Type}

/-- A client of the topologies that returns an error or nothing. -/
abbrev TopologyClient (E : Type) := Prog TopologyObject E (Except (ReconcileError E) Unit)

/-- The last request of an attempt. -/
def send (r : Request TopologyObject E) : TopologyClient E := finish .api r

/-- One attempt to publish what was discovered. -/
def attempt (agent : Agent) (discovered : TopologySpec) (now : String) : TopologyClient E :=
  .call .get fun
    | .error .notFound => send (.create (createObject (created agent discovered now)))
    | .error e => .done (.error (.api e))
    | .ok (version, current) =>
        match validateOwnership agent current discovered with
        | some e => .done (.error e)
        | none => send (.update version fun old =>
            .ok (updateObject (updated agent discovered now current) old))

def isConflict : Except (ReconcileError E) Unit → Bool
  | .error (.api .conflict) => true
  | _ => false

/-- `Agent.Reconcile` for what the provider returns, with the texts of the times at its
attempts. -/
def reconcile [RetryLoop] (agent : Agent) (discovered : Except String TopologySpec)
    (now : ℕ → String) : TopologyClient E :=
  match discovered with
  | .error cause => .done (.error (.discover cause))
  | .ok discovered =>
      if discovered.nodeName ≠ agent.nodeName then
        .done (.error (.otherNode discovered.nodeName agent.nodeName))
      else retryOnConflict isConflict fun n => attempt agent discovered (now n)

end agent

/-! ### Ownership -/

/-- The object is the agent's, or nobody's and says what was discovered; and it is not of another
provider. -/
def MayOwn (agent : Agent) (discovered : TopologySpec) (object : TopologyObject) : Prop :=
  (object.label managedByLabel = managedByValue ∨
    object.label managedByLabel = "" ∧ object.spec.content = discovered.content) ∧
  (object.label providerLabel = "" ∨ object.label providerLabel = agent.providerName)

/-- Nothing but the spec and the agent's own marks differs. -/
def KeepsOthers (old new : TopologyObject) : Prop :=
  new.name = old.name ∧ new.status = old.status ∧
    (∀ key, key ≠ managedByLabel → key ≠ providerLabel →
      new.labels.lookup key = old.labels.lookup key) ∧
    ∀ key, key ≠ discoveredAtAnnotation → new.annotations.lookup key = old.annotations.lookup key

/-- A write that the agent is entitled to. -/
def Entitled (agent : Agent) (discovered : TopologySpec) : Effect TopologyObject → Prop
  | .created object => KeepsOthers (unmarked agent discovered) object
  | .updated old new => MayOwn agent discovered old ∧ KeepsOthers old new
  | .deleted _ => False

theorem validateOwnership_eq_none_iff {E : Type} (agent : Agent) (current : TopologyObject)
    (discovered : TopologySpec) :
    (validateOwnership agent current discovered : Option (ReconcileError E)) = none ↔
      MayOwn agent discovered current := by
  have hvalue : managedByValue ≠ "" := by decide
  unfold validateOwnership MayOwn specContentEqual
  simp only [decide_eq_true_eq]
  split_ifs with h1 h2 h3
  · exact iff_of_false id (by tauto)
  · exact iff_of_false id (by tauto)
  · refine iff_of_false id ?_
    rintro ⟨hmine | hsame, _⟩
    · exact hvalue (hmine.symm.trans h3.1)
    · exact h3.2 hsame.2
  · exact iff_of_true rfl (by tauto)

/-- Stamping changes the agent's marks only. -/
theorem keepsOthers_stamp (agent : Agent) (now : String) (object : TopologyObject) :
    KeepsOthers object (stamp agent now object) := by
  refine ⟨rfl, rfl, ?_, ?_⟩
  · intro key hmanager hprovider
    rw [stamp, lookup_insert_ite, if_neg hprovider, lookup_insert_ite, if_neg hmanager]
  · intro key hannotation
    rw [stamp, lookup_insert_ite, if_neg hannotation]

theorem keepsOthers_updated (agent : Agent) (discovered : TopologySpec) (now : String)
    (current : TopologyObject) : KeepsOthers current (updated agent discovered now current) := by
  unfold updated
  split_ifs
  · exact keepsOthers_stamp agent now { current with spec := _ }
  · exact keepsOthers_stamp agent now current

/-! ### Other clients -/

section interference

variable {E : Type}

/-- An attempt ends in an error without an effect, or in one effect and no conflict. -/
def Respects (agent : Agent) (discovered : TopologySpec) (result : Except (ReconcileError E) Unit)
    (effects : List (Effect TopologyObject)) : Prop :=
  (effects = [] ∧ ∃ e, result = .error e) ∨
    (isConflict result = false ∧ ∃ e, effects = [e] ∧ Entitled agent discovered e)

theorem respects_done (agent : Agent) (discovered : TopologySpec) (e : ReconcileError E) :
    Respects agent discovered (.error e) [] :=
  .inl ⟨rfl, e, rfl⟩

/-- The rule of the last request: its only effect is one that the agent is entitled to. -/
theorem post_send {agent : Agent} {discovered : TopologySpec} {r : Request TopologyObject E}
    {s : Slot TopologyObject} (hr : r ≠ .get)
    (heffects : ∀ turn, (take turn s r).effects = [] ∨
      ∃ e, (take turn s r).effects = [e] ∧ Entitled agent discovered e) :
    (send r).Post (fun result _ effects => Respects agent discovered result effects) s := by
  intro turn
  simp only [Prog.Post, List.append_nil]
  rcases take_write_cases turn s hr with ⟨hnone, e, herror⟩ | ⟨hsome, hconflict⟩
  · rw [hnone, herror]
    exact respects_done agent discovered (.api e)
  · rcases heffects turn with hnone | ⟨e, he, hentitled⟩
    · exact absurd hnone hsome
    · refine .inr ⟨?_, e, he, hentitled⟩
      cases hanswer : (take turn s r).answer with
      | ok p => rfl
      | error error =>
          rw [hanswer] at hconflict
          cases error with
          | conflict => exact absurd rfl hconflict
          | _ => rfl

theorem post_attempt (agent : Agent) (discovered : TopologySpec) (now : String)
    (s : Slot TopologyObject) :
    (attempt agent discovered now : TopologyClient E).Post
      (fun result _ effects => Respects agent discovered result effects) s := by
  intro turn
  simp only [effects_get, List.nil_append]
  cases hread : (take turn s (.get : Request TopologyObject E)).answer with
  | error error =>
      cases error with
      | notFound =>
          refine post_send (by simp) ?_
          intro turn'
          rcases effects_create turn' (take turn s (.get : Request TopologyObject E)).slot
            (createObject (created agent discovered now)) with hnone | ⟨_, hcreated⟩
          · exact .inl hnone
          · exact .inr ⟨_, hcreated, keepsOthers_stamp agent now (unmarked agent discovered)⟩
      | _ => exact respects_done agent discovered _
  | ok read =>
      obtain ⟨version, current⟩ := read
      simp only
      cases hown : (validateOwnership agent current discovered : Option (ReconcileError E)) with
      | some e => exact respects_done agent discovered e
      | none =>
          refine post_send (by simp) ?_
          intro turn'
          -- the version that is replaced is the one whose owner was checked
          rcases effects_update (known_of_get hread) turn'
            (fun old => .ok (updateObject (updated agent discovered now current) old)) with
            hnone | ⟨new, _, hnew, hupdated⟩
          · exact .inl hnone
          · have hmay := (validateOwnership_eq_none_iff agent current discovered).mp hown
            refine .inr ⟨_, hupdated, hmay, ?_⟩
            cases hnew
            obtain ⟨_, _, hlabels, hannotations⟩ := keepsOthers_updated agent discovered now current
            exact ⟨rfl, rfl, hlabels, hannotations⟩

/-- An attempt that ends in a conflict has written nothing. -/
theorem Respects.effects_of_conflict {agent : Agent} {discovered : TopologySpec}
    {result : Except (ReconcileError E) Unit} {effects : List (Effect TopologyObject)}
    (h : Respects agent discovered result effects) (hconflict : isConflict result = true) :
    effects = [] := by
  rcases h with ⟨hnone, _⟩ | ⟨hno, _⟩
  · exact hnone
  · rw [hconflict] at hno
    cases hno

/-- **Discovery never takes over a foreign object.**  Whatever other clients do between the
requests of a `Reconcile` and its retries, and whichever answers are lost, it returns an error
without a write, or makes a single write that the agent is entitled to. -/
theorem reconcile_respects_owners [RetryLoop] [LawfulRetryLoop] (agent : Agent)
    (discovered : Except String TopologySpec) (now : ℕ → String)
    (turns : List (Turn TopologyObject E)) (s : Slot TopologyObject) :
    (((reconcile agent discovered now).run turns s).effects = [] ∧
      ∃ e, ((reconcile agent discovered now).run turns s).result = .error e) ∨
    ∃ spec e, discovered = .ok spec ∧ ((reconcile agent discovered now).run turns s).effects = [e] ∧
      Entitled agent spec e := by
  cases discovered with
  | error cause => exact .inl ⟨rfl, _, rfl⟩
  | ok spec =>
      simp only [reconcile]
      split_ifs with hnode
      · exact .inl ⟨rfl, _, rfl⟩
      · have hretries := LawfulRetryLoop.documented isConflict fun n =>
          (attempt agent spec (now n) : TopologyClient E)
        have hpost := hretries.post (fun n s => post_attempt agent spec (now n) s)
          (R := fun result _ effects => (effects = [] ∧ ∃ e, result = .error e) ∨
            ∃ e, effects = [e] ∧ Entitled agent spec e) ?_ ?_ s
        · rcases Prog.post_run hpost turns with herror | ⟨e, he, hentitled⟩
          · exact .inl herror
          · exact .inr ⟨spec, e, rfl, he, hentitled⟩
        · rintro a b _ effects hreturns (⟨hnone, e, rfl⟩ | ⟨_, hwrites⟩)
          · -- the error of the last attempt is returned as an error
            cases hreturns with
            | failure _ e' => exact .inl ⟨hnone, e', rfl⟩
          · exact .inr hwrites
        · intro a _ effects b _ more hconflict ha hb
          rw [ha.effects_of_conflict hconflict]
          exact hb

end interference

/-- What `NVIDIAProvider` finds on a node with one device. -/
def singleGPU : TopologySpec where
  nodeName := "worker"
  observedGeneration := 0
  source := .vendor
  devices := some [{ sampleDevice "gpu0" with
    product := "NVIDIA H100"
    memoryMiB := 81559
    health := .unknown }]
  links := some []

/-- Another client takes the object over after the agent has read it: the update ends in a
conflict, and the second attempt is refused. -/
theorem reconcile_respects_new_owner :
    let : RetryLoop := sampleRetry
    let agent : Agent := ⟨"worker", "nvidia"⟩
    let own := createObject (created agent singleGPU "")
    let taken := { own with labels := own.labels.insert managedByLabel "operator" }
    let outcome := (reconcile agent (.ok singleGPU) fun _ => "" : TopologyClient Empty).run
      [quiet, ⟨[.update 1 fun _ => .ok taken], none⟩] (Slot.empty.put own)
    outcome.slot.stored = some (2, taken) ∧ outcome.effects = [] ∧
      ∃ e, outcome.result = .error e := by
  intro retry agent own taken outcome
  have hnone : outcome.effects = [] := by decide +kernel
  refine ⟨by decide +kernel,
    (reconcile_respects_owners agent (.ok singleGPU) _ _ _).resolve_right ?_⟩
  rintro ⟨spec, e, _, he, _⟩
  exact absurd (hnone.symm.trans he) (by simp)

/-! ### The topology controller's view -/

/-- The object as the topology controller reads it. -/
def TopologyObject.topology (version : ℕ) (object : TopologyObject) : AcceleratorTopology where
  name := object.name
  generation := object.generation
  resourceVersion := formatInt version
  spec := object.spec.read
  status := object.status

/-! ### Generations -/

theorem nextGeneration_ne (g : ℤ) : nextGeneration g ≠ g := by
  unfold nextGeneration wrap64
  rw [Int.bmod_def]
  simp only
  split_ifs <;> omega

theorem nextGeneration_of_lt {g : ℤ} (h : 1 ≤ g) (hlt : g < 2 ^ 63 - 1) :
    nextGeneration g = g + 1 := by
  unfold nextGeneration
  rw [wrap64_eq (by omega) (by omega)]
  exact if_neg (by omega)

theorem one_le_nextGeneration (g : ℤ) : 1 ≤ nextGeneration g := by
  unfold nextGeneration
  simp only
  split_ifs <;> omega

theorem content_decoded (spec : TopologySpec) : spec.decoded.content = spec.content.decoded := rfl

theorem links_eq_of_content {a b : TopologySpec} (h : a.content = b.content) : a.links = b.links :=
  show a.content.links = b.content.links by rw [h]

/-- A value that a provider returned is what it is stored as, unless its links are empty. -/
theorem decoded_content_eq_iff {previous current : TopologySpec} (hcurrent : current.links ≠ none) :
    previous.decoded.content = current.content ↔
      previous.content = current.content ∧ current.links ≠ some [] := by
  by_cases hempty : previous.links = some []
  · have hnil : previous.decoded.content.links = none := if_pos hempty
    constructor
    · intro h
      rw [h] at hnil
      exact absurd hnil hcurrent
    · rintro ⟨h, hne⟩
      exact absurd ((links_eq_of_content h).symm.trans hempty) hne
  · have hsame : previous.decoded = previous := by
      unfold TopologySpec.decoded
      rw [if_neg hempty]
    rw [hsame]
    refine ⟨fun h => ⟨h, ?_⟩, fun h => h.1⟩
    rw [← links_eq_of_content h]
    exact hempty

/-- The object has the marks of the agent. -/
def Managed (agent : Agent) (object : TopologyObject) : Prop :=
  object.label managedByLabel = managedByValue ∧
    (object.label providerLabel = "" ∨ object.label providerLabel = agent.providerName)

theorem managed_stamp (agent : Agent) (now : String) (object : TopologyObject) :
    Managed agent (stamp agent now object) := by
  have hne : managedByLabel ≠ providerLabel := by decide
  unfold Managed TopologyObject.label stamp
  simp [hne]

theorem managed_updated (agent : Agent) (spec : TopologySpec) (now : String)
    (current : TopologyObject) : Managed agent (updated agent spec now current) :=
  managed_stamp agent now _

/-- What was discovered, with the texts of the times at the attempts to publish it. -/
abbrev Finding := TopologySpec × (ℕ → String)

/-- A `Reconcile` without other clients and lost answers. -/
def reconcileAlone [RetryLoop] (agent : Agent) (s : Slot TopologyObject) (d : Finding) :
    Slot TopologyObject :=
  ((reconcile agent (.ok d.1) d.2 : TopologyClient Empty).run [] s).slot

/-- The agent may go on from here: there is no object, or one of its own whose
`observedGeneration` the schema of the resource allows. -/
def Owned (agent : Agent) (s : Slot TopologyObject) : Prop :=
  ∀ p, s.stored = some p → Managed agent p.2 ∧ 1 ≤ p.2.spec.observedGeneration

/-- The stored object says what was discovered, at this `observedGeneration`. -/
def Publishes (agent : Agent) (spec : TopologySpec) (g : ℤ) (s : Slot TopologyObject) : Prop :=
  ∃ p, s.stored = some p ∧ Managed agent p.2 ∧ p.2.spec.content = spec.decoded.content ∧
    p.2.spec.observedGeneration = g ∧ 1 ≤ g

theorem Publishes.owned {agent : Agent} {spec : TopologySpec} {g : ℤ} {s : Slot TopologyObject}
    (h : Publishes agent spec g s) : Owned agent s := by
  obtain ⟨p, hp, hmanaged, _, rfl, hpos⟩ := h
  intro q hq
  rw [hp] at hq
  rw [← Option.some.inj hq]
  exact ⟨hmanaged, hpos⟩

/-- Alone, an attempt that succeeds is the only one. -/
theorem reconcileAlone_eq [RetryLoop] [RetriesConflicts] {agent : Agent} {s : Slot TopologyObject}
    {d : Finding}
    (hnode : d.1.nodeName = agent.nodeName)
    (h : ((attempt agent d.1 (d.2 0) : TopologyClient Empty).run [] s).result =
      .ok ()) :
    reconcileAlone agent s d =
      ((attempt agent d.1 (d.2 0) : TopologyClient Empty).run [] s).slot := by
  simp only [reconcileAlone, reconcile]
  rw [if_neg (by simpa using hnode), (RetriesConflicts.retries _ _).slot_run_nil (by rw [h]; rfl)]

theorem run_attempt_absent {s : Slot TopologyObject} (h : s.stored = none) (agent : Agent)
    (spec : TopologySpec) (now : String) :
    (attempt agent spec now : TopologyClient Empty).run [] s =
      ⟨.ok (), s.put (createObject (created agent spec now)),
        [.created (createObject (created agent spec now))]⟩ := by
  simp only [attempt, send, run_finish, Prog.run, List.headD_nil, List.tail_nil, take_quiet, serve, h]
  rfl

theorem run_attempt_owned {agent : Agent} {s : Slot TopologyObject} {p : ℕ × TopologyObject}
    (hp : s.stored = some p) (hmanaged : Managed agent p.2) (spec : TopologySpec) (now : String) :
    (attempt agent spec now : TopologyClient Empty).run [] s =
      ⟨.ok (), s.put (updateObject (updated agent spec now p.2) p.2),
        [.updated p.2 (updateObject (updated agent spec now p.2) p.2)]⟩ := by
  have hown : (validateOwnership agent p.2 spec : Option (ReconcileError Empty)) = none :=
    (validateOwnership_eq_none_iff agent p.2 spec).mpr ⟨.inl hmanaged.1, hmanaged.2⟩
  simp only [attempt, send, run_finish, Prog.run, List.headD_nil, List.tail_nil, take_quiet, serve,
    hp, hown, ne_eq, not_true_eq_false, if_false]
  rfl

theorem reconcileAlone_absent [RetryLoop] [RetriesConflicts] {agent : Agent}
    {s : Slot TopologyObject} {d : Finding}
    (hnode : d.1.nodeName = agent.nodeName) (h : s.stored = none) :
    reconcileAlone agent s d =
      s.put (createObject (created agent d.1 (d.2 0))) := by
  have hrun := run_attempt_absent h agent d.1 (d.2 0)
  rw [reconcileAlone_eq hnode (by rw [hrun]), hrun]

theorem reconcileAlone_owned [RetryLoop] [RetriesConflicts] {agent : Agent}
    {s : Slot TopologyObject} {d : Finding}
    (hnode : d.1.nodeName = agent.nodeName) {p : ℕ × TopologyObject} (hp : s.stored = some p)
    (hmanaged : Managed agent p.2) :
    reconcileAlone agent s d =
      s.put (updateObject (updated agent d.1 (d.2 0) p.2) p.2) := by
  have hrun := run_attempt_owned hp hmanaged d.1 (d.2 0)
  rw [reconcileAlone_eq hnode (by rw [hrun]), hrun]

/-- What is stored after an update. -/
theorem spec_updateObject (agent : Agent) (spec : TopologySpec) (now : String)
    (current : TopologyObject) :
    (updateObject (updated agent spec now current) current).spec.content = spec.decoded.content ∧
      (updateObject (updated agent spec now current) current).spec.observedGeneration =
        if current.spec.content = spec.content then current.spec.observedGeneration
        else nextGeneration current.spec.observedGeneration := by
  unfold updateObject updated topologyChanged specContentEqual
  by_cases hsame : current.spec.content = spec.content
  · rw [decide_eq_true hsame, if_pos hsame]
    refine ⟨?_, rfl⟩
    rw [content_decoded, content_decoded, ← hsame]
    rfl
  · rw [decide_eq_false hsame, if_neg hsame]
    exact ⟨rfl, rfl⟩

/-- The step lemma: a `Reconcile` publishes its finding, and the generation advances when the
content is not the stored one. -/
theorem publishes_step [RetryLoop] [RetriesConflicts] {agent : Agent} {s : Slot TopologyObject}
    {d : Finding}
    (hnode : d.1.nodeName = agent.nodeName) {p : ℕ × TopologyObject} (hp : s.stored = some p)
    (hmanaged : Managed agent p.2) (hpos : 1 ≤ p.2.spec.observedGeneration) :
    Publishes agent d.1 (if p.2.spec.content = d.1.content then p.2.spec.observedGeneration
      else nextGeneration p.2.spec.observedGeneration) (reconcileAlone agent s d) := by
  obtain ⟨hcontent, hgeneration⟩ := spec_updateObject agent d.1 (d.2 0) p.2
  rw [reconcileAlone_owned hnode hp hmanaged]
  refine ⟨_, rfl, ?_, hcontent, hgeneration, ?_⟩
  · exact managed_updated agent d.1 (d.2 0) p.2
  · split_ifs
    · exact hpos
    · exact one_le_nextGeneration _

theorem exists_publishes [RetryLoop] [RetriesConflicts] {agent : Agent} {s : Slot TopologyObject}
    (h : Owned agent s) (d : Finding) (hnode : d.1.nodeName = agent.nodeName) :
    ∃ g, Publishes agent d.1 g (reconcileAlone agent s d) := by
  cases hp : s.stored with
  | none =>
      refine ⟨1, ?_⟩
      rw [reconcileAlone_absent hnode hp]
      exact ⟨_, rfl, managed_stamp agent (d.2 0) (unmarked agent d.1), rfl, rfl,
        le_rfl⟩
  | some p => exact ⟨_, publishes_step hnode hp (h p hp).1 (h p hp).2⟩

/-- The `observedGeneration` of the stored object. -/
def observedGeneration (s : Slot TopologyObject) : ℤ :=
  (s.stored.map fun p => p.2.spec.observedGeneration).getD 0

theorem Publishes.observedGeneration_eq {agent : Agent} {spec : TopologySpec} {g : ℤ}
    {s : Slot TopologyObject} (h : Publishes agent spec g s) : observedGeneration s = g := by
  obtain ⟨p, hp, _, _, hg, _⟩ := h
  rw [observedGeneration, hp]
  exact hg

/-- The generation stays for the same content and advances by one for another, as long as there
is a next one. -/
def TellsChange (previous current : TopologySpec) (before after : ℤ) : Prop :=
  (previous.content = current.content → after = before) ∧
    (previous.content ≠ current.content → before < 2 ^ 63 - 1 → after = before + 1)

/-- The agent on its own, from one finding to the next. -/
theorem tellsChange_iff [RetryLoop] [RetriesConflicts] {agent : Agent} {s : Slot TopologyObject}
    {previous : TopologySpec} {g : ℤ} (h : Publishes agent previous g s) {d : Finding} (hnode : d.1.nodeName = agent.nodeName)
    (hlinks : d.1.links ≠ none) :
    TellsChange previous d.1 g (observedGeneration (reconcileAlone agent s d)) ↔
      (previous.content = d.1.content → d.1.links ≠ some []) := by
  obtain ⟨p, hp, hmanaged, hcontent, rfl, hpos⟩ := h
  have hstep := (publishes_step hnode hp hmanaged hpos).observedGeneration_eq
  rw [hcontent] at hstep
  simp only [decoded_content_eq_iff hlinks] at hstep
  rw [hstep]
  unfold TellsChange
  by_cases hsame : previous.content = d.1.content
  · by_cases hempty : d.1.links = some []
    · simp [hsame, hempty, nextGeneration_ne]
    · simp [hsame, hempty]
  · simp only [hsame, false_and, if_false]
    simpa [hsame] using nextGeneration_of_lt hpos

theorem owned_run [RetryLoop] [RetriesConflicts] (agent : Agent) (start : Slot TopologyObject)
    (hstart : Owned agent start) (past : List Finding) (hnodes : ∀ d ∈ past, d.1.nodeName = agent.nodeName) :
    Owned agent (Runs.run (reconcileAlone agent) start past) := by
  have hstep : ∀ s (d : Finding), Owned agent s → d.1.nodeName = agent.nodeName →
      Owned agent (reconcileAlone agent s d) := by
    intro s d hs hnode
    obtain ⟨g, hpublishes⟩ := exists_publishes hs d hnode
    exact hpublishes.owned
  exact Runs.invariant_run (Owned agent) hstep past start hstart
    (Runs.along_of_forall past start hnodes)

/-- **When `observedGeneration` tells a change.**  After any `Reconcile` calls of an agent on an
object of its own, the last of them leaves the generation alone for the same findings as the one
before and advances it by one for others, exactly if it did not find a single device twice. -/
theorem observedGeneration_exact_iff [Csv] [RetryLoop] [RetriesConflicts] (provider : Provider)
    (nodeName : String) (start : Slot TopologyObject) (past : List Finding) (previous current : Finding)
    (hstart : Owned ⟨nodeName, provider.name⟩ start)
    (hdiscovers : ∀ d ∈ past ++ [previous, current], Discovers provider nodeName d.1) :
    TellsChange previous.1 current.1
        (observedGeneration (Runs.run (reconcileAlone ⟨nodeName, provider.name⟩) start
          (past ++ [previous])))
        (observedGeneration (Runs.run (reconcileAlone ⟨nodeName, provider.name⟩) start
          (past ++ [previous] ++ [current]))) ↔
      (previous.1.content = current.1.content → current.1.deviceCount ≠ 1) := by
  have hnodes : ∀ d ∈ past ++ [previous, current], d.1.nodeName = nodeName :=
    fun d hd => nodeName_of_discovers (hdiscovers d hd)
  have howned := owned_run ⟨nodeName, provider.name⟩ start hstart past
    fun d hd => hnodes d (List.mem_append_left _ hd)
  obtain ⟨g, hpublishes⟩ := exists_publishes howned previous (hnodes previous (by simp))
  obtain ⟨hnil, hempty⟩ := links_eq_empty_iff (hdiscovers current (by simp))
  rw [Runs.run_concat _ (past ++ [previous]), Runs.run_concat, hpublishes.observedGeneration_eq,
    tellsChange_iff hpublishes (hnodes current (by simp)) hnil, Ne, hempty]

theorem owned_empty (agent : Agent) : Owned agent Slot.empty := by
  intro p hp
  cases hp

/-- The fixture of a node, found twice. -/
theorem observedGeneration_exact_on_fixture :
    let : Csv := sampleCsv
    let : RetryLoop := sampleRetry
    ∃ spec, discoverFixture "accelerator-fabric-worker" = .ok spec ∧
      TellsChange spec spec
        (observedGeneration (Runs.run
          (reconcileAlone ⟨"accelerator-fabric-worker", Provider.fixture.name⟩) Slot.empty
          ([] ++ [(spec, fun _ => "")])))
        (observedGeneration (Runs.run
          (reconcileAlone ⟨"accelerator-fabric-worker", Provider.fixture.name⟩) Slot.empty
          ([] ++ [(spec, fun _ => "")] ++ [(spec, fun _ => "")]))) := by
  intro csv retry
  obtain ⟨spec, hspec, hcount⟩ : ∃ spec, discoverFixture "accelerator-fabric-worker" = .ok spec ∧
      spec.deviceCount ≠ 1 := ⟨_, rfl, by decide +kernel⟩
  refine ⟨spec, hspec, (observedGeneration_exact_iff .fixture _ Slot.empty [] (spec, fun _ => "")
    (spec, fun _ => "") (owned_empty _) ?_).mpr fun _ => hcount⟩
  intro d hd
  simp only [List.nil_append, List.mem_cons, List.not_mem_nil, or_false, or_self] at hd
  rw [hd]
  exact hspec

theorem discovers_singleGPU :
    let : Csv := sampleCsv
    discoverNVIDIA (.ok "0, 00000000:17:00.0, NVIDIA H100, 81559\n")
      (.ok "        GPU0 CPU Affinity\nGPU0   X    0-31\n") "worker" = .ok singleGPU := by
  decide +kernel

/-- The same single device found twice is taken for a change, since its empty list of links is
read back as nil. -/
theorem single_device_advances_generation :
    ¬ ∀ (_ : Csv) (_ : RetryLoop) (_ : RetriesConflicts) (provider : Provider) (nodeName : String)
      (start : Slot TopologyObject) (past : List Finding) (previous current : Finding),
      Owned ⟨nodeName, provider.name⟩ start →
      (∀ d ∈ past ++ [previous, current], Discovers provider nodeName d.1) →
        TellsChange previous.1 current.1
          (observedGeneration (Runs.run (reconcileAlone ⟨nodeName, provider.name⟩) start
            (past ++ [previous])))
          (observedGeneration (Runs.run (reconcileAlone ⟨nodeName, provider.name⟩) start
            (past ++ [previous] ++ [current]))) := by
  intro h
  have htells := h sampleCsv sampleRetry inferInstance .nvidia "worker" Slot.empty []
    (singleGPU, fun _ => "") (singleGPU, fun _ => "") (owned_empty _) ?_
  · have hsame := htells.1 rfl
    revert hsame
    decide +kernel
  · intro d hd
    simp only [List.nil_append, List.mem_cons, List.not_mem_nil, or_false, or_self] at hd
    rw [hd]
    exact ⟨_, _, discovers_singleGPU⟩

end AcceleratorFabric.Discovery
