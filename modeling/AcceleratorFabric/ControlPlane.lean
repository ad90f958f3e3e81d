import AcceleratorFabric.DiscoveryAgent
import AcceleratorFabric.InformerHistory
import AcceleratorFabric.Lifecycle

/-! # From discovery to reservations

Every node has an agent, which publishes what its provider finds as the object of the node.  The
topology controller judges that object, the scheduler's informer delivers it to the cache, and the
scheduler reserves devices of what the cache has.  A `Lane` is one node's object with the agent at
work on it, request by request, and all versions the object ever had.  A `Cluster` has a lane for
every node and one scheduler.  The controller and the informer may work on any version of the past,
answers may be lost, and other clients may write labels and delete objects.

* `reservations_were_discovered`: a reservation is made correctly in a graph that one `Reconcile`
  of the agent of that very node has found. -/

namespace AcceleratorFabric.ControlPlane

open GoMap ApiServer Discovery Runs AcceleratorFabric.Topology AcceleratorFabric.TopologyFit
open Topology.Informer (Delivery)

/-! ### The object of a node -/

/-- A version as the controller and the scheduler read it. -/
def view (p : ℕ × TopologyObject) : AcceleratorTopology := p.2.topology p.1

section status

variable {E α : Type}

/-- The requests on the status: an update takes over the status only, and the object is neither
created nor deleted there. -/
def statusRequest : Request AcceleratorTopology E → Request TopologyObject E
  | .update version change => .update version fun old =>
      (change (old.topology version)).map fun new => { old with status := new.status }
  | _ => .get

/-- A client of the status. -/
def statusClient : Prog AcceleratorTopology E α → Prog TopologyObject E α
  | .done a => .done a
  | .call r next => .call (statusRequest r) fun answer =>
      statusClient (next (answer.map fun p => (p.1, view p)))

end status

/-- The object of a node: what is stored, all versions so far, the `Reconcile` at work with what its
provider returned, how the last one ended, everything that was found, and the version that the
scheduler's informer has. -/
structure Lane (E : Type) where
  slot : Slot TopologyObject
  past : List (ℕ × TopologyObject)
  running : Option (Except String TopologySpec × TopologyClient E)
  last : Option (Except String TopologySpec × Except (ReconcileError E) Unit)
  found : List TopologySpec
  seen : Option (ℕ × TopologyObject)

inductive LaneEvent (E : Type) where
  /-- the agent starts a `Reconcile`, unless one is at work -/
  | reconcile (discovered : Except String TopologySpec) (now : ℕ → String)
  /-- its next request is served, or it returns -/
  | proceed (lost : Option Bool)
  /-- the controller's `sync` on a version of its cache -/
  | sync (version : ℕ × TopologyObject) (now : Time) (lost : Option Bool)
  /-- a request of somebody else -/
  | other (r : Request TopologyObject E)

section lanes

variable [Kube] {E : Type}

namespace Lane

def start : Lane E := ⟨Slot.empty, [], none, none, [], none⟩

def write (l : Lane E) (slot : Slot TopologyObject) : Lane E :=
  { l with slot := slot, past := record l.past slot }

/-- The stored object after a `sync`. -/
def synced (l : Lane E) (version : ℕ × TopologyObject) (now : Time) (lost : Option Bool) :
    Slot TopologyObject :=
  ((statusClient (TopologyController.sync (E := E) (.ok (version.1, view version)) now)).run
    [⟨[], lost⟩] l.slot).slot

def step [RetryLoop] (agent : Agent) (l : Lane E) : LaneEvent E → Lane E
  | .reconcile discovered now =>
      match l.running with
      | some _ => l
      | none => { l with
          running := some (discovered, reconcile agent discovered now)
          found := discovered.toOption.toList ++ l.found }
  | .proceed lost =>
      match l.running with
      | none => l
      | some (discovered, .done result) =>
          { l with running := none, last := some (discovered, result) }
      | some (discovered, .call r next) =>
          { l.write (take ⟨[], lost⟩ l.slot r).slot with
            running := some (discovered, next (take ⟨[], lost⟩ l.slot r).answer) }
  | .sync version now lost => l.write (l.synced version now lost)
  | .other r => l.write (serve l.slot r).slot

/-- The request leaves the spec and the generation alone. -/
def Leaves : Request TopologyObject E → Prop
  | .create _ => False
  | .update _ change => ∀ old new, change old = .ok new →
      new.spec = old.spec ∧ new.generation = old.generation
  | _ => True

/-- Only the agent writes the spec, and caches hold versions of the past. -/
def Possible (l : Lane E) : LaneEvent E → Prop
  | .sync version _ _ => version ∈ l.past
  | .other r => Leaves r
  | _ => True

end Lane

end lanes

/-! ### The cluster -/

structure Cluster [Kube] (E : Type) where
  lane : String → Lane E
  scheduler : World

inductive ClusterEvent [Kube] (E : Type) where
  | lane (node : String) (e : LaneEvent E)
  /-- the scheduler's informer gets a version -/
  | deliver (node : String) (version : ℕ × TopologyObject)
  /-- the scheduler's informer finds the object deleted -/
  | remove (node : String) (missed : Bool)
  | schedule (e : CycleEvent)

section cluster

variable [Kube] {E : Type} (provider : String → String)

/-- What the informer hands to its handlers. -/
def delivery (seen : Option (ℕ × TopologyObject)) (version : ℕ × TopologyObject) : Delivery :=
  match seen with
  | none => .added (view version)
  | some old => .updated (view old) (view version)

namespace Cluster

def start (lister : PolicyLister) (now : Time) : Cluster E :=
  ⟨fun _ => Lane.start, World.start newStore lister now⟩

def setLane (c : Cluster E) (node : String) (l : Lane E) : String → Lane E :=
  Function.update c.lane node l

def step [RetryLoop] (c : Cluster E) : ClusterEvent E → Cluster E
  | .lane node e => { c with lane := c.setLane node ((c.lane node).step ⟨node, provider node⟩ e) }
  | .deliver node version =>
      ⟨c.setLane node { c.lane node with seen := some version },
        c.scheduler.step (.topology (delivery (c.lane node).seen version).event)⟩
  | .remove node missed =>
      match (c.lane node).seen with
      | none => c
      | some last => ⟨c.setLane node { c.lane node with seen := none },
          c.scheduler.step (.topology (Delivery.deleted (view last) missed).event)⟩
  | .schedule e => { c with scheduler := c.scheduler.step e }

/-- The cluster after a sequence of events. -/
def after [RetryLoop] (lister : PolicyLister) (now : Time) (events : List (ClusterEvent E)) :
    Cluster E :=
  Runs.run (step provider) (start lister now) events

/-- The informer moves on through the past of an object, and is the only source of topologies;
known and unknown PCIe roots are told apart when the scheduler selects. -/
def Possible (c : Cluster E) : ClusterEvent E → Prop
  | .lane node e => (c.lane node).Possible e
  | .deliver node version =>
      version ∈ (c.lane node).past ∧ ∀ p ∈ (c.lane node).seen, p.1 ≤ version.1
  | .remove _ _ => True
  | .schedule e => (∀ event, e ≠ .topology event) ∧ c.scheduler.RootsKnown e

end Cluster

end cluster

/-! ### What the agent writes -/

/-- The object says what was found on the node, at an `observedGeneration` that `Build` accepts. -/
def Says (node : String) (found : List TopologySpec) (object : TopologyObject) : Prop :=
  1 ≤ object.spec.observedGeneration ∧
    ∃ f ∈ found, f.nodeName = node ∧ object.spec.content = f.decoded.content

section agent

variable {E : Type} {node : String} {found : List TopologySpec} {f : TopologySpec}

theorem Says.mono {found' : List TopologySpec} {object : TopologyObject}
    (h : Says node found object) (hsub : ∀ f ∈ found, f ∈ found') : Says node found' object := by
  obtain ⟨hpos, f, hf, hrest⟩ := h
  exact ⟨hpos, f, hsub f hf, hrest⟩

theorem Says.congr {old new : TopologyObject} (h : Says node found old)
    (hspec : new.spec = old.spec) : Says node found new := by
  unfold Says
  rw [hspec]
  exact h

theorem nodeName_of_content {spec : TopologySpec} (h : spec.content = f.decoded.content) :
    spec.nodeName = f.nodeName :=
  show spec.content.nodeName = f.decoded.content.nodeName by rw [h]

/-- What a reader sees of an object that says what was found. -/
theorem read_of_content {spec : TopologySpec} (h : spec.content = f.decoded.content) :
    spec.read = { f.read with observedGeneration := spec.observedGeneration } := by
  have hnode : spec.nodeName = f.nodeName := nodeName_of_content h
  have hdevices : spec.devices = f.devices :=
    show spec.content.devices = f.decoded.content.devices by rw [h]
  have hlinks : spec.links = f.decoded.links := links_eq_of_content h
  have hnil : f.decoded.links.getD [] = f.links.getD [] := by
    unfold TopologySpec.decoded
    simp only
    split_ifs with hempty
    · rw [hempty]
      rfl
    · rfl
  unfold TopologySpec.read
  rw [hnode, hdevices, hlinks, hnil]

theorem Says.nodeName_eq {object : TopologyObject} (h : Says node found object) :
    object.spec.nodeName = node := by
  obtain ⟨_, f, _, hnode, hcontent⟩ := h
  exact (nodeName_of_content hcontent).trans hnode

theorem says_created (hf : f ∈ found) (hnode : f.nodeName = node) (agent : Agent) (now : String) :
    Says node found (createObject (created agent f now)) :=
  ⟨le_rfl, f, hf, hnode, rfl⟩

theorem says_updated (hf : f ∈ found) (hnode : f.nodeName = node) (agent : Agent) (now : String)
    {current : TopologyObject} (hcurrent : Says node found current) (old : TopologyObject) :
    Says node found (updateObject (updated agent f now current) old) := by
  -- what is written does not depend on what is replaced
  obtain ⟨hcontent, hgeneration⟩ := spec_updateObject agent f now current
  have hsays : Says node found (updateObject (updated agent f now current) current) := by
    refine ⟨?_, f, hf, hnode, hcontent⟩
    rw [hgeneration]
    split_ifs
    · exact hcurrent.1
    · exact one_le_nextGeneration _
  exact hsays.congr rfl

theorem asks_attempt (hf : f ∈ found) (hnode : f.nodeName = node) (agent : Agent) (now : String) :
    (attempt agent f now : TopologyClient E).Asks (Says node found) (Keeps (Says node found)) := by
  refine ⟨trivial, fun answer hanswer => ?_⟩
  cases answer with
  | error e =>
      cases e with
      | notFound => exact ⟨says_created hf hnode agent now, fun _ _ => trivial⟩
      | _ => exact trivial
  | ok p =>
      simp only
      split
      · exact trivial
      · refine ⟨fun old new _ hnew => ?_, fun _ _ => trivial⟩
        rw [← Except.ok.inj hnew]
        exact says_updated hf hnode agent now (hanswer p rfl) old

/-- **Whatever an agent is told, it writes what was found.** -/
theorem asks_reconcile [RetryLoop] [RetriesConflicts] (name : String)
    {discovered : Except String TopologySpec} (hfound : ∀ f, discovered = .ok f → f ∈ found)
    (now : ℕ → String) :
    (reconcile ⟨node, name⟩ discovered now : TopologyClient E).Asks (Says node found)
      (Keeps (Says node found)) := by
  cases discovered with
  | error cause => exact trivial
  | ok f =>
      simp only [reconcile]
      split_ifs with hnode
      · exact trivial
      · exact (RetriesConflicts.retries _ _).asks
          fun n => asks_attempt (hfound f rfl) (not_not.mp hnode) _ (now n)

end agent

/-! ### Lanes -/

section lanes

variable [Kube] {E : Type} {node : String} {l : Lane E}

/-- A `sync` does nothing, or what its request does. -/
theorem synced_cases (l : Lane E) (version : ℕ × TopologyObject) (now : Time)
    (lost : Option Bool) : l.synced version now lost = l.slot ∨
      l.synced version now lost = (serve l.slot (statusRequest (E := E)
        (.update version.1 (TopologyController.updateStatus
          (TopologyController.reported (view version) now))))).slot := by
  simp only [Lane.synced, TopologyController.sync]
  split_ifs
  · exact .inl rfl
  · simp only [finish, statusClient, Prog.run, List.headD_cons]
    cases lost with
    | none => exact .inr rfl
    | some carried => cases carried with
      | true => exact .inr rfl
      | false => exact .inl rfl

omit [Kube] in
theorem keeps_statusUpdate (found : List TopologySpec) (version : ℕ)
    (status : AcceleratorTopologyStatus) : Keeps (Says node found)
      (statusRequest (E := E) (.update version (TopologyController.updateStatus status))) := by
  intro old new hold hnew
  cases hnew
  exact hold.congr rfl

omit [Kube] in
theorem keeps_of_leaves {found : List TopologySpec} {r : Request TopologyObject E}
    (h : Lane.Leaves r) : Keeps (Says node found) r := by
  cases r with
  | create object => exact h.elim
  | update version change => exact fun old new hold hnew => hold.congr (h old new hnew).1
  | get => exact trivial
  | delete => exact trivial

/-- All versions say what was found on the node, and so does whatever the agent will write. -/
structure Lane.Sound (node : String) (l : Lane E) : Prop where
  records : Records (Says node l.found) l.past l.slot
  asks : ∀ discovered client, l.running = some (discovered, client) →
    client.Asks (Says node l.found) (Keeps (Says node l.found))
  seen : ∀ p, l.seen = some p → p ∈ l.past

omit [Kube] in
theorem Lane.sound_start (node : String) : (Lane.start : Lane E).Sound node :=
  ⟨records_empty _, (fun _ _ h => nomatch h), fun _ h => nomatch h⟩

/-- The past is never lost. -/
theorem Lane.past_step [RetryLoop] (agent : Agent) (l : Lane E) (e : LaneEvent E)
    {p : ℕ × TopologyObject} (hp : p ∈ l.past) : p ∈ (l.step agent e).past := by
  have hwrite : ∀ slot, p ∈ (l.write slot).past := fun _ => List.mem_append_right _ hp
  cases e with
  | reconcile discovered now =>
      simp only [Lane.step]
      split <;> exact hp
  | proceed lost =>
      simp only [Lane.step]
      split
      · exact hp
      · exact hp
      · exact hwrite _
  | sync version now lost => exact hwrite _
  | other r => exact hwrite _

theorem Lane.found_step [RetryLoop] (agent : Agent) (l : Lane E) (e : LaneEvent E)
    {f : TopologySpec} :
    f ∈ (l.step agent e).found ↔
      f ∈ l.found ∨ l.running = none ∧ ∃ now, e = .reconcile (.ok f) now := by
  cases e with
  | reconcile discovered now =>
      simp only [Lane.step]
      split
      · next hrunning => simp [hrunning]
      · next hrunning =>
          cases discovered with
          | error cause => simp [Except.toOption]
          | ok g => simp [Except.toOption, hrunning, or_comm, eq_comm]
  | proceed lost =>
      simp only [Lane.step]
      split <;> simp [Lane.write]
  | sync version now lost => simp [Lane.step, Lane.write]
  | other r => simp [Lane.step, Lane.write]

theorem Lane.seen_step [RetryLoop] (agent : Agent) (l : Lane E) (e : LaneEvent E) :
    (l.step agent e).seen = l.seen := by
  cases e with
  | reconcile discovered now =>
      simp only [Lane.step]
      split <;> rfl
  | proceed lost =>
      simp only [Lane.step]
      split <;> rfl
  | sync version now lost => rfl
  | other r => rfl

omit [Kube] in
/-- A request of somebody other than the agent. -/
theorem Lane.Sound.write (h : l.Sound node) {slot : Slot TopologyObject}
    {r : Request TopologyObject E} {effects : List (Effect TopologyObject)} (hcarried : Carried l.slot r slot effects)
    (hr : Keeps (Says node l.found) r) : (l.write slot).Sound node :=
  ⟨h.records.keeps hcarried hr, h.asks, fun p hp => List.mem_append_right _ (h.seen p hp)⟩

theorem Lane.Sound.step [RetryLoop] [RetriesConflicts] (h : l.Sound node) (name : String)
    {e : LaneEvent E} (hpossible : l.Possible e) : (l.step ⟨node, name⟩ e).Sound node := by
  cases e with
  | reconcile discovered now =>
      simp only [Lane.step]
      split
      · exact h
      · refine ⟨h.records.imp fun _ hsays => hsays.mono fun f hf => List.mem_append_right _ hf,
          fun d client hrunning => ?_, h.seen⟩
        cases hrunning
        refine asks_reconcile name (fun f hf => ?_) now
        rw [hf]
        exact List.mem_append_left _ (List.mem_singleton_self f)
  | proceed lost =>
      simp only [Lane.step]
      split
      · exact h
      · exact ⟨h.records, (fun _ _ hrunning => nomatch hrunning), h.seen⟩
      · next discovered r next hrunning =>
          obtain ⟨hr, hnext⟩ := h.asks discovered _ hrunning
          have hwrite := h.write (carried_take ⟨[], lost⟩ l.slot r) hr
          refine ⟨hwrite.records, fun d client hclient => ?_, hwrite.seen⟩
          cases hclient
          refine hnext _ fun p hp => ?_
          obtain ⟨_, htake⟩ := serve_of_take_ok hp
          rw [htake] at hp
          exact h.records.answer hr hp
  | sync version now lost =>
      simp only [Lane.step]
      rcases synced_cases l version now lost with hsame | hserved
      · rw [hsame]
        exact h.write (.nothing .get) trivial
      · rw [hserved]
        exact h.write (carried_serve _ _) (keeps_statusUpdate _ _ _)
  | other r => exact h.write (carried_serve l.slot r) (keeps_of_leaves hpossible)

end lanes

/-! ### Readings of the scheduler -/

section readings

variable [Kube] {w : World}

/-- What a pod's cycle has read of the cache. -/
def reading : Phase → Option Reading
  | .selecting reading => some reading
  | .holding made => some made.reading
  | _ => none

theorem reading_startReserve {p : Plugin} {state : CycleState} {nodeName : String} {r : Reading}
    (h : reading (p.startReserve state nodeName) = some r) :
    readTopology p.store r.nodeName p.now p.cacheTTL = .ok r.snapshot := by
  unfold Plugin.startReserve at h
  split at h
  · cases h
  · split_ifs at h
    · split at h
      · split at h <;> cases h
      · next snapshot hread =>
          cases h
          exact hread
    · cases h

/-- The cycle of one pod moves on. -/
theorem reading_update {phase : String → Phase} {key podKey : String} {next : Phase} {r : Reading}
    (h : reading (Function.update phase key next podKey) = some r) :
    reading (phase podKey) = some r ∨ podKey = key ∧ reading next = some r := by
  by_cases hkey : podKey = key
  · rw [hkey, Function.update_self] at h
    exact .inr ⟨hkey, h⟩
  · rw [Function.update_of_ne hkey] at h
    exact .inl h

/-- A cycle has what it had, or what it reads from the cache now. -/
theorem reading_step {e : CycleEvent} {podKey : String} {r : Reading}
    (h : reading ((w.step e).phase podKey) = some r) : reading (w.phase podKey) = some r ∨
      readTopology w.plugin.store r.nodeName w.plugin.now w.plugin.cacheTTL = .ok r.snapshot := by
  have hended : ∀ {key : String} {state : Option CycleState},
      reading ((w.endStep key state).phase podKey) = some r → reading (w.phase podKey) = some r := by
    intro key state hend
    cases state with
    | none => exact hend
    | some state =>
        rcases reading_update hend with hold | ⟨_, hnone⟩
        · exact hold
        · cases hnone
  cases e with
  | preFilter pod =>
      simp only [World.step, World.preFilterStep] at h
      have hnext : ∀ {next : Phase}, reading next = none →
          reading ((w.setPhase (TopologyFit.podKey (some pod)) next).phase podKey) = some r →
            reading (w.phase podKey) = some r := by
        intro next hnone hset
        rcases reading_update hset with hold | ⟨_, hnew⟩
        · exact hold
        · rw [hnone] at hnew
          cases hnew
      left
      split at h
      · refine hnext ?_ h
        split <;> rfl
      · refine hnext ?_ h
        split <;> rfl
      · exact h
  | reserveRead key nodeName =>
      simp only [World.step] at h
      split at h
      · rcases reading_update h with hold | ⟨_, hnew⟩
        · exact .inl hold
        · exact .inr (reading_startReserve hnew)
      · exact .inl h
  | reserveCommit key =>
      simp only [World.step] at h
      split at h
      · next r' hphase =>
          simp only [World.commitStep] at h
          split at h
          · rcases reading_update h with hold | ⟨rfl, hnew⟩
            · exact .inl hold
            · cases hnew
              rw [hphase]
              exact .inl rfl
          · rcases reading_update h with hold | ⟨_, hnew⟩
            · exact .inl hold
            · cases hnew
      · exact .inl h
  | unreserve key => exact .inl (hended h)
  | postBind key => exact .inl (hended h)
  | policies lister => exact .inl h
  | topology event => exact .inl h
  | tick now => exact .inl h

theorem lookup_of_readTopology {store : Store} {n : String} {now : Time} {ttl : Duration}
    {snapshot : Snapshot} (h : readTopology store n now ttl = .ok snapshot) :
    ∃ r, store.entries.lookup n = some r ∧ r.snapshot = some snapshot := by
  unfold readTopology Store.get at h
  cases hlookup : store.entries.lookup n with
  | none =>
      rw [hlookup] at h
      cases h
  | some r =>
      rw [hlookup] at h
      refine ⟨r, rfl, ?_⟩
      simp only at h
      split at h
      · next hsnapshot =>
          cases h
          split_ifs at hsnapshot
          all_goals exact hsnapshot
      · cases h

theorem store_step {e : CycleEvent} (h : ∀ event, e ≠ .topology event) :
    (w.step e).plugin.store = w.plugin.store := by
  have hended : ∀ (key : String) (state : Option CycleState),
      (w.endStep key state).plugin.store = w.plugin.store := by
    intro key state
    cases state with
    | none => rfl
    | some state =>
        rcases w.plugin.releaseReservation_cases state with ⟨_, _, _, he⟩ | ⟨he, _⟩
        · simp only [World.endStep, he]
          rfl
        · simp only [World.endStep, he]
  cases e with
  | preFilter pod =>
      simp only [World.step, World.preFilterStep]
      split <;> rfl
  | reserveRead key nodeName =>
      simp only [World.step]
      split <;> rfl
  | reserveCommit key =>
      simp only [World.step]
      split
      · next reading _ =>
          have hstore : (w.plugin.reserveOn reading.data reading.nodeName
              reading.snapshot).2.store = w.plugin.store := by
            unfold Plugin.reserveOn
            split <;> rfl
          unfold World.commitStep
          split
          all_goals
            next hreserve =>
              rw [hreserve] at hstore
              exact hstore
      · rfl
  | unreserve key => exact hended key _
  | postBind key => exact hended key _
  | policies lister => rfl
  | topology event => exact absurd rfl (h event)
  | tick now => rfl

end readings

/-! ### The cluster -/

section cluster

variable [Kube] {E : Type} {provider : String → String}

namespace Cluster

variable {c : Cluster E}

/-- The snapshot is that of something the agent of the node has found. -/
def Found (c : Cluster E) (node : String) (snapshot : Snapshot) : Prop :=
  ∃ f ∈ (c.lane node).found, f.nodeName = node ∧
    ∃ g, build { f.read with observedGeneration := g } = .ok snapshot

/-- The entry of a node is that of a version of its object. -/
def Cached (c : Cluster E) (node : String) (entry : Option Result) : Prop :=
  ∀ r, entry = some r → ∃ version ∈ (c.lane node).past, ∃ snapshot,
    build (view version).spec = .ok snapshot ∧ r = resultOf (view version) snapshot

/-- The lanes are sound, the cache is made of their versions, and what the scheduler has read was
found. -/
structure Sound (c : Cluster E) : Prop where
  lane : ∀ node, (c.lane node).Sound node
  cached : ∀ node, c.Cached node (c.scheduler.plugin.store.entries.lookup node)
  read : ∀ podKey r, reading (c.scheduler.phase podKey) = some r → c.Found r.nodeName r.snapshot
  scheduler : c.scheduler.Invariant

theorem sound_start (lister : PolicyLister) (now : Time) : (start lister now : Cluster E).Sound where
  lane := fun node => Lane.sound_start node
  cached := by
    intro node r hr
    simp [start, World.start, newPlugin, newStore] at hr
  read := fun _ _ h => nomatch h
  scheduler := World.invariant_start newStore lister now

theorem Sound.nodeName_eq (h : c.Sound) {node : String} {version : ℕ × TopologyObject}
    (hversion : version ∈ (c.lane node).past) : (view version).spec.nodeName = node :=
  ((h.lane node).records.holds version hversion).nodeName_eq

/-- What is read from the cache was found. -/
theorem Sound.found_of_lookup (h : c.Sound) {node : String} {r : Result} {snapshot : Snapshot}
    (hlookup : c.scheduler.plugin.store.entries.lookup node = some r)
    (hsnapshot : r.snapshot = some snapshot) : c.Found node snapshot := by
  obtain ⟨version, hversion, snapshot', hbuild, rfl⟩ := h.cached node r hlookup
  obtain rfl := Option.some.inj hsnapshot
  obtain ⟨_, f, hf, hnode, hcontent⟩ := (h.lane node).records.holds version hversion
  refine ⟨f, hf, hnode, version.2.spec.observedGeneration, ?_⟩
  rw [← read_of_content hcontent]
  exact hbuild

/-- Nothing that was found is forgotten, and no version of the past. -/
structure Later (c c' : Cluster E) : Prop where
  past : ∀ node, ∀ version ∈ (c.lane node).past, version ∈ (c'.lane node).past
  found : ∀ node, ∀ f ∈ (c.lane node).found, f ∈ (c'.lane node).found

theorem Found.later {c' : Cluster E} {node : String} {snapshot : Snapshot}
    (h : c.Found node snapshot) (hlater : Later c c') : c'.Found node snapshot := by
  obtain ⟨f, hf, hrest⟩ := h
  exact ⟨f, hlater.found node f hf, hrest⟩

theorem Cached.later {c' : Cluster E} {node : String} {entry : Option Result}
    (h : c.Cached node entry) (hlater : Later c c') : c'.Cached node entry := by
  intro r hr
  obtain ⟨version, hversion, hrest⟩ := h r hr
  exact ⟨version, hlater.past node version hversion, hrest⟩

theorem later_setLane (node : String) {l : Lane E}
    (hpast : ∀ version ∈ (c.lane node).past, version ∈ l.past)
    (hfound : ∀ f ∈ (c.lane node).found, f ∈ l.found) (w : World) :
    Later c ⟨c.setLane node l, w⟩ := by
  refine ⟨fun n => ?_, fun n => ?_⟩
  · by_cases hn : n = node
    · rw [hn]
      simp only [setLane, Function.update_self]
      exact hpast
    · simp only [setLane, Function.update_of_ne hn]
      exact fun _ h => h
  · by_cases hn : n = node
    · rw [hn]
      simp only [setLane, Function.update_self]
      exact hfound
    · simp only [setLane, Function.update_of_ne hn]
      exact fun _ h => h

theorem Sound.setLane (h : c.Sound) {node : String} {l : Lane E} (hl : l.Sound node) (n : String) :
    (c.setLane node l n).Sound n := by
  by_cases hn : n = node
  · rw [hn]
    simp only [Cluster.setLane, Function.update_self]
    exact hl
  · simp only [Cluster.setLane, Function.update_of_ne hn]
    exact h.lane n

theorem upsert_of_delivery (store : Store) (seen : Option (ℕ × TopologyObject))
    (version : ℕ × TopologyObject) :
    (handle store (delivery seen version).event).1 = (store.upsert (some (view version))).2 := by
  cases seen with
  | none => exact handle_add store _
  | some old => exact handle_update store _ _

theorem delete_of_removal (store : Store) (last : ℕ × TopologyObject) (missed : Bool) :
    (handle store (Delivery.deleted (view last) missed).event).1 =
      store.delete (view last).spec.nodeName := by
  cases missed <;> rfl

/-- A version is delivered to the entry of its node. -/
theorem Sound.cached_upsert (h : c.Sound) {node : String} {version : ℕ × TopologyObject}
    (hversion : version ∈ (c.lane node).past) (n : String) :
    c.Cached n ((c.scheduler.plugin.store.upsert (some (view version))).2.entries.lookup n) := by
  rcases c.scheduler.plugin.store.upsert_cases (view version) with
    ⟨_, e, hdropped⟩ | ⟨_, _, snapshot, hbuild, _, hentries⟩
  · rw [hdropped]
    exact h.cached n
  · rw [hentries, lookup_insert_ite, h.nodeName_eq hversion]
    split_ifs with hn
    · rintro r ⟨⟩
      rw [hn]
      exact ⟨version, hversion, snapshot, hbuild, rfl⟩
    · exact h.cached n

theorem Sound.step [RetryLoop] [RetriesConflicts] (h : c.Sound) {e : ClusterEvent E}
    (hpossible : c.Possible e) :
    (c.step provider e).Sound := by
  cases e with
  | lane node e =>
      have hlater : Later c (c.step provider (.lane node e)) :=
        later_setLane node (fun _ hp => Lane.past_step _ _ e hp)
          (fun f hf => (Lane.found_step _ _ e).mpr (.inl hf)) _
      exact ⟨h.setLane ((h.lane node).step (provider node) hpossible),
        fun n => (h.cached n).later hlater, fun key r hr => (h.read key r hr).later hlater,
        h.scheduler⟩
  | deliver node version =>
      have hlater : Later c (c.step provider (.deliver node version)) :=
        later_setLane (l := { c.lane node with seen := some version }) node (fun _ hp => hp)
          (fun _ hf => hf) _
      have hlane : Lane.Sound node { c.lane node with seen := some version } := by
        refine ⟨(h.lane node).records, (h.lane node).asks, ?_⟩
        rintro p ⟨⟩
        exact hpossible.1
      refine ⟨h.setLane hlane, fun n => ?_, fun key r hr => (h.read key r hr).later hlater,
        h.scheduler.step (.topology (delivery (c.lane node).seen version).event) trivial⟩
      refine Cached.later ?_ hlater
      simp only [Cluster.step, World.step, upsert_of_delivery]
      exact h.cached_upsert hpossible.1 n
  | remove node missed =>
      simp only [Cluster.step]
      split
      · exact h
      · next last hlast =>
          have hlater : ∀ w, Later c ⟨c.setLane node { c.lane node with seen := none }, w⟩ :=
            later_setLane node (fun _ hp => hp) (fun _ hf => hf)
          have hlane : Lane.Sound node { c.lane node with seen := none } :=
            ⟨(h.lane node).records, (h.lane node).asks, fun _ hp => by cases hp⟩
          refine ⟨h.setLane hlane, fun n => ?_, fun key r hr => (h.read key r hr).later (hlater _),
            h.scheduler.step (.topology (Delivery.deleted (view last) missed).event) trivial⟩
          refine Cached.later ?_ (hlater _)
          simp only [World.step, delete_of_removal, Informer.lookup_delete]
          split_ifs
          · intro r hr
            cases hr
          · exact h.cached n
  | schedule e =>
      refine ⟨h.lane, fun n => ?_, fun key r hr => ?_, h.scheduler.step e hpossible.2⟩
      · simp only [Cluster.step, store_step hpossible.1]
        exact h.cached n
      · rcases reading_step hr with hold | hnew
        · exact h.read key r hold
        · obtain ⟨result, hlookup, hsnapshot⟩ := lookup_of_readTopology hnew
          exact h.found_of_lookup hlookup hsnapshot

/-- What was found, was found by a `Reconcile` of the agent of the node. -/
theorem exists_reconcile_of_found [RetryLoop] {lister : PolicyLister} {now : Time}
    {node : String} {f : TopologySpec} (events : List (ClusterEvent E))
    (h : f ∈ ((after provider lister now events).lane node).found) :
    ∃ now, ClusterEvent.lane node (.reconcile (.ok f) now) ∈ events := by
  induction events using List.reverseRecOn with
  | nil => cases h
  | append_singleton events e ih =>
      rw [after, Runs.run_concat, ← after] at h
      generalize after provider lister now events = c at h ih
      have hold : f ∈ (c.lane node).found →
          ∃ now, ClusterEvent.lane node (.reconcile (.ok f) now) ∈ events ++ [e] := by
        intro hf
        obtain ⟨now, hnow⟩ := ih hf
        exact ⟨now, List.mem_append_left _ hnow⟩
      have hseen : ∀ (m : String) (seen : Option (ℕ × TopologyObject)),
          f ∈ (c.setLane m { c.lane m with seen := seen } node).found → f ∈ (c.lane node).found := by
        intro m seen hf
        by_cases hm : node = m
        · subst hm
          simpa only [setLane, Function.update_self] using hf
        · simpa only [setLane, Function.update_of_ne hm] using hf
      cases e with
      | lane m e =>
          by_cases hm : node = m
          · subst hm
            simp only [step, setLane, Function.update_self] at h
            rcases (Lane.found_step _ _ e).mp h with hf | ⟨_, now, rfl⟩
            · exact hold hf
            · exact ⟨now, by simp⟩
          · simp only [step, setLane, Function.update_of_ne hm] at h
            exact hold h
      | deliver m version => exact hold (hseen m _ h)
      | remove m missed =>
          simp only [step] at h
          split at h
          · exact hold h
          · exact hold (hseen m _ h)
      | schedule e => exact hold h

theorem sound_run [RetryLoop] [RetriesConflicts] (lister : PolicyLister) (now : Time)
    {events : List (ClusterEvent E)}
    (hpossible : Along (step provider) Possible (start lister now) events) :
    (after provider lister now events).Sound :=
  Runs.invariant_run Sound (fun _ _ hc he => hc.step he) events _ (sound_start lister now) hpossible

end Cluster

/-- **From discovery to reservations.**  However the agents, the controller, the informer, the
scheduler and other clients are interleaved, a reservation was made correctly in the snapshot of a
graph that one `Reconcile` of the agent of that node has found. -/
theorem reservations_were_discovered [RetryLoop] [RetriesConflicts] (provider : String → String)
    (lister : PolicyLister) (now : Time) (events : List (ClusterEvent E))
    (hpossible : Along (Cluster.step provider) Cluster.Possible (Cluster.start lister now) events)
    (podKey : String) (r : Reservation)
    (hreserved : (Cluster.after provider lister now events).scheduler.plugin.ledger.get podKey =
      some r) :
    ∃ made : Made, made.Correct podKey r ∧ ∃ f now g,
      ClusterEvent.lane r.nodeName (.reconcile (.ok f) now) ∈ events ∧ f.nodeName = r.nodeName ∧
        build { f.read with observedGeneration := g } = .ok made.reading.snapshot := by
  have hsound := Cluster.sound_run lister now hpossible
  obtain ⟨made, hmade⟩ : ∃ made,
      (Cluster.after provider lister now events).scheduler.phase podKey = .holding made := by
    by_contra hnot
    have hfree := hsound.scheduler.free podKey fun made hmade => hnot ⟨made, hmade⟩
    cases hfree.symm.trans hreserved
  obtain ⟨r', hr', hcorrect⟩ := hsound.scheduler.held podKey made hmade
  obtain rfl := Option.some.inj (hr'.symm.trans hreserved)
  have hread : reading ((Cluster.after provider lister now events).scheduler.phase podKey) =
      some made.reading := by
    rw [hmade]
    rfl
  obtain ⟨f, hf, hnode, g, hbuild⟩ := hsound.read podKey made.reading hread
  rw [← hcorrect.nodeName_eq] at hf hnode
  obtain ⟨at', hevent⟩ := Cluster.exists_reconcile_of_found events hf
  exact ⟨made, hcorrect, f, at', g, hevent, hnode, hbuild⟩

end cluster

/-- One healthy device of the node `worker`. -/
def sampleFinding : TopologySpec where
  nodeName := "worker"
  observedGeneration := 0
  source := .vendor
  devices := some [sampleDevice "gpu0"]
  links := some []

/-- The object that the agent creates, before and after its controller has judged it at the first
minute. -/
def sampleVersions : (ℕ × TopologyObject) × (ℕ × TopologyObject) :=
  let object := createObject (created ⟨"worker", "nvidia"⟩ sampleFinding "")
  ((1, object), (2, { object with status :=
    ⟨[⟨"Ready", .conditionTrue, 1, "ValidTopology", "topology graph passed validation"⟩],
      some 60000000000⟩ }))

/-- A finding is published, judged and delivered. -/
def samplePublication : List (@ClusterEvent sampleKube Empty) :=
  let : Kube := sampleKube
  [.lane "worker" (.reconcile (.ok sampleFinding) fun _ => ""), .lane "worker" (.proceed none),
    .lane "worker" (.proceed none), .lane "worker" (.proceed none),
    .lane "worker" (.sync sampleVersions.1 60000000000 none), .deliver "worker" sampleVersions.2]

/-- A pod reserves the device that was found. -/
theorem reservations_were_discovered_on_worker :
    let : Kube := sampleKube
    ∃ made : Made, made.Correct "team-a/job" ⟨"team-a/job", "worker", ["gpu0"]⟩ ∧
      ∃ (f : TopologySpec) (g : ℤ),
        build { f.read with observedGeneration := g } = .ok made.reading.snapshot := by
  intro kube
  let : RetryLoop := sampleRetry
  let lister : PolicyLister := fun _ _ => .ok (samplePolicy .bestEffort .failClosed)
  let events : List (ClusterEvent Empty) :=
    samplePublication ++ (sampleCycle (samplePod "team-a" "job" 1)).map ClusterEvent.schedule
  have hpossible : Along (Cluster.step fun _ => "nvidia") Cluster.Possible
      (Cluster.start lister 60000000000) events := by
    refine ⟨trivial, trivial, trivial, trivial, ?_, ?_, ⟨(fun _ h => nomatch h), trivial⟩,
      ⟨(fun _ h => nomatch h), trivial⟩, ⟨(fun _ h => nomatch h), by decide +kernel⟩, trivial⟩
    · rw [Cluster.Possible, Lane.Possible]
      decide +kernel
    · rw [Cluster.Possible]
      decide +kernel
  obtain ⟨made, hcorrect, f, _, g, _, _, hbuild⟩ := reservations_were_discovered (fun _ => "nvidia")
    lister 60000000000 events hpossible "team-a/job" ⟨"team-a/job", "worker", ["gpu0"]⟩
    (by decide +kernel)
  exact ⟨made, hcorrect, f, g, hbuild⟩

end AcceleratorFabric.ControlPlane
