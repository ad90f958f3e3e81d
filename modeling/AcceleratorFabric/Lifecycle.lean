import AcceleratorFabric.Hooks
import AcceleratorFabric.Runs

/-! # The scheduling cycle

The framework runs every pod through `PreFilter`, `Reserve` and, later, `Unreserve` or
`PostBind`, with the cycles of different pods and the informer's events interleaved.  `World`
holds the plugin and the phase of every pod's cycle.  `Reserve` is two steps, its read of the
topology cache and its call of the ledger, because other hooks can run between them.

* `World.run_invariant_of_roots`: the ledger holds exactly the pods whose `Reserve` succeeded on a Ready
  topology and that are still in flight, and every reservation was made as its policy demands.
* `Plugin.preBind_after_reserve_iff`: when `PreBind` honours a successful `Reserve`. -/

namespace AcceleratorFabric.TopologyFit

open GoMap GoText AcceleratorFabric.Topology

section world

variable [Kube]

/-! ### Phases and steps -/

/-- What `Reserve` has read before it calls the ledger: an active pod's data and the snapshot
of a node that is Ready in the plugin it saw. -/
structure Reading where
  seen : Plugin
  data : CycleData
  nodeName : String
  snapshot : Snapshot
  active : data.active = true
  ready : readTopology seen.store nodeName seen.now seen.cacheTTL = .ok snapshot

/-- A reservation's origin: the reading it was made from and the ledger just before. -/
structure Made where
  reading : Reading
  before : ReservationLedger

/-- Where a pod's cycle stands. -/
inductive Phase where
  /-- no cycle, or the last one has ended -/
  | idle
  /-- `PreFilter` has succeeded -/
  | filtered (state : CycleState)
  /-- `Reserve` has read the cache and not yet called the ledger -/
  | selecting (reading : Reading)
  /-- `Reserve` has succeeded without a reservation -/
  | neutral (state : CycleState)
  /-- `Reserve` has succeeded with a reservation -/
  | holding (made : Made)
  /-- `Reserve` has failed -/
  | refused (state : CycleState)

/-- The cycle state with which `Unreserve` is called, when it can be. -/
def Phase.unreserveState : Phase → Option CycleState
  | .idle => none
  | .filtered state => some state
  | .selecting _ => none
  | .neutral state => some state
  | .holding made => some (.stored made.reading.data)
  | .refused state => some state

/-- The cycle state with which `PostBind` is called, when it can be. -/
def Phase.postBindState : Phase → Option CycleState
  | .neutral state => some state
  | .holding made => some (.stored made.reading.data)
  | _ => none

/-- The first half of `Reserve`. -/
def Plugin.startReserve (p : Plugin) (state : CycleState) (nodeName : String) : Phase :=
  match readCycleData state with
  | .error _ => .refused state
  | .ok data =>
      if hactive : data.active = true then
        match hread : readTopology p.store nodeName p.now p.cacheTTL with
        | .error availability =>
            match reserveUnavailable data nodeName availability with
            | none => .neutral state
            | some _ => .refused state
        | .ok snapshot => .selecting ⟨p, data, nodeName, snapshot, hactive, hread⟩
      else .neutral state

/-- The plugin and the phase of every pod key. -/
structure World where
  plugin : Plugin
  phase : String → Phase

inductive CycleEvent where
  | preFilter (pod : Pod)
  | reserveRead (podKey nodeName : String)
  | reserveCommit (podKey : String)
  | unreserve (podKey : String)
  | postBind (podKey : String)
  | policies (lister : PolicyLister)
  | topology (event : Topology.Event)
  | tick (now : Time)

namespace World

def start (store : Store) (lister : PolicyLister) (now : Time) : World :=
  ⟨newPlugin store lister now, fun _ => .idle⟩

def setPhase (w : World) (podKey : String) (phase : Phase) : World :=
  { w with phase := Function.update w.phase podKey phase }

/-- A new cycle, unless the pod is in the middle of one. -/
def preFilterStep (w : World) (pod : Pod) : World :=
  let next := match TopologyFit.preFilter w.plugin.policyLister (some pod) with
    | .error _ => .idle
    | .ok data => .filtered (.stored data)
  match w.phase (podKey (some pod)) with
  | .idle => w.setPhase (podKey (some pod)) next
  | .filtered _ => w.setPhase (podKey (some pod)) next
  | _ => w

/-- The second half of `Reserve`. -/
def commitStep (w : World) (podKey : String) (reading : Reading) : World :=
  match w.plugin.reserveOn reading.data reading.nodeName reading.snapshot with
  | (none, plugin) =>
      ⟨plugin, Function.update w.phase podKey (.holding ⟨reading, w.plugin.ledger⟩)⟩
  | (some _, plugin) => ⟨plugin, Function.update w.phase podKey (.refused (.stored reading.data))⟩

/-- The end of a cycle, by `Unreserve` or `PostBind` with the given cycle state. -/
def endStep (w : World) (podKey : String) : Option CycleState → World
  | none => w
  | some state =>
      ⟨w.plugin.releaseReservation state, Function.update w.phase podKey .idle⟩

/-- One step; an event that the framework does not allow in the pod's phase changes nothing. -/
def step (w : World) : CycleEvent → World
  | .preFilter pod => w.preFilterStep pod
  | .reserveRead podKey nodeName =>
      match w.phase podKey with
      | .filtered state => w.setPhase podKey (w.plugin.startReserve state nodeName)
      | _ => w
  | .reserveCommit podKey =>
      match w.phase podKey with
      | .selecting reading => w.commitStep podKey reading
      | _ => w
  | .unreserve podKey => w.endStep podKey (w.phase podKey).unreserveState
  | .postBind podKey => w.endStep podKey (w.phase podKey).postBindState
  | .policies lister => { w with plugin := { w.plugin with policyLister := some lister } }
  | .topology event => { w with plugin := { w.plugin with store := (handle w.plugin.store event).1 } }
  | .tick now => { w with plugin := { w.plugin with now := now } }

end World

theorem Plugin.releaseReservation_cases (p : Plugin) (state : CycleState) :
    (∃ data, readCycleData state = .ok data ∧ data.active = true ∧
      p.releaseReservation state = p.withLedger (p.ledger.release data.podKey)) ∨
    (p.releaseReservation state = p ∧
      ∀ data, readCycleData state = .ok data → data.active = false) := by
  unfold Plugin.releaseReservation
  cases hdata : readCycleData state with
  | error status => exact .inr ⟨rfl, fun _ e => by cases e⟩
  | ok data =>
      simp only
      cases hactive : data.active with
      | true => exact .inl ⟨data, rfl, hactive, rfl⟩
      | false =>
          refine .inr ⟨rfl, ?_⟩
          intro d hd
          cases hd
          exact hactive

/-- `Reserve` is its two halves. -/
theorem Plugin.reserve_eq_halves (p : Plugin) (state : CycleState) (nodeName : String) :
    (∃ reading, readCycleData state = .ok reading.data ∧
      p.startReserve state nodeName = .selecting reading ∧
      p.reserve state nodeName = p.reserveOn reading.data reading.nodeName reading.snapshot) ∨
    (p.startReserve state nodeName = .neutral state ∧ p.reserve state nodeName = (none, p)) ∨
    (p.startReserve state nodeName = .refused state ∧
      ∃ status, p.reserve state nodeName = (some status, p)) := by
  unfold Plugin.startReserve Plugin.reserve
  cases hdata : readCycleData state with
  | error status => exact .inr (.inr ⟨rfl, status, rfl⟩)
  | ok data =>
      simp only
      by_cases hactive : data.active = true
      · rw [dif_pos hactive, if_neg (by simp [hactive])]
        split
        · next availability hread =>
            rw [hread]
            simp only
            cases hres : reserveUnavailable data nodeName availability with
            | none => exact .inr (.inl ⟨rfl, rfl⟩)
            | some status => exact .inr (.inr ⟨rfl, status, rfl⟩)
        · next snapshot hread =>
            refine .inl ⟨⟨p, data, nodeName, snapshot, hactive, hread⟩, rfl, rfl, ?_⟩
            simp only [hread]
      · rw [dif_neg hactive, if_pos (by simpa using hactive)]
        exact .inr (.inl ⟨rfl, rfl⟩)

/-! ### Reservations as they are made -/

/-- What a reservation has to be at the moment it is made, for the pod with the given key: the
requested number of distinct devices that are eligible in the snapshot, not held by another pod
on the node, and arranged as the topology mode demands. -/
structure Made.Correct (made : Made) (podKey : String) (r : Reservation) : Prop where
  podKey_eq : made.reading.data.podKey = podKey
  nodeName_eq : r.nodeName = made.reading.nodeName
  count : (r.deviceIDs.length : ℤ) = made.reading.data.requested
  distinct : r.deviceIDs.Nodup
  eligible : ∀ id ∈ r.deviceIDs, ∃ d ∈ made.reading.snapshot.devices, d.id = id ∧
    IsEligible made.reading.data d
  unowned : ∀ q s, q ≠ podKey → made.before.byPod.lookup q = some s →
    s.nodeName = made.reading.nodeName → ∀ id ∈ r.deviceIDs, id ∉ s.deviceIDs
  mode : SatisfiesMode made.reading.snapshot made.reading.data.policy r.deviceIDs

/-- A device that another pod holds on the node is not available. -/
theorem not_mem_of_available {ledger : ReservationLedger} (hl : ledger.Consistent)
    {data : CycleData} {snapshot : Snapshot} {nodeName q : String} {s : Reservation}
    (hq : q ≠ data.podKey) (hs : ledger.byPod.lookup q = some s) (hn : s.nodeName = nodeName)
    {d : AcceleratorDevice} (hd : d ∈ availableDevices snapshot data ledger nodeName) :
    d.id ∉ s.deviceIDs := by
  intro hmem
  have hfree := (mem_excludeReservedDevices.mp hd).2
  apply hfree
  have howner : ledger.owner nodeName d.id = some q :=
    (hl.indexes (nodeName, d.id) q).mpr ⟨s, hs, hn, hmem⟩
  unfold ReservationLedger.reservedDeviceIDs
  rw [mem_keysWhere]
  rw [ledger.owner_eq] at howner
  exact ⟨q, howner, decide_eq_true hq⟩

/-- **A non-empty selection makes a correct reservation.** -/
theorem Made.correct_of_selection {reading : Reading} {p : Plugin} (hl : p.ledger.Consistent)
    (hroots : RootsApart reading.data.policy
      (availableDevices reading.snapshot reading.data p.ledger reading.nodeName))
    (hne : p.selection reading.data reading.nodeName reading.snapshot ≠ []) :
    Made.Correct ⟨reading, p.ledger⟩ reading.data.podKey ⟨reading.data.podKey, reading.nodeName,
      p.selection reading.data reading.nodeName reading.snapshot⟩ := by
  have hsub : (availableDevices reading.snapshot reading.data p.ledger reading.nodeName).Sublist
      reading.snapshot.devices := availableDevices_sublist _ _ _
  have hdrawn := selectDeviceIDs_drawn ((hsub.map _).nodup reading.snapshot.ids_nodup) rfl hne
  refine ⟨rfl, rfl, ?_, hdrawn.nodup, ?_, ?_, selectDeviceIDs_mode hsub hroots rfl hne⟩
  · have hlen := hdrawn.length_eq
    have hpos := List.length_pos_iff.mpr hne
    unfold Plugin.selection at hpos ⊢
    simp only
    omega
  · intro id hid
    obtain ⟨d, hd, rfl⟩ := List.mem_map.mp (hdrawn.subset hid)
    obtain ⟨hd', helig⟩ := List.mem_filter.mp (mem_excludeReservedDevices.mp hd).1
    exact ⟨d, hd', rfl, (eligible_iff _ d).mp helig⟩
  · intro q s hq hs hn id hid
    obtain ⟨d, hd, rfl⟩ := List.mem_map.mp (hdrawn.subset hid)
    exact not_mem_of_available hl hq hs hn hd

/-! ### The invariant -/

/-- The data of the state, if it is active, carries the pod's key. -/
def KeyedState (podKey : String) (state : CycleState) : Prop :=
  ∀ data, readCycleData state = .ok data → data.active = true → data.podKey = podKey

def Phase.Keyed (podKey : String) : Phase → Prop
  | .idle => True
  | .filtered state => KeyedState podKey state
  | .selecting reading => reading.data.podKey = podKey
  | .neutral state => KeyedState podKey state
  | .holding made => made.reading.data.podKey = podKey
  | .refused state => KeyedState podKey state

/-- In same-PCIe-root mode with unknown roots allowed, no available device's root reads like
the key of the devices without one. -/
def Phase.RootsKnown (ledger : ReservationLedger) : Phase → Prop
  | .selecting reading => RootsApart reading.data.policy
      (availableDevices reading.snapshot reading.data ledger reading.nodeName)
  | _ => True

instance (ledger : ReservationLedger) : (phase : Phase) → Decidable (phase.RootsKnown ledger)
  | .selecting _ => inferInstanceAs (Decidable (RootsApart _ _))
  | .idle => isTrue trivial
  | .filtered _ => isTrue trivial
  | .neutral _ => isTrue trivial
  | .holding _ => isTrue trivial
  | .refused _ => isTrue trivial

namespace World

/-- Every phase belongs to its pod, the pods that hold nothing have no reservation and the
others hold one that was made correctly. -/
structure Invariant (w : World) : Prop where
  consistent : w.plugin.ledger.Consistent
  keyed : ∀ key, (w.phase key).Keyed key
  free : ∀ key, (∀ made, w.phase key ≠ .holding made) → w.plugin.ledger.byPod.lookup key = none
  held : ∀ key made, w.phase key = .holding made →
    ∃ r, w.plugin.ledger.byPod.lookup key = some r ∧ made.Correct key r

variable {w : World}

theorem invariant_start (store : Store) (lister : PolicyLister) (now : Time) :
    (start store lister now).Invariant where
  consistent := ReservationLedger.consistent_new
  keyed := fun _ => trivial
  free := fun _ _ => rfl
  held := by
    intro key made h
    cases h

/-- The ledger is all that matters of the plugin. -/
theorem Invariant.withPlugin (h : w.Invariant) {plugin : Plugin}
    (hledger : plugin.ledger = w.plugin.ledger) : Invariant ⟨plugin, w.phase⟩ := by
  refine ⟨?_, h.keyed, ?_, ?_⟩
  · simp only
    rw [hledger]
    exact h.consistent
  · simp only
    rw [hledger]
    exact h.free
  · simp only
    rw [hledger]
    exact h.held

/-- A pod without a reservation moves to another phase without one. -/
theorem Invariant.setPhase (h : w.Invariant) {key : String} {next : Phase}
    (hold : ∀ made, w.phase key ≠ .holding made) (hnew : ∀ made, next ≠ .holding made)
    (hkeyed : next.Keyed key) : (w.setPhase key next).Invariant := by
  refine ⟨h.consistent, ?_, ?_, ?_⟩
  · intro q
    simp only [World.setPhase]
    rcases eq_or_ne q key with rfl | hq
    · rw [Function.update_self]
      exact hkeyed
    · rw [Function.update_of_ne hq]
      exact h.keyed q
  · intro q hfree
    simp only [World.setPhase] at hfree ⊢
    rcases eq_or_ne q key with rfl | hq
    · exact h.free q hold
    · rw [Function.update_of_ne hq] at hfree
      exact h.free q hfree
  · intro q made hq'
    simp only [World.setPhase] at hq' ⊢
    rcases eq_or_ne q key with rfl | hq
    · rw [Function.update_self] at hq'
      exact absurd hq' (hnew made)
    · rw [Function.update_of_ne hq] at hq'
      exact h.held q made hq'

/-- A pod without a reservation gets one. -/
theorem Invariant.hold (h : w.Invariant) {key : String} {made : Made} {plugin : Plugin}
    {r : Reservation} (hcons : plugin.ledger.Consistent)
    (hlookup : ∀ q, plugin.ledger.byPod.lookup q =
      if q = key then some r else w.plugin.ledger.byPod.lookup q)
    (hkey : made.reading.data.podKey = key) (hcorrect : made.Correct key r) :
    Invariant ⟨plugin, Function.update w.phase key (.holding made)⟩ := by
  refine ⟨hcons, ?_, ?_, ?_⟩
  · intro q
    simp only
    rcases eq_or_ne q key with rfl | hq
    · rw [Function.update_self]
      exact hkey
    · rw [Function.update_of_ne hq]
      exact h.keyed q
  · intro q hfree
    simp only at hfree ⊢
    rcases eq_or_ne q key with rfl | hq
    · rw [Function.update_self] at hfree
      exact absurd rfl (hfree made)
    · rw [Function.update_of_ne hq] at hfree
      rw [hlookup, if_neg hq]
      exact h.free q hfree
  · intro q m hm
    simp only at hm ⊢
    rw [hlookup]
    rcases eq_or_ne q key with rfl | hq
    · rw [Function.update_self] at hm
      cases hm
      exact ⟨r, if_pos rfl, hcorrect⟩
    · rw [Function.update_of_ne hq] at hm
      rw [if_neg hq]
      exact h.held q m hm

theorem keyed_preFilter (lister : Option PolicyLister) (pod : Pod) {data : CycleData}
    (h : TopologyFit.preFilter lister (some pod) = .ok data) :
    KeyedState (podKey (some pod)) (.stored data) := by
  intro d hd hactive
  cases hd
  rcases preFilter_cases lister pod with
    ⟨_, he⟩ | ⟨_, _, _, _, he⟩ | ⟨_, _, _, ⟨_, _, _, _, he⟩ | ⟨_, _, _, he⟩⟩
  · rw [h] at he
    cases he
    cases hactive
  · rw [h] at he
    cases he
  · rw [h] at he
    cases he
    rfl
  · rw [h] at he
    cases he

theorem Invariant.preFilterStep (h : w.Invariant) (pod : Pod) :
    (w.preFilterStep pod).Invariant := by
  have hnext : ∀ (hold : ∀ made, w.phase (podKey (some pod)) ≠ .holding made),
      (w.setPhase (podKey (some pod))
        (match TopologyFit.preFilter w.plugin.policyLister (some pod) with
          | .error _ => .idle
          | .ok data => .filtered (.stored data))).Invariant := by
    intro hold
    cases hpre : TopologyFit.preFilter w.plugin.policyLister (some pod) with
    | error status => exact h.setPhase hold (fun _ e => by cases e) trivial
    | ok data => exact h.setPhase hold (fun _ e => by cases e) (keyed_preFilter _ pod hpre)
  unfold World.preFilterStep
  simp only
  split
  · next hphase => exact hnext (fun made e => by rw [hphase] at e; cases e)
  · next state hphase => exact hnext (fun made e => by rw [hphase] at e; cases e)
  · exact h

/-- The first half of `Reserve` holds nothing yet and keeps the pod's key. -/
theorem keyed_startReserve (p : Plugin) {key : String} (nodeName : String) {state : CycleState}
    (h : KeyedState key state) : (p.startReserve state nodeName).Keyed key ∧
      ∀ made, p.startReserve state nodeName ≠ .holding made := by
  rcases p.reserve_eq_halves state nodeName with ⟨reading, hdata, he, _⟩ | ⟨he, _⟩ | ⟨he, _⟩
  · rw [he]
    exact ⟨h reading.data hdata reading.active, fun _ e => by cases e⟩
  · rw [he]
    exact ⟨h, fun _ e => by cases e⟩
  · rw [he]
    exact ⟨h, fun _ e => by cases e⟩

theorem unreserveState_of_postBindState {phase : Phase} {state : CycleState}
    (h : phase.postBindState = some state) : phase.unreserveState = some state := by
  cases phase with
  | neutral s => exact h
  | holding made => exact h
  | idle => cases h
  | filtered s => cases h
  | selecting reading => cases h
  | refused s => cases h

/-- The state with which a cycle ends belongs to the pod, and is active if the pod holds a
reservation. -/
theorem keyed_unreserveState {phase : Phase} {key : String} {state : CycleState}
    (hkeyed : phase.Keyed key) (h : phase.unreserveState = some state) :
    KeyedState key state ∧ ∀ made, phase = .holding made →
      ∃ data, readCycleData state = .ok data ∧ data.active = true := by
  cases phase with
  | idle => cases h
  | selecting reading => cases h
  | filtered s =>
      cases h
      exact ⟨hkeyed, fun _ e => by cases e⟩
  | neutral s =>
      cases h
      exact ⟨hkeyed, fun _ e => by cases e⟩
  | refused s =>
      cases h
      exact ⟨hkeyed, fun _ e => by cases e⟩
  | holding made =>
      cases h
      refine ⟨?_, fun _ _ => ⟨made.reading.data, rfl, made.reading.active⟩⟩
      intro data hdata _
      cases hdata
      exact hkeyed

theorem Invariant.endStep (h : w.Invariant) {key : String} {state : CycleState}
    (hstate : (w.phase key).unreserveState = some state) :
    (w.endStep key (some state)).Invariant := by
  obtain ⟨hkeyed, hactive⟩ := keyed_unreserveState (h.keyed key) hstate
  have hledger : (w.plugin.releaseReservation state).ledger.Consistent ∧
      ∀ q, (w.plugin.releaseReservation state).ledger.byPod.lookup q =
        if q = key then none else w.plugin.ledger.byPod.lookup q := by
    rcases w.plugin.releaseReservation_cases state with ⟨data, hdata, hact, he⟩ | ⟨he, hinactive⟩
    · rw [he, hkeyed data hdata hact]
      exact ⟨h.consistent.release key, fun q => w.plugin.ledger.lookup_release key q⟩
    · -- nothing is released, and nothing was held
      have hfree : w.plugin.ledger.byPod.lookup key = none := by
        apply h.free
        intro made hmade
        obtain ⟨data, hdata, hact⟩ := hactive made hmade
        rw [hinactive data hdata] at hact
        cases hact
      rw [he]
      refine ⟨h.consistent, fun q => ?_⟩
      split_ifs with hq
      · rw [hq, hfree]
      · rfl
  obtain ⟨hcons, hlookup⟩ := hledger
  refine ⟨hcons, ?_, ?_, ?_⟩
  · intro q
    simp only [World.endStep]
    rcases eq_or_ne q key with rfl | hq
    · rw [Function.update_self]
      trivial
    · rw [Function.update_of_ne hq]
      exact h.keyed q
  · intro q hfree
    simp only [World.endStep] at hfree ⊢
    rw [hlookup]
    split_ifs with hq
    · rfl
    · rw [Function.update_of_ne hq] at hfree
      exact h.free q hfree
  · intro q made hmade
    simp only [World.endStep] at hmade ⊢
    rcases eq_or_ne q key with rfl | hq
    · rw [Function.update_self] at hmade
      cases hmade
    · rw [Function.update_of_ne hq] at hmade
      rw [hlookup, if_neg hq]
      exact h.held q made hmade

/-- The condition on the second half of `Reserve`. -/
def RootsKnown (w : World) : CycleEvent → Prop
  | .reserveCommit podKey => (w.phase podKey).RootsKnown w.plugin.ledger
  | _ => True

instance (w : World) : (e : CycleEvent) → Decidable (w.RootsKnown e)
  | .reserveCommit podKey => inferInstanceAs (Decidable ((w.phase podKey).RootsKnown w.plugin.ledger))
  | .preFilter _ => isTrue trivial
  | .reserveRead _ _ => isTrue trivial
  | .unreserve _ => isTrue trivial
  | .postBind _ => isTrue trivial
  | .policies _ => isTrue trivial
  | .topology _ => isTrue trivial
  | .tick _ => isTrue trivial

theorem Invariant.commitStep (h : w.Invariant) {key : String} {reading : Reading}
    (hphase : w.phase key = .selecting reading)
    (hroots : RootsApart reading.data.policy
      (availableDevices reading.snapshot reading.data w.plugin.ledger reading.nodeName)) :
    (w.commitStep key reading).Invariant := by
  have hkey : reading.data.podKey = key := by
    have := h.keyed key
    rw [hphase] at this
    exact this
  have hnot : ∀ made, w.phase key ≠ .holding made := by
    intro made e
    rw [hphase] at e
    cases e
  have hfree : w.plugin.ledger.byPod.lookup reading.data.podKey = none := by
    rw [hkey]
    exact h.free key hnot
  unfold World.commitStep
  rcases Plugin.reserveOn_cases h.consistent reading.snapshot
      (reading.data.keyed reading.active) (nodeName_ne_of_readTopology reading.ready) hfree with
    ⟨hne, he⟩ | ⟨_, status, he⟩
  · have hcons : (w.plugin.reserveOn reading.data reading.nodeName
        reading.snapshot).2.ledger.Consistent := by
      rw [Plugin.ledger_reserveOn]
      exact h.consistent.reserve _ _ _
    have hcorrect := Made.correct_of_selection h.consistent hroots hne
    rw [he] at hcons ⊢
    simp only [hkey] at hcons hcorrect ⊢
    refine h.hold hcons (fun q => ?_) hkey hcorrect
    exact lookup_insert_ite _ _ _ _
  · rw [he]
    have hkeyed : KeyedState key (.stored reading.data) := by
      intro data hdata _
      cases hdata
      exact hkey
    exact h.setPhase hnot (fun _ e => by cases e) hkeyed

/-- **Every step keeps the invariant.** -/
theorem Invariant.step (h : w.Invariant) (e : CycleEvent) (hroots : w.RootsKnown e) :
    (w.step e).Invariant := by
  cases e with
  | preFilter pod => exact h.preFilterStep pod
  | reserveRead key nodeName =>
      simp only [World.step]
      cases hphase : w.phase key with
      | filtered state =>
          have hkeyed : KeyedState key state := by
            have := h.keyed key
            rw [hphase] at this
            exact this
          obtain ⟨hnext, hnot⟩ := keyed_startReserve w.plugin nodeName hkeyed
          exact h.setPhase (fun made e => by rw [hphase] at e; cases e) hnot hnext
      | idle => exact h
      | selecting reading => exact h
      | neutral state => exact h
      | holding made => exact h
      | refused state => exact h
  | reserveCommit key =>
      simp only [World.step]
      have hknown : (w.phase key).RootsKnown w.plugin.ledger := hroots
      cases hphase : w.phase key with
      | selecting reading =>
          rw [hphase] at hknown
          exact h.commitStep hphase hknown
      | idle => exact h
      | filtered state => exact h
      | neutral state => exact h
      | holding made => exact h
      | refused state => exact h
  | unreserve key =>
      simp only [World.step]
      cases hstate : (w.phase key).unreserveState with
      | none => exact h
      | some state => exact h.endStep hstate
  | postBind key =>
      simp only [World.step]
      cases hstate : (w.phase key).postBindState with
      | none => exact h
      | some state => exact h.endStep (unreserveState_of_postBindState hstate)
  | policies lister => exact h.withPlugin rfl
  | topology event => exact h.withPlugin rfl
  | tick now => exact h.withPlugin rfl

/-- The world after a sequence of events on an empty ledger. -/
def run (store : Store) (lister : PolicyLister) (now : Time) (events : List CycleEvent) : World :=
  Runs.run step (start store lister now) events

/-- **The scheduling cycle over whole runs.**  From an empty ledger, with any pods, policies,
topology events and clock readings interleaved, as long as known and unknown PCIe roots are
told apart whenever `Reserve` selects: the ledger's pods are exactly those whose `Reserve` has
succeeded on a Ready topology and whose cycle has not ended, and each reservation was made
correctly. -/
theorem run_invariant_of_roots (store : Store) (lister : PolicyLister) (now : Time)
    (events : List CycleEvent)
    (hroots : Runs.Along step RootsKnown (start store lister now) events) :
    (∀ key, (∃ r, (run store lister now events).plugin.ledger.byPod.lookup key = some r) ↔
      ∃ made, (run store lister now events).phase key = .holding made) ∧
    (∀ key made, (run store lister now events).phase key = .holding made →
      ∃ r, (run store lister now events).plugin.ledger.byPod.lookup key = some r ∧
        made.Correct key r) := by
  have h : (run store lister now events).Invariant :=
    Runs.invariant_run Invariant (fun _ e hw hok => hw.step e hok) events _
      (invariant_start store lister now) hroots
  refine ⟨?_, h.held⟩
  intro key
  constructor
  · rintro ⟨r, hr⟩
    by_contra hnot
    rw [h.free key (fun made e => hnot ⟨made, e⟩)] at hr
    cases hr
  · rintro ⟨made, hmade⟩
    obtain ⟨r, hr, _⟩ := h.held key made hmade
    exact ⟨r, hr⟩

end World

/-- The pod holds a reservation made under the policy from a snapshot with the devices. -/
def Phase.HoldsFrom (policy : AcceleratorPlacementPolicySpec) (devices : List AcceleratorDevice) :
    Phase → Prop
  | .holding made => made.reading.data.policy = policy ∧
      ∀ d ∈ devices, d ∈ made.reading.snapshot.devices
  | _ => False

instance (policy : AcceleratorPlacementPolicySpec) (devices : List AcceleratorDevice) :
    (phase : Phase) → Decidable (phase.HoldsFrom policy devices)
  | .holding _ => inferInstanceAs (Decidable (_ ∧ _))
  | .idle => isFalse id
  | .filtered _ => isFalse id
  | .selecting _ => isFalse id
  | .neutral _ => isFalse id
  | .refused _ => isFalse id

theorem Phase.exists_of_holdsFrom {policy : AcceleratorPlacementPolicySpec}
    {devices : List AcceleratorDevice} {phase : Phase} (h : phase.HoldsFrom policy devices) :
    ∃ made, phase = .holding made ∧ made.reading.data.policy = policy ∧
      ∀ d ∈ devices, d ∈ made.reading.snapshot.devices := by
  cases phase with
  | holding made => exact ⟨made, rfl, h⟩
  | _ => exact h.elim

end world

/-- One pod's cycle up to the end of `Reserve` on the node `worker`. -/
def sampleCycle (pod : Pod) : List CycleEvent :=
  [.preFilter pod, .reserveRead (podKey (some pod)) "worker", .reserveCommit (podKey (some pod))]

/-- A node with two devices without a PCIe root and two of one root. -/
def twoRootDevices : List AcceleratorDevice :=
  [sampleDevice "gpu0", sampleDevice "gpu1", { sampleDevice "gpu2" with pcieRoot := "0000:17" },
    { sampleDevice "gpu3" with pcieRoot := "0000:17" }]

/-- The cycles of two pods whose `Reserve` calls overlap. -/
def overlappingCycles : List CycleEvent :=
  [.preFilter (samplePod "team-a" "job" 2), .preFilter (samplePod "team-b" "job" 2),
    .reserveRead "team-a/job" "worker", .reserveRead "team-b/job" "worker",
    .reserveCommit "team-a/job", .reserveCommit "team-b/job"]

/-- The pods share the node, a root each. -/
def overlapping : @World sampleKube :=
  let : Kube := sampleKube
  World.run (sampleStore twoRootDevices) (fun _ _ => .ok unknownRootPolicy) 1 overlappingCycles

theorem overlapping_roots :
    let : Kube := sampleKube
    Runs.Along World.step World.RootsKnown
      (World.start (sampleStore twoRootDevices) (fun _ _ => .ok unknownRootPolicy) 1)
      overlappingCycles := by
  decide +kernel

theorem overlapping_reserved : ∀ pod ∈ ["team-a/job", "team-b/job"],
    ((@Plugin.ledger sampleKube (@World.plugin sampleKube overlapping)).byPod.lookup pod).isSome =
      true := by
  decide +kernel

theorem World.run_invariant_of_two_cycles :
    let : Kube := sampleKube
    ∀ pod ∈ ["team-a/job", "team-b/job"], ∃ made r, overlapping.phase pod = .holding made ∧
      overlapping.plugin.ledger.byPod.lookup pod = some r ∧ made.Correct pod r := by
  intro kube pod hpod
  obtain ⟨hpods, hmade⟩ := World.run_invariant_of_roots _ _ _ _ overlapping_roots
  obtain ⟨made, hm⟩ := (hpods pod).mp (Option.isSome_iff_exists.mp (overlapping_reserved pod hpod))
  obtain ⟨r, hr, hcorrect⟩ := hmade pod made hm
  exact ⟨made, r, hm, hr, hcorrect⟩

/-- A device whose PCIe root is `~unknown`. -/
def unknownNamedDevice : AcceleratorDevice := { sampleDevice "gpu1" with pcieRoot := "~unknown" }

/-- A pod reserves two devices, one without a root and one whose root is `~unknown`. -/
def mixedRoots : @World sampleKube :=
  let : Kube := sampleKube
  World.run (sampleStore [sampleDevice "gpu0", unknownNamedDevice])
    (fun _ _ => .ok unknownRootPolicy) 1 (sampleCycle (samplePod "team-a" "job" 2))

theorem mixedRoots_phase : @Phase.HoldsFrom sampleKube unknownRootPolicy
    [sampleDevice "gpu0", unknownNamedDevice] (@World.phase sampleKube mixedRoots "team-a/job") := by
  decide +kernel

theorem mixedRoots_ledger :
    (@Plugin.ledger sampleKube (@World.plugin sampleKube mixedRoots)).byPod.lookup "team-a/job" =
      some ⟨"team-a/job", "worker", ["gpu0", "gpu1"]⟩ := by decide +kernel

theorem World.reservation_mixes_roots :
    ¬ ∀ (_ : Kube) (store : Store) (lister : PolicyLister) (now : Time) (events : List CycleEvent)
      (key : String) (made : Made), (World.run store lister now events).phase key = .holding made →
        ∃ r, (World.run store lister now events).plugin.ledger.byPod.lookup key = some r ∧
          made.Correct key r := by
  intro h
  let : Kube := sampleKube
  have hrun : ∀ made, mixedRoots.phase "team-a/job" = .holding made →
      ∃ r, mixedRoots.plugin.ledger.byPod.lookup "team-a/job" = some r ∧
        made.Correct "team-a/job" r := h sampleKube _ _ _ _ "team-a/job"
  obtain ⟨made, hphase, hpolicy, hdevices⟩ := Phase.exists_of_holdsFrom mixedRoots_phase
  obtain ⟨r, hr, hcorrect⟩ := hrun made hphase
  rw [mixedRoots_ledger] at hr
  cases hr
  have hmode := hcorrect.mode
  unfold SatisfiesMode at hmode
  rw [hpolicy] at hmode
  have hroots := (hmode (sampleDevice "gpu0") (hdevices _ (by simp)) unknownNamedDevice
    (hdevices _ (by simp)) (by decide) (by decide)).1
  exact absurd hroots (by decide)

/-! ### PreBind after Reserve -/

section preBind

variable [Kube]

/-- What can happen between a pod's `Reserve` and its `PreBind`. -/
inductive Interference where
  | topology (event : Topology.Event)
  | tick (now : Time)
  | reserve (state : CycleState) (nodeName : String)
  | unreserve (state : CycleState)
  | postBind (state : CycleState)

/-- The hooks called are those of pods with other keys. -/
def Interference.OtherThan (podKey : String) : Interference → Prop
  | .topology _ => True
  | .tick _ => True
  | .reserve state _ => ∀ data, readCycleData state = .ok data → data.active = true →
      data.podKey ≠ podKey
  | .unreserve state => ∀ data, readCycleData state = .ok data → data.active = true →
      data.podKey ≠ podKey
  | .postBind state => ∀ data, readCycleData state = .ok data → data.active = true →
      data.podKey ≠ podKey

namespace Plugin

def interfere (p : Plugin) : Interference → Plugin
  | .topology event => { p with store := (handle p.store event).1 }
  | .tick now => { p with now := now }
  | .reserve state nodeName => (p.reserve state nodeName).2
  | .unreserve state => p.unreserve state
  | .postBind state => p.postBind state

theorem get_releaseReservation_of_other (p : Plugin) {state : CycleState} {key : String}
    (h : ∀ data, readCycleData state = .ok data → data.active = true → data.podKey ≠ key) :
    (p.releaseReservation state).ledger.get key = p.ledger.get key := by
  rcases p.releaseReservation_cases state with ⟨data, hdata, hactive, he⟩ | ⟨he, _⟩
  · rw [he]
    have hne := (h data hdata hactive).symm
    exact (p.ledger.lookup_release data.podKey key).trans (if_neg hne)
  · rw [he]

/-- Other pods' hooks do not touch a pod's reservation. -/
theorem get_interfere (p : Plugin) {i : Interference} {key : String} (h : i.OtherThan key) :
    (p.interfere i).ledger.get key = p.ledger.get key := by
  cases i with
  | topology event => rfl
  | tick now => rfl
  | reserve state nodeName =>
      simp only [interfere]
      rcases p.reserve_eq_halves state nodeName with
        ⟨reading, hdata, _, he⟩ | ⟨_, he⟩ | ⟨_, status, he⟩
      · rw [he, ledger_reserveOn]
        have hne := (h reading.data hdata reading.active).symm
        exact p.ledger.lookup_reserve_of_ne _ _ _ hne
      · rw [he]
      · rw [he]
  | unreserve state => exact p.get_releaseReservation_of_other h
  | postBind state => exact p.get_releaseReservation_of_other h

theorem get_run_interfere (p : Plugin) {key : String} (is : List Interference)
    (h : ∀ i ∈ is, i.OtherThan key) :
    (Runs.run interfere p is).ledger.get key = p.ledger.get key := by
  have hstep : ∀ (q : Plugin) (i : Interference), q.ledger.get key = p.ledger.get key →
      i.OtherThan key → (q.interfere i).ledger.get key = p.ledger.get key := by
    intro q i hq hi
    rw [q.get_interfere hi, hq]
  exact Runs.invariant_run _ hstep is p rfl (Runs.along_of_forall is p h)

/-- `PreBind` of an active pod, from its reservation. -/
theorem preBind_eq_none_iff (p : Plugin) {data : CycleData} (hactive : data.active = true)
    (pod : Option Pod) (nodeName : String) : p.preBind (.stored data) pod nodeName = none ↔
      (∃ r, p.ledger.get data.podKey = some r ∧ r.nodeName = nodeName) ∨
      (p.ledger.get data.podKey = none ∧ data.policy.failurePolicy = .bestEffort ∧
        (p.store.get nodeName p.now p.cacheTTL).availability ≠ .ready) := by
  unfold preBind
  simp only [readCycleData, hactive, Bool.not_true, Bool.false_eq_true, if_false]
  cases hget : p.ledger.get data.podKey with
  | none =>
      simp only
      split_ifs with h
      · simp [h]
      · simp [h]
  | some r =>
      simp only
      split_ifs with h
      · simp [h]
      · simp [not_not.mp h]

/-- A successful `Reserve` read a Ready topology and holds a reservation on the node, or it let
a BestEffort pod pass and changed nothing. -/
theorem reserve_success_cases (p : Plugin) {data : CycleData} (hactive : data.active = true)
    {nodeName : String} (h : (p.reserve (.stored data) nodeName).1 = none) :
    ((p.store.get nodeName p.now p.cacheTTL).availability = .ready ∧
      ∃ r, (p.reserve (.stored data) nodeName).2.ledger.get data.podKey = some r ∧
        r.nodeName = nodeName) ∨
    ((p.store.get nodeName p.now p.cacheTTL).availability ≠ .ready ∧
      data.policy.failurePolicy = .bestEffort ∧ (p.reserve (.stored data) nodeName).2 = p) := by
  rcases readTopology_cases p.store nodeName p.now p.cacheTTL with
    ⟨hready, _, snapshot, hread⟩ | ⟨hnot, hread⟩
  · left
    refine ⟨hready, ?_⟩
    rw [reserve_of_ready hactive hread] at h ⊢
    rw [ledger_reserveOn]
    unfold reserveOn at h
    rcases p.ledger.reserve_cases data.podKey nodeName (some (selector snapshot data)) with
      ⟨e, he⟩ | ⟨r, hr, hn, he⟩ | ⟨_, _, _, _, _, _, _, he⟩
    · rw [he] at h
      cases h
    · rw [he]
      exact ⟨r, hr, hn⟩
    · rw [he]
      exact ⟨_, Finmap.lookup_insert _, rfl⟩
  · right
    have hres : p.reserve (.stored data) nodeName = (reserveUnavailable data nodeName
        (p.store.get nodeName p.now p.cacheTTL).availability, p) := by
      unfold reserve
      simp only [readCycleData, hactive, Bool.not_true, Bool.false_eq_true, if_false, hread]
    rw [hres] at h ⊢
    unfold reserveUnavailable at h
    simp only at h
    split_ifs at h with hbest
    exact ⟨hnot, hbest, rfl⟩

/-- **When `PreBind` honours a successful `Reserve`**, whatever other pods, the informer and
the clock do in between: exactly if `Reserve` read a Ready topology, or the pod already had a
reservation on the node, or it has none and the topology is still not Ready. -/
theorem preBind_after_reserve_iff (p : Plugin) (data : CycleData) (nodeName : String)
    (pod : Option Pod) (is : List Interference) (hactive : data.active = true)
    (hreserve : (p.reserve (.stored data) nodeName).1 = none)
    (hothers : ∀ i ∈ is, i.OtherThan data.podKey) :
    (Runs.run interfere (p.reserve (.stored data) nodeName).2 is).preBind (.stored data) pod
        nodeName = none ↔
      (p.store.get nodeName p.now p.cacheTTL).availability = .ready ∨
      (∃ r, p.ledger.get data.podKey = some r ∧ r.nodeName = nodeName) ∨
      (p.ledger.get data.podKey = none ∧
        ((Runs.run interfere (p.reserve (.stored data) nodeName).2 is).store.get nodeName
          (Runs.run interfere (p.reserve (.stored data) nodeName).2 is).now
          (Runs.run interfere (p.reserve (.stored data) nodeName).2 is).cacheTTL).availability ≠
            .ready) := by
  have hget := get_run_interfere (p.reserve (.stored data) nodeName).2 is hothers
  rw [preBind_eq_none_iff _ hactive, hget]
  rcases p.reserve_success_cases hactive hreserve with ⟨hready, r, hr, hn⟩ | ⟨hnot, hbest, hsame⟩
  · exact ⟨fun _ => .inl hready, fun _ => .inl ⟨r, hr, hn⟩⟩
  · rw [hsame]
    constructor
    · rintro (hr | ⟨hnone, _, hlater⟩)
      · exact .inr (.inl hr)
      · exact .inr (.inr ⟨hnone, hlater⟩)
    · rintro (hready | hr | ⟨hnone, hlater⟩)
      · exact absurd hready hnot
      · exact .inl hr
      · exact .inr ⟨hnone, hbest, hlater⟩

end Plugin

end preBind

/-- A BestEffort pod's data. -/
def bestEffortData : CycleData :=
  activeData (samplePod "team-a" "job" 1) (samplePolicy .bestEffort .bestEffort) "nvidia.com/gpu" 1

theorem Plugin.preBind_after_reserve_on_ready :
    let : Kube := sampleKube
    (Runs.run Plugin.interfere ((samplePlugin [sampleDevice "gpu0"]).reserve (.stored bestEffortData)
      "worker").2 [.tick 2]).preBind (.stored bestEffortData) none "worker" = none := by
  intro kube
  exact (Plugin.preBind_after_reserve_iff (samplePlugin [sampleDevice "gpu0"]) bestEffortData
    "worker" none [.tick 2] rfl (by decide +kernel) (by simp [Interference.OtherThan])).mpr
    (.inl (by decide +kernel))

/-- A BestEffort pod is reserved on a node without a topology; the topology arrives, and
`PreBind` reports a missing reservation. -/
theorem Plugin.preBind_fails_after_recovery :
    ¬ ∀ (_ : Kube) (p : Plugin) (data : CycleData) (nodeName : String) (pod : Option Pod)
      (is : List Interference), validatePolicy data.policy = none → data.active = true →
        p.ledger.Consistent → p.ledger.get data.podKey = none →
        (p.reserve (.stored data) nodeName).1 = none → (∀ i ∈ is, i.OtherThan data.podKey) →
          (Runs.run Plugin.interfere (p.reserve (.stored data) nodeName).2 is).preBind
            (.stored data) pod nodeName = none := by
  intro h
  let : Kube := sampleKube
  let arrival := Topology.Event.add (.topology (sampleTopology 1 (sampleSpec [sampleDevice "gpu0"] [])))
  have hbind := h sampleKube (newPlugin newStore (fun _ _ => .error "not found") 1) bestEffortData
    "worker" none [.topology arrival] (by decide) rfl ReservationLedger.consistent_new rfl
    (by decide +kernel) (by simp [Interference.OtherThan])
  revert hbind
  decide +kernel

end AcceleratorFabric.TopologyFit
