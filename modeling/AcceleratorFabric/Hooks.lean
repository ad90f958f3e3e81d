import AcceleratorFabric.Evaluate

/-! # The scheduler plugin

The extension points of `TopologyFit`: `SignPod`, `PreFilter`, `Filter`, `PreScore`, `Score`,
`Reserve`, `Unreserve`, `PreBind` and `PostBind`.  Only the ledger changes under them; the
store is written by the informer.  Metrics and log lines are left out.

* `Plugin.reserve_agrees_with_evaluate`: on a Ready node, `Reserve` records the combination that
  `evaluate` found, and refuses only where `evaluate` does.
* `signed_alike_iff`: two pods with the same signature are treated alike, except that the
  signature does not tell namespaces apart. -/

namespace AcceleratorFabric.TopologyFit

open GoMap GoText AcceleratorFabric.Topology

/-! ### Framework types -/

inductive Code where
  | success
  | error
  | unschedulable
  | unschedulableAndUnresolvable
deriving DecidableEq, Repr

/-- `framework.Status`; the hooks return `none` for a nil status, which is success. -/
structure Status where
  code : Code
  message : String
deriving DecidableEq, Repr

structure SignFragment where
  key : String
  value : String
deriving DecidableEq, Repr

/-- A `resource.Quantity` as the plugin reads it: the results of `Sign` and `Value`. -/
structure Quantity where
  sign : ℤ
  value : ℤ
deriving DecidableEq, Repr

/-- A pod as the plugin reads it.  `requests` are the entries of the map that `PodRequests`
returns, in the order of one iteration. -/
structure Pod where
  uid : String
  namespaceName : String
  name : String
  annotations : GoMap String String
  requests : List (String × Quantity)
  requests_nodup : (requests.map (·.1)).Nodup
deriving DecidableEq

/-- What the plugin finds in a cycle state under its own key. -/
inductive CycleState where
  | nilState
  | unreadable (error : String)
  | unexpected (typeName : String)
  | stored (data : CycleData)
deriving DecidableEq

/-- The policies of a namespace by name; the lister's error is a text. -/
abbrev PolicyLister := String → String → Except String AcceleratorPlacementPolicySpec

def pluginName : String := "TopologyFit"

def policyAnnotation : String := "scheduling.bupt.dev/placement-policy"

def defaultCacheTTL : Duration := 120000000000

/-- `Plugin`; `now` is the current reading of its clock. -/
structure Plugin [Kube] where
  store : Store
  policyLister : Option PolicyLister
  ledger : ReservationLedger
  now : Time
  cacheTTL : Duration

/-- The plugin after a call on its ledger. -/
def Plugin.withLedger [Kube] (p : Plugin) (ledger : ReservationLedger) : Plugin :=
  { p with ledger := ledger }

def newPlugin [Kube] (store : Store) (policyLister : PolicyLister) (now : Time) : Plugin where
  store := store
  policyLister := some policyLister
  ledger := newReservationLedger
  now := now
  cacheTTL := defaultCacheTTL

/-! ### Policies -/

inductive PolicyError where
  | draDeviceCount
  | draTopology
  | vendor (vendor : AcceleratorVendor)
  | negativeConstraint
  | emptyProduct
  | topologyMode (mode : TopologyMode)
  | failurePolicy (policy : FailurePolicy)
  | weights
deriving DecidableEq, Repr

def PolicyError.message [IsPrint] : PolicyError → String
  | draDeviceCount => "DRA device count must be positive"
  | draTopology => "DRA template generation requires known non-connected topology mode"
  | vendor v => "unsupported accelerator vendor " ++ quote v.text
  | negativeConstraint =>
      "placement policy memory, bandwidth, and hop constraints must be non-negative"
  | emptyProduct => "placement policy products cannot contain an empty value"
  | topologyMode m => "unsupported topology mode " ++ quote m.text
  | failurePolicy f => "unsupported failure policy " ++ quote f.text
  | weights => "placement policy weights must be non-negative and sum to 100"

def supportedVendor : AcceleratorVendor → Bool
  | .other _ => false
  | _ => true

def supportedMode : TopologyMode → Bool
  | .other _ => false
  | _ => true

def supportedFailurePolicy : FailurePolicy → Bool
  | .other _ => false
  | _ => true

def validateDRA (spec : AcceleratorPlacementPolicySpec) : Option PolicyError :=
  match spec.dra with
  | none => none
  | some dra =>
      if dra.deviceCount < 1 then some .draDeviceCount
      else if spec.topologyMode = .fabricConnected ∨ spec.allowUnknownTopology = true then
        some .draTopology
      else none

/-- The weights are `int32`, and so is their sum. -/
def validateWeights (weights : ScoreWeights) : Bool :=
  !(weights.locality < 0 || weights.fabric < 0 || weights.fragmentation < 0 ||
    weights.headroom < 0 || wrap32 (weights.locality + weights.fabric + weights.fragmentation +
      weights.headroom) ≠ 100)

def validatePolicy (spec : AcceleratorPlacementPolicySpec) : Option PolicyError :=
  match validateDRA spec with
  | some e => some e
  | none =>
      if !supportedVendor spec.vendor then some (.vendor spec.vendor)
      else if spec.minimumMemoryMiB < 0 ∨ spec.minimumLinkBandwidthGBps < 0 ∨
          spec.maxFabricHops < 0 then some .negativeConstraint
      else if "" ∈ spec.products then some .emptyProduct
      else if !supportedMode spec.topologyMode then some (.topologyMode spec.topologyMode)
      else if !supportedFailurePolicy spec.failurePolicy then
        some (.failurePolicy spec.failurePolicy)
      else if !validateWeights spec.weights then some .weights
      else none

/-! ### Signing and pre-filtering -/

def podKey : Option Pod → String
  | none => ""
  | some pod => if pod.uid ≠ "" then pod.uid else pod.namespaceName ++ "/" ++ pod.name

theorem podKey_ne (pod : Pod) : podKey (some pod) ≠ "" := by
  unfold podKey
  simp only
  split_ifs with h
  · exact h
  · intro he
    have := congrArg String.toList he
    simp at this

/-- The value of the policy annotation; an absent one reads as the empty text. -/
def policyName (pod : Pod) : String := (pod.annotations.lookup policyAnnotation).getD ""

section hooks

variable [Kube]

/-- The positive extended requests, in iteration order. -/
def extendedResourceRequests : Option Pod → List (String × ℤ)
  | none => []
  | some pod => (pod.requests.filter (fun r => Kube.isExtendedResourceName r.1 &&
      decide (0 < r.2.sign))).map (fun r => (r.1, r.2.value))

/-- The fragment for one request. -/
def requestFragment (requests : List (String × ℤ)) (resourceName : String) : SignFragment where
  key := "scheduling.bupt.dev/TopologyFit.request." ++ resourceName
  value := formatInt ((requests.lookup resourceName).getD 0)

def signPod (pod : Option Pod) : List SignFragment :=
  let requests := extendedResourceRequests pod
  let resourceNames := (requests.map (·.1)).insertionSort (· ≤ ·)
  ⟨"scheduling.bupt.dev/TopologyFit.policy", pod.elim "" policyName⟩ ::
    resourceNames.map (requestFragment requests)

/-- The data of a pod that names no policy. -/
def inactiveData : CycleData where
  active := false
  podKey := ""
  policy := ⟨.unset, [], 0, .other "", 0, 0, false, ⟨0, 0, 0, 0⟩, .other "", none⟩
  resourceName := ""
  requested := 0
  scores := ∅
  keyed := fun h => by cases h

/-- The data of an active pod. -/
def activeData (pod : Pod) (policy : AcceleratorPlacementPolicySpec) (resourceName : String)
    (requested : ℤ) : CycleData where
  active := true
  podKey := podKey (some pod)
  policy := policy
  resourceName := resourceName
  requested := requested
  scores := ∅
  keyed := fun _ => podKey_ne pod

/-- The data `PreFilter` writes to the cycle state, or the status it fails with. -/
def preFilter (policyLister : Option PolicyLister) : Option Pod → Except Status CycleData
  | none => .error ⟨.error, "pod is nil"⟩
  | some pod =>
      if policyName pod = "" then .ok inactiveData
      else match policyLister with
        | none => .error ⟨.error, "placement policy lister is unavailable"⟩
        | some lister =>
            match lister pod.namespaceName (policyName pod) with
            | .error err => .error ⟨.unschedulableAndUnresolvable, "placement policy " ++
                pod.namespaceName ++ "/" ++ policyName pod ++ " is unavailable: " ++ err⟩
            | .ok policy =>
                match validatePolicy policy with
                | some e => .error ⟨.unschedulableAndUnresolvable, e.message⟩
                | none =>
                    match extendedResourceRequests (some pod) with
                    | [(resourceName, requested)] =>
                        .ok (activeData pod policy resourceName requested)
                    | requests => .error ⟨.unschedulableAndUnresolvable,
                        "placement policy requires exactly one positive extended resource request, got "
                          ++ formatInt requests.length⟩

def readCycleData : CycleState → Except Status CycleData
  | .nilState => .error ⟨.error, "cycle state is nil"⟩
  | .unreadable err => .error ⟨.error, "read cycle state: " ++ err⟩
  | .unexpected typeName => .error ⟨.error, "unexpected cycle state " ++ typeName⟩
  | .stored data => .ok data

/-! ### Filtering and scoring -/

namespace Plugin

variable (p : Plugin)

def evaluate (data : CycleData) (nodeInfo : Option NodeInfo) : Evaluation :=
  TopologyFit.evaluate (some p.store) p.ledger p.now p.cacheTTL data nodeInfo

def filter (state : CycleState) (nodeInfo : Option NodeInfo) : Option Status :=
  match readCycleData state with
  | .error status => some status
  | .ok data =>
      if !data.active then none
      else
        let result := p.evaluate data nodeInfo
        if result.feasible then none
        else some ⟨.unschedulable, pluginName ++ ": " ++ result.reason⟩

/-- The loop of `PreScore` over the nodes that have one. -/
def preScores (data : CycleData) (nodes : List (Option NodeInfo)) : GoMap String ℤ :=
  nodes.foldl (fun scores nodeInfo =>
    match nodeInfo.bind (·.node) with
    | none => scores
    | some nodeName =>
        let result := p.evaluate data nodeInfo
        if result.feasible then scores.insert nodeName result.score else scores) ∅

def preScore (state : CycleState) (nodes : List (Option NodeInfo)) : Option Status × CycleState :=
  match readCycleData state with
  | .error status => (some status, state)
  | .ok data =>
      if !data.active then (none, state)
      else (none, .stored (data.withScores (p.preScores data nodes)))

def score (state : CycleState) (nodeInfo : Option NodeInfo) : ℤ × Option Status :=
  match readCycleData state with
  | .error status => (minNodeScore, some status)
  | .ok data =>
      if !data.active then (minNodeScore, none)
      else match nodeInfo.bind (·.node) with
        | none => (minNodeScore, some ⟨.error, "node info has no node"⟩)
        | some nodeName =>
            match data.scores.lookup nodeName with
            | some score => (score, none)
            | none =>
                let result := p.evaluate data nodeInfo
                if !result.feasible then (minNodeScore, none) else (result.score, none)

/-! ### Reserving and binding -/

/-- The selector `Reserve` hands to the ledger. -/
def selector (snapshot : Snapshot) (data : CycleData) : Selector := fun blocked =>
  selectDeviceIDs snapshot (excludeReservedDevices (eligibleDevices snapshot data) blocked)
    data.policy data.requested

/-- `Reserve` after it has read the snapshot of a Ready node. -/
def reserveOn (data : CycleData) (nodeName : String) (snapshot : Snapshot) :
    Option Status × Plugin :=
  match p.ledger.reserve data.podKey nodeName (some (selector snapshot data)) with
  | (.error e, ledger) => (some ⟨.unschedulable, pluginName ++ ": reserve device combination on " ++
      quote nodeName ++ ": " ++ e.message⟩, p.withLedger ledger)
  | (.ok _, ledger) => (none, p.withLedger ledger)

/-- `Reserve` on a node whose topology is not Ready. -/
def reserveUnavailable (data : CycleData) (nodeName : String) (availability : Availability) :
    Option Status :=
  if data.policy.failurePolicy = .bestEffort then none
  else some ⟨.unschedulable, pluginName ++ ": topology for node " ++ quote nodeName ++ " is " ++
    availability.text⟩

def reserve (state : CycleState) (nodeName : String) : Option Status × Plugin :=
  match readCycleData state with
  | .error status => (some status, p)
  | .ok data =>
      if !data.active then (none, p)
      else match readTopology p.store nodeName p.now p.cacheTTL with
        | .error availability => (reserveUnavailable data nodeName availability, p)
        | .ok snapshot => p.reserveOn data nodeName snapshot

/-- The common body of `Unreserve` and `PostBind`. -/
def releaseReservation (state : CycleState) : Plugin :=
  match readCycleData state with
  | .error _ => p
  | .ok data =>
      if !data.active then p else p.withLedger (p.ledger.release data.podKey)

def unreserve (state : CycleState) : Plugin := p.releaseReservation state

def postBind (state : CycleState) : Plugin := p.releaseReservation state

def preBind (state : CycleState) (pod : Option Pod) (nodeName : String) : Option Status :=
  match readCycleData state with
  | .error status => some status
  | .ok data =>
      if !data.active then none
      else match p.ledger.get data.podKey with
        | none =>
            if data.policy.failurePolicy = .bestEffort ∧
                (p.store.get nodeName p.now p.cacheTTL).availability ≠ .ready then none
            else some ⟨.error, pluginName ++ ": advisory reservation for pod " ++
              quote (podKey pod) ++ " is missing"⟩
        | some reserved =>
            if reserved.nodeName ≠ nodeName then
              some ⟨.error, pluginName ++ ": reservation node " ++ quote reserved.nodeName ++
                " does not match bind node " ++ quote nodeName⟩
            else none

/-! ### `Reserve` and `evaluate` -/

/-- The devices chosen for a pod on a Ready node, as `evaluate` computes them. -/
def selection (data : CycleData) (nodeName : String) (snapshot : Snapshot) : List String :=
  selectDeviceIDs snapshot (availableDevices snapshot data p.ledger nodeName) data.policy
    data.requested

variable {p}

/-- The devices of a node that other pods reserved are the ones `Reserve` blocks. -/
theorem selector_eq_selection (hl : p.ledger.Consistent) {data : CycleData}
    (hfree : p.ledger.byPod.lookup data.podKey = none) (nodeName : String) (snapshot : Snapshot) :
    selector snapshot data (p.ledger.ownersOn nodeName).keys =
      p.selection data nodeName snapshot := by
  unfold selector selection availableDevices
  rw [reservedDeviceIDs_eq_keys hl hfree nodeName]

theorem checkSelection_selector (ledger : ReservationLedger) (data : CycleData)
    (nodeName : String) (snapshot : Snapshot)
    (hne : selector snapshot data (ledger.ownersOn nodeName).keys ≠ []) :
    checkSelection (ledger.ownersOn nodeName) nodeName []
      (selector snapshot data (ledger.ownersOn nodeName).keys) = none := by
  have hsub := availableDevices_sublist snapshot data (ledger.ownersOn nodeName).keys
  have hdrawn := selectDeviceIDs_drawn ((hsub.map _).nodup snapshot.ids_nodup) rfl hne
  rw [ReservationLedger.checkSelection_eq_none_iff]
  refine ⟨?_, hdrawn.nodup⟩
  intro x hx
  obtain ⟨d, hd, rfl⟩ := List.mem_map.mp (hdrawn.subset hx)
  have hblocked := (mem_excludeReservedDevices.mp hd).2
  refine ⟨snapshot.id_ne_blank d (hsub.subset hd), List.not_mem_nil, ?_⟩
  intro owner ho
  rw [Finmap.mem_keys, Finmap.mem_iff] at hblocked
  exact absurd ⟨owner, ho⟩ hblocked

theorem ledger_reserveOn (p : Plugin) (data : CycleData) (nodeName : String)
    (snapshot : Snapshot) : (p.reserveOn data nodeName snapshot).2.ledger =
      (p.ledger.reserve data.podKey nodeName (some (selector snapshot data))).2 := by
  unfold reserveOn
  generalize p.ledger.reserve data.podKey nodeName (some (selector snapshot data)) = result
  obtain ⟨r, ledger⟩ := result
  cases r <;> rfl

/-- **`Reserve` on a Ready node** for a pod without a reservation: it records the selection, or
there is none. -/
theorem reserveOn_cases (hl : p.ledger.Consistent) {data : CycleData} {nodeName : String}
    (snapshot : Snapshot) (hkey : data.podKey ≠ "") (hnode : nodeName ≠ "")
    (hfree : p.ledger.byPod.lookup data.podKey = none) :
    (p.selection data nodeName snapshot ≠ [] ∧ p.reserveOn data nodeName snapshot =
      (none, p.withLedger
        (p.ledger.record ⟨data.podKey, nodeName, p.selection data nodeName snapshot⟩))) ∨
    (p.selection data nodeName snapshot = [] ∧
      ∃ status, p.reserveOn data nodeName snapshot = (some status, p)) := by
  have hsel := selector_eq_selection hl hfree nodeName snapshot
  have hkeys : ¬ (data.podKey = "" ∨ nodeName = "") := by
    rw [not_or]
    exact ⟨hkey, hnode⟩
  unfold reserveOn ReservationLedger.reserve
  rw [if_neg hkeys]
  simp only [hfree]
  by_cases hne : p.selection data nodeName snapshot = []
  · right
    rw [if_pos (hsel.trans hne)]
    exact ⟨hne, _, rfl⟩
  · left
    refine ⟨hne, ?_⟩
    have hne' : selector snapshot data (p.ledger.ownersOn nodeName).keys ≠ [] := by
      rw [hsel]
      exact hne
    rw [if_neg hne', checkSelection_selector p.ledger data nodeName snapshot hne', hsel]

theorem evaluate_of_ready {data : CycleData} {info : NodeInfo} {nodeName : String}
    {snapshot : Snapshot} (hnode : info.node = some nodeName)
    (hread : readTopology p.store nodeName p.now p.cacheTTL = .ok snapshot) :
    p.evaluate data (some info) = evaluateReady p.ledger data info nodeName snapshot := by
  unfold evaluate TopologyFit.evaluate
  simp only [Option.bind_some, hnode, Option.map_some, hread]

theorem reserve_of_ready {data : CycleData} {nodeName : String} {snapshot : Snapshot}
    (hactive : data.active = true)
    (hread : readTopology p.store nodeName p.now p.cacheTTL = .ok snapshot) :
    p.reserve (.stored data) nodeName = p.reserveOn data nodeName snapshot := by
  unfold reserve
  simp only [readCycleData, hactive, Bool.not_true, Bool.false_eq_true, if_false, hread]

/-- **Filter and Reserve agree.**  On a Ready node, for an active pod that holds no reservation
in a consistent ledger: if `evaluate` reports the node feasible, `Reserve` succeeds and records
the devices selected inside `evaluate`; and where `Reserve` succeeds, `evaluate` can only
object to the scalar headroom. -/
theorem reserve_agrees_with_evaluate (p : Plugin) (data : CycleData) (info : NodeInfo)
    (nodeName : String) (hl : p.ledger.Consistent) (hactive : data.active = true)
    (hfree : p.ledger.byPod.lookup data.podKey = none) (hnode : info.node = some nodeName)
    (hready : (p.store.get nodeName p.now p.cacheTTL).availability = .ready) :
    ∃ snapshot, (p.store.get nodeName p.now p.cacheTTL).snapshot = some snapshot ∧
      ((p.evaluate data (some info)).feasible = true →
        p.reserve (.stored data) nodeName = (none, p.withLedger
          (p.ledger.record ⟨data.podKey, nodeName, p.selection data nodeName snapshot⟩))) ∧
      ((p.reserve (.stored data) nodeName).1 = none →
        (p.evaluate data (some info)).feasible = false →
          (scalarHeadroom info data.resourceName).1 < data.requested ∧
          p.evaluate data (some info) = ⟨false, headroomReason nodeName data.resourceName
            (scalarHeadroom info data.resourceName).1 data.requested, 0⟩) := by
  obtain ⟨snapshot, hread⟩ := (readTopology_isOk_iff _ _ _ _).mpr hready
  have hname := nodeName_ne_of_readTopology hread
  refine ⟨snapshot, snapshot_of_readTopology hread, ?_, ?_⟩
  · intro hfeasible
    rw [evaluate_of_ready hnode hread, evaluateReady_feasible_iff] at hfeasible
    rw [reserve_of_ready hactive hread]
    rcases reserveOn_cases hl snapshot (data.keyed hactive) hname hfree with ⟨_, h⟩ | ⟨hnone, _⟩
    · exact h
    · exact absurd hnone hfeasible.2
  · intro hreserved hinfeasible
    rw [evaluate_of_ready hnode hread] at hinfeasible ⊢
    rw [reserve_of_ready hactive hread] at hreserved
    rcases reserveOn_cases hl snapshot (data.keyed hactive) hname hfree with ⟨hsel, _⟩ | ⟨_, status, h⟩
    · exact evaluateReady_reason hsel hinfeasible
    · rw [h] at hreserved
      cases hreserved

end Plugin

end hooks

/-- A pod with a policy and a request for the given number of devices. -/
def samplePod (namespaceName name : String) (count : ℤ) : Pod where
  uid := ""
  namespaceName := namespaceName
  name := name
  annotations := Finmap.insert policyAnnotation "gold" ∅
  requests := [("nvidia.com/gpu", ⟨1, count⟩)]
  requests_nodup := List.nodup_singleton _

/-- The cache after one Ready topology with the given devices. -/
def sampleStore (devices : List AcceleratorDevice) : @Store sampleKube :=
  let : Kube := sampleKube
  (newStore.upsert (some (sampleTopology 1 (sampleSpec devices [])))).2

/-- A scheduler over that cache. -/
def samplePlugin (devices : List AcceleratorDevice) : @Plugin sampleKube :=
  let : Kube := sampleKube
  newPlugin (sampleStore devices) (fun _ _ => .ok (samplePolicy .bestEffort .failClosed)) 1

/-- One of two devices is reserved by another pod. -/
theorem Plugin.reserve_agrees_beside_reservation :
    let data := activeData (samplePod "team-a" "job" 1) (samplePolicy .bestEffort .failClosed)
      "nvidia.com/gpu" 1
    let info : NodeInfo :=
      ⟨some "worker", Finmap.insert "nvidia.com/gpu" 2 ∅, Finmap.insert "nvidia.com/gpu" 1 ∅⟩
    let ledger := (newReservationLedger.reserve "team-b/job" "worker"
      (some fun _ => ["gpu0"])).2
    let p := @Plugin.withLedger sampleKube
      (samplePlugin [sampleDevice "gpu0", sampleDevice "gpu1"]) ledger
    (@Plugin.evaluate sampleKube p data (some info)).feasible = true ∧
      (@Plugin.reserve sampleKube p (.stored data) "worker").1 = none ∧
      (@Plugin.ledger sampleKube
        (@Plugin.reserve sampleKube p (.stored data) "worker").2).byPod.lookup "team-a/job" =
          some ⟨"team-a/job", "worker", ["gpu1"]⟩ := by
  intro data info ledger p
  let : Kube := sampleKube
  obtain ⟨snapshot, _, hreserve, _⟩ := Plugin.reserve_agrees_with_evaluate p data info "worker"
    (ReservationLedger.consistent_new.reserve _ _ _) rfl (by decide) rfl (by decide)
  have hfeasible : (p.evaluate data (some info)).feasible = true := by decide
  exact ⟨hfeasible, by rw [hreserve hfeasible], by decide⟩

/-! ### Signatures -/

section signatures

variable [Kube]

/-- What a signature has to determine of a pod's `PreFilter`. -/
inductive Outcome where
  | neutral
  | rejected (code : Code)
  | active (policy : AcceleratorPlacementPolicySpec) (resourceName : String) (requested : ℤ)
deriving DecidableEq

def outcome : Except Status CycleData → Outcome
  | .error status => .rejected status.code
  | .ok data => if data.active then .active data.policy data.resourceName data.requested
      else .neutral

/-- The cycle state that `PreFilter` leaves for the later hooks. -/
def stateAfter : Except Status CycleData → CycleState
  | .error _ => .unreadable "not found"
  | .ok data => .stored data

/-- Neither pod key holds a reservation in a consistent ledger. -/
structure Unreserved (p : Plugin) (keyA keyB : String) : Prop where
  consistent : p.ledger.Consistent
  left : p.ledger.byPod.lookup keyA = none
  right : p.ledger.byPod.lookup keyB = none

/-- `Filter` and `Score` return the same results from both cycle states while neither pod holds
a reservation, with or without a `PreScore` (in any such state of the plugin) before `Score`. -/
def HooksAgree (keyA keyB : String) (stateA stateB : CycleState) : Prop :=
  ∀ p : Plugin, Unreserved p keyA keyB → ∀ nodeInfo,
    p.filter stateA nodeInfo = p.filter stateB nodeInfo ∧
    p.score stateA nodeInfo = p.score stateB nodeInfo ∧
    ∀ (q : Plugin) (nodes : List (Option NodeInfo)), Unreserved q keyA keyB →
      p.score (q.preScore stateA nodes).2 nodeInfo = p.score (q.preScore stateB nodes).2 nodeInfo

/-- For every content of the policy lister, `PreFilter` has the same outcome for both pods, and
the later hooks agree. -/
def TreatedAlike (a b : Pod) : Prop :=
  ∀ lister : Option PolicyLister,
    outcome (preFilter lister (some a)) = outcome (preFilter lister (some b)) ∧
    HooksAgree (podKey (some a)) (podKey (some b)) (stateAfter (preFilter lister (some a)))
      (stateAfter (preFilter lister (some b)))

/-- Equal signatures: the same policy name, as many requests, and the same one if there is
only one. -/
theorem signPod_eq {a b : Pod} (h : signPod (some a) = signPod (some b)) :
    policyName a = policyName b ∧
      (extendedResourceRequests (some a)).length = (extendedResourceRequests (some b)).length ∧
      ∀ r, extendedResourceRequests (some a) = [r] → extendedResourceRequests (some b) = [r] := by
  unfold signPod at h
  simp only [List.cons.injEq, SignFragment.mk.injEq, true_and, Option.elim_some] at h
  obtain ⟨hname, hreq⟩ := h
  have hlen := congrArg List.length hreq
  simp only [List.length_map, List.length_insertionSort] at hlen
  refine ⟨hname, hlen, ?_⟩
  rintro ⟨r, n⟩ ha
  rw [ha] at hlen hreq
  obtain ⟨⟨r', n'⟩, hb⟩ := List.length_eq_one_iff.mp hlen.symm
  rw [hb] at hreq ⊢
  have hfrag : requestFragment [(r, n)] r = requestFragment [(r', n')] r' := by
    simpa using hreq
  unfold requestFragment at hfrag
  simp only [SignFragment.mk.injEq, List.lookup_cons_self, Option.getD_some] at hfrag
  have hr : r = r' := (String.append_right_inj _).mp hfrag.1
  have hn : n = n' := formatInt_injective hfrag.2
  rw [hr, hn]

/-- The lister has a valid policy for the pod, and the pod has a single request. -/
structure Admits (l : PolicyLister) (pod : Pod) (policy : AcceleratorPlacementPolicySpec)
    (r : String) (n : ℤ) : Prop where
  listed : l pod.namespaceName (policyName pod) = .ok policy
  valid : validatePolicy policy = none
  single : extendedResourceRequests (some pod) = [(r, n)]

/-- **Inversion of `PreFilter`**: neutral, active or rejected. -/
theorem preFilter_cases (lister : Option PolicyLister) (pod : Pod) :
    (policyName pod = "" ∧ preFilter lister (some pod) = .ok inactiveData) ∨
    (policyName pod ≠ "" ∧ lister = none ∧
      ∃ status, status.code = .error ∧ preFilter lister (some pod) = .error status) ∨
    (policyName pod ≠ "" ∧ ∃ l, lister = some l ∧
      ((∃ policy r n, Admits l pod policy r n ∧
        preFilter lister (some pod) = .ok (activeData pod policy r n)) ∨
      ((∀ policy r n, ¬ Admits l pod policy r n) ∧
        ∃ status, status.code = .unschedulableAndUnresolvable ∧
          preFilter lister (some pod) = .error status))) := by
  unfold preFilter
  simp only
  by_cases hname : policyName pod = ""
  · exact .inl ⟨hname, if_pos hname⟩
  right
  rw [if_neg hname]
  cases lister with
  | none => exact .inl ⟨hname, rfl, _, rfl, rfl⟩
  | some l =>
      refine .inr ⟨hname, l, rfl, ?_⟩
      simp only
      cases hl : l pod.namespaceName (policyName pod) with
      | error err =>
          refine .inr ⟨?_, _, rfl, rfl⟩
          intro policy r n h
          rw [h.listed] at hl
          cases hl
      | ok policy =>
          simp only
          cases hv : validatePolicy policy with
          | some e =>
              refine .inr ⟨?_, _, rfl, rfl⟩
              intro policy' r n h
              rw [h.listed] at hl
              cases hl
              rw [h.valid] at hv
              cases hv
          | none =>
              simp only
              match hreq : extendedResourceRequests (some pod) with
              | [] => exact .inr ⟨fun _ _ _ h => by simpa [hreq] using h.single, _, rfl, rfl⟩
              | [(r, n)] => exact .inl ⟨policy, r, n, ⟨hl, hv, hreq⟩, rfl⟩
              | _ :: _ :: _ =>
                  exact .inr ⟨fun _ _ _ h => by simpa [hreq] using h.single, _, rfl, rfl⟩

theorem preFilter_of_unnamed (lister : Option PolicyLister) {pod : Pod}
    (h : policyName pod = "") : preFilter lister (some pod) = .ok inactiveData := by
  rcases preFilter_cases lister pod with ⟨_, hneutral⟩ | ⟨hname, _⟩ | ⟨hname, _⟩
  · exact hneutral
  · exact absurd h hname
  · exact absurd h hname

theorem preFilter_without_lister {pod : Pod} (h : policyName pod ≠ "") :
    ∃ status, status.code = .error ∧ preFilter none (some pod) = .error status := by
  rcases preFilter_cases none pod with ⟨hname, _⟩ | ⟨_, _, herror⟩ | ⟨_, l, hl, _⟩
  · exact absurd hname h
  · exact herror
  · cases hl

theorem Admits.unique {l : PolicyLister} {pod : Pod} {policy policy' : AcceleratorPlacementPolicySpec}
    {r r' : String} {n n' : ℤ} (h : Admits l pod policy r n) (h' : Admits l pod policy' r' n') :
    policy = policy' ∧ r = r' ∧ n = n' := by
  have hpolicy : policy = policy' := Except.ok.inj (h.listed.symm.trans h'.listed)
  have hsame : [(r, n)] = [(r', n')] := h.single.symm.trans h'.single
  simp only [List.cons.injEq, Prod.mk.injEq, and_true] at hsame
  exact ⟨hpolicy, hsame⟩

theorem Admits.preFilter {l : PolicyLister} {pod : Pod} {policy : AcceleratorPlacementPolicySpec}
    {r : String} {n : ℤ} (h : Admits l pod policy r n) (hname : policyName pod ≠ "") :
    TopologyFit.preFilter (some l) (some pod) = .ok (activeData pod policy r n) := by
  rcases preFilter_cases (some l) pod with
    ⟨hempty, _⟩ | ⟨_, hnil, _⟩ | ⟨_, l', hl, ⟨policy', r', n', h', hactive⟩ | ⟨hnone, _⟩⟩
  · exact absurd hempty hname
  · cases hnil
  · cases hl
    obtain ⟨rfl, rfl, rfl⟩ := h.unique h'
    exact hactive
  · cases hl
    exact absurd h (hnone _ _ _)

theorem preFilter_of_not_admits {l : PolicyLister} {pod : Pod} (hname : policyName pod ≠ "")
    (h : ∀ policy r n, ¬ Admits l pod policy r n) :
    ∃ status, status.code = .unschedulableAndUnresolvable ∧
      preFilter (some l) (some pod) = .error status := by
  rcases preFilter_cases (some l) pod with
    ⟨hempty, _⟩ | ⟨_, hnil, _⟩ | ⟨_, l', hl, ⟨_, _, _, h', _⟩ | ⟨_, hrejected⟩⟩
  · exact absurd hempty hname
  · cases hnil
  · cases hl
    exact absurd h' (h _ _ _)
  · exact hrejected

/-- Pods with equal signatures are admitted alike, unless their namespaces matter. -/
theorem admits_congr {a b : Pod} (h : signPod (some a) = signPod (some b))
    (hcase : a.namespaceName = b.namespaceName ∨ (extendedResourceRequests (some a)).length ≠ 1)
    (l : PolicyLister) (policy : AcceleratorPlacementPolicySpec) (r : String) (n : ℤ) :
    Admits l a policy r n ↔ Admits l b policy r n := by
  obtain ⟨hname, hlen, hsingle⟩ := signPod_eq h
  obtain ⟨_, _, hsingle'⟩ := signPod_eq h.symm
  rcases hcase with hns | hmany
  · constructor
    · intro hA
      have hlisted := hA.listed
      rw [hns, hname] at hlisted
      exact ⟨hlisted, hA.valid, hsingle _ hA.single⟩
    · intro hB
      have hlisted := hB.listed
      rw [← hns, ← hname] at hlisted
      exact ⟨hlisted, hB.valid, hsingle' _ hB.single⟩
  · constructor
    · intro hA
      rw [hA.single] at hmany
      exact absurd rfl hmany
    · intro hB
      rw [hlen, hB.single] at hmany
      exact absurd rfl hmany

section agree

variable {p : Plugin} {a b : CycleData}

theorem Plugin.evaluate_congr (h : Unreserved p a.podKey b.podKey) (hab : SameRequest a b)
    (nodeInfo : Option NodeInfo) : p.evaluate a nodeInfo = p.evaluate b nodeInfo := by
  have heligible : eligible a = eligible b := by
    funext d
    unfold eligible
    rw [hab.policy_eq, hab.resourceName_eq]
  have havailable : ∀ nodeName snapshot, availableDevices snapshot a p.ledger nodeName =
      availableDevices snapshot b p.ledger nodeName := by
    intro nodeName snapshot
    unfold availableDevices eligibleDevices
    rw [reservedDeviceIDs_eq_keys h.consistent h.left,
      reservedDeviceIDs_eq_keys h.consistent h.right, heligible]
  have hready : ∀ info nodeName snapshot, evaluateReady p.ledger a info nodeName snapshot =
      evaluateReady p.ledger b info nodeName snapshot := by
    intro info nodeName snapshot
    unfold evaluateReady
    rw [havailable, hab.policy_eq, hab.resourceName_eq, hab.requested_eq]
  unfold Plugin.evaluate TopologyFit.evaluate
  simp only [hready, hab.policy_eq]

theorem Plugin.filter_congr (h : Unreserved p a.podKey b.podKey) (hab : SameRequest a b)
    (nodeInfo : Option NodeInfo) : p.filter (.stored a) nodeInfo = p.filter (.stored b) nodeInfo := by
  unfold Plugin.filter
  simp only [readCycleData]
  rw [Plugin.evaluate_congr h hab nodeInfo, hab.active_eq]

theorem Plugin.score_congr (h : Unreserved p a.podKey b.podKey) (hab : SameRequest a b)
    (nodeInfo : Option NodeInfo) : p.score (.stored a) nodeInfo = p.score (.stored b) nodeInfo := by
  unfold Plugin.score
  simp only [readCycleData]
  rw [Plugin.evaluate_congr h hab nodeInfo, hab.active_eq, hab.scores_eq]

theorem Plugin.preScore_congr (h : Unreserved p a.podKey b.podKey) (hab : SameRequest a b)
    (nodes : List (Option NodeInfo)) : ∃ a' b' : CycleData,
      (p.preScore (.stored a) nodes).2 = .stored a' ∧
      (p.preScore (.stored b) nodes).2 = .stored b' ∧ SameRequest a' b' ∧
      a'.podKey = a.podKey ∧ b'.podKey = b.podKey := by
  have hscores : p.preScores a nodes = p.preScores b nodes := by
    unfold Plugin.preScores
    simp only [Plugin.evaluate_congr h hab]
  unfold Plugin.preScore
  simp only [readCycleData]
  rw [hab.active_eq]
  split_ifs
  · exact ⟨a, b, rfl, rfl, hab, rfl, rfl⟩
  · exact ⟨_, _, rfl, rfl, hab.withScores hscores, rfl, rfl⟩

theorem hooksAgree_of_sameRequest (hab : SameRequest a b) :
    HooksAgree a.podKey b.podKey (.stored a) (.stored b) := by
  intro p hp nodeInfo
  refine ⟨Plugin.filter_congr hp hab nodeInfo, Plugin.score_congr hp hab nodeInfo, ?_⟩
  intro q nodes hq
  obtain ⟨a', b', ha, hb, hab', hka, hkb⟩ := Plugin.preScore_congr hq hab nodes
  rw [ha, hb]
  apply Plugin.score_congr _ hab'
  rw [hka, hkb]
  exact hp

end agree

theorem hooksAgree_refl (keyA keyB : String) (state : CycleState) :
    HooksAgree keyA keyB state state := fun _ _ _ => ⟨rfl, rfl, fun _ _ _ => rfl⟩

theorem alike_of_error {keyA keyB : String} {a b : Except Status CycleData} {s t : Status}
    (ha : a = .error s) (hb : b = .error t) (hcode : s.code = t.code) :
    outcome a = outcome b ∧ HooksAgree keyA keyB (stateAfter a) (stateAfter b) := by
  rw [ha, hb]
  refine ⟨?_, hooksAgree_refl _ _ _⟩
  simp only [outcome, hcode]

/-- A named pod with one request is not treated like one of another namespace: the policy may
exist in one of the namespaces only. -/
theorem not_treatedAlike {a b : Pod} (hnamedA : policyName a ≠ "") (hnamedB : policyName b ≠ "")
    (hns : a.namespaceName ≠ b.namespaceName)
    (hone : (extendedResourceRequests (some a)).length = 1) : ¬ TreatedAlike a b := by
  intro halike
  let lister : PolicyLister := fun ns _ =>
    if ns = a.namespaceName then .ok (samplePolicy .bestEffort .failClosed) else .error "not found"
  have hlookA : lister a.namespaceName (policyName a) =
      .ok (samplePolicy .bestEffort .failClosed) := if_pos rfl
  have hlookB : lister b.namespaceName (policyName b) = .error "not found" :=
    if_neg (fun e => hns e.symm)
  obtain ⟨⟨r, n⟩, hr⟩ := List.length_eq_one_iff.mp hone
  have ha : Admits lister a (samplePolicy .bestEffort .failClosed) r n := ⟨hlookA, by decide, hr⟩
  have hb : ∀ policy r n, ¬ Admits lister b policy r n := by
    intro policy r n h
    have hlisted := h.listed
    rw [hlookB] at hlisted
    cases hlisted
  obtain ⟨status, _, hrejected⟩ := preFilter_of_not_admits hnamedB hb
  have hout := (halike (some lister)).1
  rw [ha.preFilter hnamedA, hrejected] at hout
  cases hout

/-- **What a signature leaves out.**  Two pods with equal signatures are treated alike exactly
when they name no policy, live in the same namespace or do not have exactly one extended
request: the namespace, from which the policy is read, is not signed. -/
theorem signed_alike_iff (a b : Pod) (h : signPod (some a) = signPod (some b)) :
    TreatedAlike a b ↔ policyName a = "" ∨ a.namespaceName = b.namespaceName ∨
      (extendedResourceRequests (some a)).length ≠ 1 := by
  obtain ⟨hname, _, _⟩ := signPod_eq h
  constructor
  · intro halike
    by_contra hnot
    rw [not_or, not_or, not_not] at hnot
    obtain ⟨hnamed, hns, hone⟩ := hnot
    exact not_treatedAlike hnamed (hname ▸ hnamed) hns hone halike
  · intro hcase lister
    by_cases hempty : policyName a = ""
    · rw [preFilter_of_unnamed lister hempty, preFilter_of_unnamed lister (hname ▸ hempty)]
      exact ⟨rfl, hooksAgree_refl _ _ _⟩
    · have hnamed : policyName b ≠ "" := hname ▸ hempty
      cases lister with
      | none =>
          obtain ⟨s, hs, ha⟩ := preFilter_without_lister hempty
          obtain ⟨t, ht, hb⟩ := preFilter_without_lister hnamed
          exact alike_of_error ha hb (hs.trans ht.symm)
      | some l =>
          have hadmits := admits_congr h (hcase.resolve_left hempty) l
          by_cases hA : ∃ policy r n, Admits l a policy r n
          · obtain ⟨policy, r, n, hA⟩ := hA
            rw [hA.preFilter hempty, ((hadmits policy r n).mp hA).preFilter hnamed]
            have hsame : SameRequest (activeData a policy r n) (activeData b policy r n) :=
              ⟨rfl, rfl, rfl, rfl, rfl⟩
            exact ⟨rfl, hooksAgree_of_sameRequest hsame⟩
          · simp only [not_exists] at hA
            have hB : ∀ policy r n, ¬ Admits l b policy r n := fun policy r n hb =>
              hA policy r n ((hadmits policy r n).mpr hb)
            obtain ⟨s, hs, ha⟩ := preFilter_of_not_admits hempty hA
            obtain ⟨t, ht, hb⟩ := preFilter_of_not_admits hnamed hB
            exact alike_of_error ha hb (hs.trans ht.symm)

end signatures

theorem signed_alike_in_one_namespace :
    @TreatedAlike sampleKube (samplePod "team-a" "first" 1) (samplePod "team-a" "second" 1) := by
  let : Kube := sampleKube
  exact (signed_alike_iff (samplePod "team-a" "first" 1) (samplePod "team-a" "second" 1)
    (by decide)).mpr (.inr (.inl rfl))

/-- Two namespaces, one with the policy and one without it: the pods are signed alike, one is
active and the other rejected. -/
theorem namespace_not_signed :
    ¬ ∀ (_ : Kube) (a b : Pod), signPod (some a) = signPod (some b) → TreatedAlike a b := by
  intro h
  let : Kube := sampleKube
  let lister : PolicyLister := fun ns _ =>
    if ns = "team-a" then .ok (samplePolicy .bestEffort .failClosed) else .error "not found"
  have hout := (h sampleKube (samplePod "team-a" "job" 1) (samplePod "team-b" "job" 1)
    (by decide) (some lister)).1
  have hactive : outcome (preFilter (some lister) (some (samplePod "team-a" "job" 1))) =
      .active (samplePolicy .bestEffort .failClosed) "nvidia.com/gpu" 1 := by decide
  have hrejected : outcome (preFilter (some lister) (some (samplePod "team-b" "job" 1))) =
      .rejected .unschedulableAndUnresolvable := by decide
  rw [hactive, hrejected] at hout
  cases hout

end AcceleratorFabric.TopologyFit
