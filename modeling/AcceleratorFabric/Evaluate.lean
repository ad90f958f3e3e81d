import AcceleratorFabric.Ledger
import AcceleratorFabric.Selection
import AcceleratorFabric.TopologyStore

/-! # Evaluating a node

`evaluate` decides whether a node can take a pod and how good it is: it reads the topology
cache, keeps the eligible devices that are not reserved by other pods, checks the scalar
headroom, runs the device selection and computes the weighted score.  The score arithmetic is
that of `int64`, with `wrap64` where a product or a difference can leave the range. -/

namespace AcceleratorFabric.TopologyFit

open GoMap GoText AcceleratorFabric.Topology

/-- What `PreFilter` stores for the later hooks of a pod's cycle.  The data of an active pod
carries its pod key, which is never blank. -/
structure CycleData where
  active : Bool
  podKey : String
  policy : AcceleratorPlacementPolicySpec
  resourceName : String
  requested : ℤ
  scores : GoMap String ℤ
  keyed : active = true → podKey ≠ ""
deriving DecidableEq

def CycleData.withScores (data : CycleData) (scores : GoMap String ℤ) : CycleData :=
  { data with scores := scores }

/-- Cycle data that differ at most in the pod key. -/
structure SameRequest (a b : CycleData) : Prop where
  active_eq : a.active = b.active
  policy_eq : a.policy = b.policy
  resourceName_eq : a.resourceName = b.resourceName
  requested_eq : a.requested = b.requested
  scores_eq : a.scores = b.scores

theorem SameRequest.withScores {a b : CycleData} (hab : SameRequest a b) {s t : GoMap String ℤ}
    (hst : s = t) : SameRequest (a.withScores s) (b.withScores t) :=
  ⟨hab.active_eq, hab.policy_eq, hab.resourceName_eq, hab.requested_eq, hst⟩

/-- `evaluation`. -/
structure Evaluation where
  feasible : Bool
  reason : String
  score : ℤ
deriving DecidableEq, Repr

/-- The parts of `framework.NodeInfo` the plugin reads; `node` is the name of its node. -/
structure NodeInfo where
  node : Option String
  allocatable : GoMap String ℤ
  requested : GoMap String ℤ
deriving DecidableEq

/-! ### Devices -/

/-- The checks of `eligibleDevices` on one device. -/
def eligible (data : CycleData) (device : AcceleratorDevice) : Bool :=
  if device.resourceName ≠ data.resourceName then false
  else if data.policy.vendor ≠ .unset ∧ data.policy.vendor ≠ .any ∧
      device.vendor ≠ data.policy.vendor then false
  else if data.policy.products ≠ [] ∧ device.product ∉ data.policy.products then false
  else if device.memoryMiB < data.policy.minimumMemoryMiB then false
  else if device.health ≠ .healthy ∧
      ¬ (data.policy.allowUnknownTopology = true ∧ device.health = .unknown) then false
  else true

/-- The device passes the policy's checks. -/
structure IsEligible (data : CycleData) (d : AcceleratorDevice) : Prop where
  resourceName_eq : d.resourceName = data.resourceName
  vendor_ok : data.policy.vendor = .unset ∨ data.policy.vendor = .any ∨
    d.vendor = data.policy.vendor
  product_ok : data.policy.products = [] ∨ d.product ∈ data.policy.products
  memory_ok : data.policy.minimumMemoryMiB ≤ d.memoryMiB
  health_ok : d.health = .healthy ∨
    (data.policy.allowUnknownTopology = true ∧ d.health = .unknown)

theorem eligible_iff (data : CycleData) (d : AcceleratorDevice) :
    eligible data d = true ↔ IsEligible data d := by
  unfold eligible
  constructor
  · intro h
    split_ifs at h with h1 h2 h3 h4 h5
    refine ⟨not_not.mp h1, ?_, ?_, not_lt.mp h4, ?_⟩
    · tauto
    · tauto
    · tauto
  · rintro ⟨h1, h2, h3, h4, h5⟩
    rw [if_neg (not_not.mpr h1), if_neg (by tauto), if_neg (by tauto), if_neg (not_lt.mpr h4),
      if_neg (by tauto)]

def excludeReservedDevices (devices : List AcceleratorDevice) (reserved : Finset String) :
    List AcceleratorDevice :=
  devices.filter (fun device => device.id ∉ reserved)

theorem mem_excludeReservedDevices {devices : List AcceleratorDevice} {reserved : Finset String}
    {d : AcceleratorDevice} :
    d ∈ excludeReservedDevices devices reserved ↔ d ∈ devices ∧ d.id ∉ reserved := by
  unfold excludeReservedDevices
  rw [List.mem_filter, decide_eq_true_iff]

def eligibleDevices [Kube] (snapshot : Snapshot) (data : CycleData) : List AcceleratorDevice :=
  snapshot.devices.filter (eligible data)

/-- `(remaining, allocatable)`. -/
def scalarHeadroom (nodeInfo : NodeInfo) (resourceName : String) : ℤ × ℤ :=
  let allocatable := (nodeInfo.allocatable.lookup resourceName).getD 0
  let requested := (nodeInfo.requested.lookup resourceName).getD 0
  let remaining := wrap64 (allocatable - requested)
  (if remaining < 0 then 0 else remaining, allocatable)

/-! ### Scores -/

/-- The loop state of `maxNUMAGroup` and `maxStringGroup`: the counted groups, the devices
counted apart and the maximum so far. -/
structure GroupCount (K : Type) where
  groups : GoMap K ℕ
  unknown : ℕ
  maximum : ℕ

/-- `groups[key]++` and the update of the maximum. -/
def GroupCount.count {K : Type} [DecidableEq K] (c : GroupCount K) (key : K) : GroupCount K :=
  let size := (c.groups.lookup key).getD 0 + 1
  { c with groups := c.groups.insert key size, maximum := max c.maximum size }

def maxNUMAGroup (devices : List AcceleratorDevice) (allowUnknown : Bool) : ℕ :=
  let final := devices.foldl (fun (c : GroupCount ℤ) device =>
    match device.numaNode with
    | none => if allowUnknown then { c with unknown := c.unknown + 1 } else c
    | some numa => c.count numa) ⟨∅, 0, 0⟩
  max final.maximum final.unknown

def maxStringGroup (devices : List AcceleratorDevice) (key : AcceleratorDevice → String)
    (allowUnknown : Bool) : ℕ :=
  let final := devices.foldl (fun (c : GroupCount String) device =>
    if key device = "" ∧ allowUnknown = false then c else c.count (key device)) ⟨∅, 0, 0⟩
  final.maximum

/-- `features`, each a percentage. -/
structure Features where
  locality : ℤ
  fabric : ℤ
  fragmentation : ℤ
  headroom : ℤ
deriving DecidableEq, Repr

/-- Integer division of Go rounds towards zero. -/
def percentage (numerator denominator : ℤ) : ℤ :=
  if denominator ≤ 0 ∨ numerator ≤ 0 then 0
  else min 100 ((wrap64 (numerator * 100)).tdiv denominator)

section snapshot

variable [Kube]

/-- The pairs `left < right` of devices with a qualifying link. -/
def qualifiedEdges (snapshot : Snapshot) (policy : AcceleratorPlacementPolicySpec) :
    List AcceleratorDevice → ℕ
  | [] => 0
  | device :: rest => rest.countP (fun other => linked snapshot policy device.id other.id) +
      qualifiedEdges snapshot policy rest

def scoreFeatures (snapshot : Snapshot) (devices : List AcceleratorDevice)
    (policy : AcceleratorPlacementPolicySpec) (requested remaining allocatable : ℤ) : Features :=
  let localityGroup := max (maxNUMAGroup devices policy.allowUnknownTopology)
    (maxStringGroup devices (·.pcieRoot) policy.allowUnknownTopology)
  let possibleEdges := (wrap64 ((devices.length : ℤ) * (devices.length - 1))).tdiv 2
  { locality := percentage localityGroup devices.length
    fabric := percentage (wrap64 (qualifiedEdges snapshot policy devices)) possibleEdges
    fragmentation := percentage requested devices.length
    headroom := percentage (wrap64 (remaining - requested)) allocatable }

end snapshot

def minNodeScore : ℤ := 0

def maxNodeScore : ℤ := 100

def weightedScore (value : Features) (weights : ScoreWeights) : ℤ :=
  let score := (wrap64 (value.locality * weights.locality + value.fabric * weights.fabric +
    value.fragmentation * weights.fragmentation + value.headroom * weights.headroom)).tdiv 100
  if score < minNodeScore then minNodeScore
  else if maxNodeScore < score then maxNodeScore
  else score

/-! ### The evaluation -/

section evaluate

variable [Kube]

/-- What a hook learns from the cache: the snapshot of a Ready node, or why there is none. -/
def readTopology (store : Store) (nodeName : String) (now : Time) (cacheTTL : Duration) :
    Except Availability Snapshot :=
  let cached := store.get nodeName now cacheTTL
  match cached.availability, cached.snapshot with
  | .ready, some snapshot => .ok snapshot
  | availability, _ => .error availability

/-- The devices a pod may still take on a node. -/
def availableDevices (snapshot : Snapshot) (data : CycleData) (ledger : ReservationLedger)
    (nodeName : String) : List AcceleratorDevice :=
  excludeReservedDevices (eligibleDevices snapshot data)
    (ledger.reservedDeviceIDs nodeName data.podKey)

def headroomReason (nodeName resourceName : String) (remaining requested : ℤ) : String :=
  "node " ++ quote nodeName ++ " has " ++ formatInt remaining ++ " remaining " ++ resourceName ++
    ", need " ++ formatInt requested

/-- The part of `evaluate` on a Ready node. -/
def evaluateReady (ledger : ReservationLedger) (data : CycleData) (nodeInfo : NodeInfo)
    (nodeName : String) (snapshot : Snapshot) : Evaluation :=
  let devices := availableDevices snapshot data ledger nodeName
  if (devices.length : ℤ) < data.requested then
    ⟨false, "node " ++ quote nodeName ++ " has " ++ formatInt devices.length ++
      " eligible topology devices, need " ++ formatInt data.requested, 0⟩
  else
    let (remaining, allocatable) := scalarHeadroom nodeInfo data.resourceName
    if remaining < data.requested then
      ⟨false, headroomReason nodeName data.resourceName remaining data.requested, 0⟩
    else
      let selection := selectDeviceIDs snapshot devices data.policy data.requested
      if selection.length = 0 then
        ⟨false, "node " ++ quote nodeName ++ " cannot satisfy topology mode " ++
          data.policy.topologyMode.text ++ " for " ++ formatInt data.requested ++ " devices", 0⟩
      else
        ⟨true, "", weightedScore
          (scoreFeatures snapshot devices data.policy data.requested remaining allocatable)
          data.policy.weights⟩

/-- `Plugin.evaluate`, with the fields of the plugin as arguments. -/
def evaluate (store : Option Store) (ledger : ReservationLedger) (now : Time)
    (cacheTTL : Duration) (data : CycleData) (nodeInfo : Option NodeInfo) : Evaluation :=
  match nodeInfo.bind (fun info => info.node.map (fun nodeName => (info, nodeName))) with
  | none => ⟨false, "node info has no node", 0⟩
  | some (info, nodeName) =>
      match store with
      | none => ⟨false, "topology store is unavailable", 0⟩
      | some store =>
          match readTopology store nodeName now cacheTTL with
          | .error availability =>
              if data.policy.failurePolicy = .bestEffort then
                ⟨true, "topology " ++ availability.text ++ "; allowed by BestEffort", 0⟩
              else ⟨false, "topology for node " ++ quote nodeName ++ " is " ++ availability.text, 0⟩
          | .ok snapshot => evaluateReady ledger data info nodeName snapshot

/-! ### What the hooks read -/

/-- A Ready entry holds a snapshot, so a hook learns its availability and nothing else goes
wrong. -/
theorem readTopology_cases (store : Store) (nodeName : String) (now : Time) (cacheTTL : Duration) :
    ((store.get nodeName now cacheTTL).availability = .ready ∧ nodeName ≠ "" ∧
      ∃ snapshot, readTopology store nodeName now cacheTTL = .ok snapshot) ∨
    ((store.get nodeName now cacheTTL).availability ≠ .ready ∧
      readTopology store nodeName now cacheTTL =
        .error (store.get nodeName now cacheTTL).availability) := by
  unfold readTopology
  simp only
  cases hl : store.entries.lookup nodeName with
  | none =>
      have hget : (store.get nodeName now cacheTTL).availability = .missing :=
        Store.get_of_lookup_none hl now cacheTTL
      right
      rw [hget]
      exact ⟨by decide, rfl⟩
  | some r =>
      obtain ⟨hname, hsome⟩ := store.keyed nodeName r hl
      have hsnap : (store.get nodeName now cacheTTL).snapshot = r.snapshot := by
        unfold Store.get
        rw [hl]
        simp only
        split_ifs <;> rfl
      obtain ⟨snapshot, hs⟩ := Option.isSome_iff_exists.mp hsome
      rw [hsnap, hs]
      cases (store.get nodeName now cacheTTL).availability with
      | ready => exact .inl ⟨rfl, hname, snapshot, rfl⟩
      | missing => exact .inr ⟨by decide, rfl⟩
      | notReady => exact .inr ⟨by decide, rfl⟩
      | stale => exact .inr ⟨by decide, rfl⟩

theorem readTopology_isOk_iff (store : Store) (nodeName : String) (now : Time)
    (cacheTTL : Duration) : (∃ snapshot, readTopology store nodeName now cacheTTL = .ok snapshot) ↔
      (store.get nodeName now cacheTTL).availability = .ready := by
  rcases readTopology_cases store nodeName now cacheTTL with ⟨hr, _, hs⟩ | ⟨hr, he⟩
  · exact ⟨fun _ => hr, fun _ => hs⟩
  · rw [he]
    constructor
    · rintro ⟨_, h⟩
      cases h
    · exact fun h => absurd h hr

theorem nodeName_ne_of_readTopology {store : Store} {nodeName : String} {now : Time}
    {cacheTTL : Duration} {snapshot : Snapshot}
    (h : readTopology store nodeName now cacheTTL = .ok snapshot) : nodeName ≠ "" := by
  rcases readTopology_cases store nodeName now cacheTTL with ⟨_, hn, _⟩ | ⟨_, he⟩
  · exact hn
  · rw [he] at h
    cases h

theorem snapshot_of_readTopology {store : Store} {nodeName : String} {now : Time}
    {cacheTTL : Duration} {snapshot : Snapshot}
    (h : readTopology store nodeName now cacheTTL = .ok snapshot) :
    (store.get nodeName now cacheTTL).snapshot = some snapshot := by
  unfold readTopology at h
  simp only at h
  split at h
  · next hs =>
      cases h
      exact hs
  · cases h

/-- Available devices are devices of the snapshot, in its order. -/
theorem availableDevices_sublist (snapshot : Snapshot) (data : CycleData) (reserved : Finset String) :
    (excludeReservedDevices (eligibleDevices snapshot data) reserved).Sublist snapshot.devices :=
  List.filter_sublist.trans List.filter_sublist

/-- Nothing is selected from too few devices. -/
theorem selectDeviceIDs_of_few {snapshot : Snapshot} {devices : List AcceleratorDevice}
    {policy : AcceleratorPlacementPolicySpec} {requested : ℤ}
    (h : (devices.length : ℤ) < requested) :
    selectDeviceIDs snapshot devices policy requested = [] := by
  unfold selectDeviceIDs
  rw [if_pos (.inr h)]

/-- **Inversion of the evaluation of a Ready node**: it is infeasible for want of devices, of
headroom or of a combination, and otherwise feasible. -/
theorem evaluateReady_feasible_iff (ledger : ReservationLedger) (data : CycleData)
    (nodeInfo : NodeInfo) (nodeName : String) (snapshot : Snapshot) :
    (evaluateReady ledger data nodeInfo nodeName snapshot).feasible = true ↔
      data.requested ≤ (scalarHeadroom nodeInfo data.resourceName).1 ∧
      selectDeviceIDs snapshot (availableDevices snapshot data ledger nodeName) data.policy
        data.requested ≠ [] := by
  unfold evaluateReady
  simp only
  split_ifs with hfew hroom hnone
  · rw [selectDeviceIDs_of_few hfew]
    simp
  · have hroom' : ¬ data.requested ≤ (scalarHeadroom nodeInfo data.resourceName).1 := by omega
    simp [hroom']
  · rw [List.length_eq_zero_iff] at hnone
    simp [hnone]
  · rw [List.length_eq_zero_iff] at hnone
    exact ⟨fun _ => ⟨by omega, hnone⟩, fun _ => rfl⟩

/-- Where a combination exists, only the headroom can be missing. -/
theorem evaluateReady_reason {ledger : ReservationLedger} {data : CycleData}
    {nodeInfo : NodeInfo} {nodeName : String} {snapshot : Snapshot}
    (hsel : selectDeviceIDs snapshot (availableDevices snapshot data ledger nodeName) data.policy
      data.requested ≠ [])
    (hinf : (evaluateReady ledger data nodeInfo nodeName snapshot).feasible = false) :
    (scalarHeadroom nodeInfo data.resourceName).1 < data.requested ∧
      evaluateReady ledger data nodeInfo nodeName snapshot =
        ⟨false, headroomReason nodeName data.resourceName
          (scalarHeadroom nodeInfo data.resourceName).1 data.requested, 0⟩ := by
  unfold evaluateReady at hinf ⊢
  simp only at hinf ⊢
  split_ifs at hinf ⊢ with hfew hroom hnone
  · exact absurd (selectDeviceIDs_of_few hfew) hsel
  · exact ⟨hroom, rfl⟩
  · exact absurd (List.length_eq_zero_iff.mp hnone) hsel

end evaluate

/-! ### Reservations of other pods -/

/-- For a pod without a reservation every reserved device of a node is blocked. -/
theorem reservedDeviceIDs_eq_keys {ledger : ReservationLedger} (hl : ledger.Consistent)
    {podKey : String} (hnone : ledger.byPod.lookup podKey = none) (nodeName : String) :
    ledger.reservedDeviceIDs nodeName podKey = (ledger.ownersOn nodeName).keys := by
  ext d
  unfold ReservationLedger.reservedDeviceIDs
  rw [mem_keysWhere, Finmap.mem_keys, Finmap.mem_iff]
  constructor
  · rintro ⟨owner, ho, _⟩
    exact ⟨owner, ho⟩
  · rintro ⟨owner, ho⟩
    refine ⟨owner, ho, ?_⟩
    rw [decide_eq_true_iff]
    rintro rfl
    have hown : ledger.owner nodeName d = some owner := by rw [ledger.owner_eq]; exact ho
    obtain ⟨r, hr, _⟩ := (hl.indexes (nodeName, d) owner).mp hown
    rw [hnone] at hr
    cases hr

end AcceleratorFabric.TopologyFit
