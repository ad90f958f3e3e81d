import AcceleratorFabric.GoText

/-! # The typed API

The types of `scheduling.bupt.dev/v1alpha1` that the scheduler, its topology cache and the DRA
driver read.  Go's string enumerations are inductive types with a constructor `other` for
every text without a constant of its own.  Integers of all widths are `ℤ`; operations that can
overflow say so where they are used.  Bandwidths are exact rationals (every finite `float64`
is one).

`Kube` collects the functions of libraries that the code calls and that are not part of the
repository; every result holds for all of them. -/

namespace AcceleratorFabric

inductive AcceleratorVendor where
  | unset
  | any
  | nvidia
  | huawei
  | amd
  | other (text : String)
deriving DecidableEq, Repr

inductive Health where
  | healthy
  | unhealthy
  | unknown
  | other (text : String)
deriving DecidableEq, Repr

inductive LinkType where
  | nvlink
  | hccs
  | xgmi
  | pcie
  | other (text : String)
deriving DecidableEq, Repr

inductive TopologyMode where
  | singleNUMA
  | samePCIeRoot
  | fabricClique
  | fabricConnected
  | bestEffort
  | other (text : String)
deriving DecidableEq, Repr

inductive FailurePolicy where
  | failClosed
  | bestEffort
  | other (text : String)
deriving DecidableEq, Repr

def AcceleratorVendor.text : AcceleratorVendor → String
  | unset => ""
  | any => "any"
  | nvidia => "nvidia"
  | huawei => "huawei"
  | amd => "amd"
  | other s => s

def Health.text : Health → String
  | healthy => "Healthy"
  | unhealthy => "Unhealthy"
  | unknown => "Unknown"
  | other s => s

def LinkType.text : LinkType → String
  | nvlink => "nvlink"
  | hccs => "hccs"
  | xgmi => "xgmi"
  | pcie => "pcie"
  | other s => s

def TopologyMode.text : TopologyMode → String
  | singleNUMA => "single-numa"
  | samePCIeRoot => "same-pcie-root"
  | fabricClique => "fabric-clique"
  | fabricConnected => "fabric-connected"
  | bestEffort => "best-effort"
  | other s => s

def FailurePolicy.text : FailurePolicy → String
  | failClosed => "FailClosed"
  | bestEffort => "BestEffort"
  | other s => s

structure AcceleratorDevice where
  id : String
  vendor : AcceleratorVendor
  product : String
  resourceName : String
  numaNode : Option ℤ
  pcieRoot : String
  fabricGroup : String
  memoryMiB : ℤ
  health : Health
deriving DecidableEq, Repr

structure AcceleratorLink where
  source : String
  target : String
  type : LinkType
  bandwidthGBps : ℚ
  hops : ℤ
  health : Health
deriving DecidableEq, Repr

/-- `AcceleratorTopologySpec` without `source`, which no modelled function reads. -/
structure AcceleratorTopologySpec where
  nodeName : String
  observedGeneration : ℤ
  devices : List AcceleratorDevice
  links : List AcceleratorLink
deriving DecidableEq, Repr

structure DRAParameters where
  deviceCount : ℤ
deriving DecidableEq, Repr

structure ScoreWeights where
  locality : ℤ
  fabric : ℤ
  fragmentation : ℤ
  headroom : ℤ
deriving DecidableEq, Repr

structure AcceleratorPlacementPolicySpec where
  vendor : AcceleratorVendor
  products : List String
  minimumMemoryMiB : ℤ
  topologyMode : TopologyMode
  minimumLinkBandwidthGBps : ℚ
  maxFabricHops : ℤ
  allowUnknownTopology : Bool
  weights : ScoreWeights
  failurePolicy : FailurePolicy
  dra : Option DRAParameters
deriving DecidableEq, Repr

/-! ### Machine integers -/

/-- The `int32` with the same residue. -/
def wrap32 (n : ℤ) : ℤ := Int.bmod n (2 ^ 32)

/-- The `int64` with the same residue. -/
def wrap64 (n : ℤ) : ℤ := Int.bmod n (2 ^ 64)

theorem wrap64_eq {n : ℤ} (hlo : -2 ^ 63 ≤ n) (hhi : n < 2 ^ 63) : wrap64 n = n :=
  Int.bmod_eq_of_le_mul_two (by omega) (by omega)

/-- Beyond the range a number loses at least the modulus. -/
theorem wrap64_le_sub {n : ℤ} (h : 2 ^ 63 ≤ n) : wrap64 n ≤ n - 2 ^ 64 := by
  unfold wrap64
  rw [Int.bmod_def]
  split_ifs <;> omega

theorem wrap32_eq_iff {n m : ℤ} (hlo : 0 ≤ n) (hhi : n < 2 ^ 33) (hm : 0 ≤ m) (hm' : m < 2 ^ 31) :
    wrap32 n = m ↔ n = m ∨ n = 2 ^ 32 + m := by
  unfold wrap32
  rw [Int.bmod_def]
  split_ifs <;> omega

/-! ### Times -/

/-- `time.Time`: nanoseconds since Go's zero time. -/
abbrev Time := ℤ

/-- `time.Duration` in nanoseconds, an `int64`. -/
abbrev Duration := ℤ

/-- `t.Sub(u)`, which saturates at the ends of the `int64` range. -/
def Time.sub (t u : Time) : Duration := max (-2 ^ 63) (min (2 ^ 63 - 1) (t - u))

/-! ### Status -/

inductive ConditionStatus where
  | conditionTrue
  | conditionFalse
  | conditionUnknown
  | other (text : String)
deriving DecidableEq, Repr

/-- The fields of `metav1.Condition` that the code reads. -/
structure Condition where
  type : String
  status : ConditionStatus
  observedGeneration : ℤ
  reason : String
  message : String
deriving DecidableEq, Repr

structure AcceleratorTopologyStatus where
  conditions : List Condition
  lastHeartbeatTime : Option Time
deriving DecidableEq, Repr

/-- A topology object with the metadata that the code reads. -/
structure AcceleratorTopology where
  name : String
  generation : ℤ
  resourceVersion : String
  spec : AcceleratorTopologySpec
  status : AcceleratorTopologyStatus
deriving DecidableEq, Repr

structure OwnerReference where
  apiVersion : String
  kind : String
  name : String
  uid : String
  controller : Bool
  blockOwnerDeletion : Bool
deriving DecidableEq, Repr

/-- Library functions that the code calls: those of Kubernetes, and `strconv.IsPrint` for the
texts of errors. -/
class Kube extends GoText.IsPrint where
  /-- `validation.IsQualifiedName` reports no error. -/
  isQualifiedName : String → Bool
  /-- `corev1helper.IsExtendedResourceName`. -/
  isExtendedResourceName : String → Bool
  /-- `apiMeta.FindStatusCondition`. -/
  findStatusCondition : List Condition → String → Option Condition
  /-- `apiMeta.SetStatusCondition`, as the conditions that it leaves. -/
  setStatusCondition : List Condition → Condition → List Condition
  /-- `metav1.IsControlledBy` for the owners of an object and the UID of a possible owner. -/
  isControlledBy : List OwnerReference → String → Bool

/-- The first condition of the type is overwritten. -/
def overwriteCondition : List Condition → Condition → List Condition
  | [], new => [new]
  | c :: rest, new => if c.type = new.type then new :: rest else c :: overwriteCondition rest new

/-- The library functions as they behave on the names, conditions and owners of the concrete runs
below: one `/` at most, plain characters around it, the first condition of a type, and the first
controller. -/
@[reducible] def sampleKube : Kube where
  toIsPrint := GoText.asciiPrint
  isQualifiedName name := name.toList.all (fun c => c.isAlphanum || c ∈ ['/', '.', '-', '_']) &&
    decide (name.toList.count '/' ≤ 1)
  isExtendedResourceName name := name.toList.contains '/'
  findStatusCondition conditions type := conditions.find? (fun c => decide (c.type = type))
  setStatusCondition := overwriteCondition
  isControlledBy owners uid := (owners.find? (·.controller)).any (fun ref => decide (ref.uid = uid))

/-- A healthy device without placement facts. -/
def sampleDevice (id : String) : AcceleratorDevice where
  id := id
  vendor := .nvidia
  product := "H100"
  resourceName := "nvidia.com/gpu"
  numaNode := none
  pcieRoot := ""
  fabricGroup := ""
  memoryMiB := 81920
  health := .healthy

/-- A spec of the node `worker` at observed generation one. -/
def sampleSpec (devices : List AcceleratorDevice) (links : List AcceleratorLink) :
    AcceleratorTopologySpec where
  nodeName := "worker"
  observedGeneration := 1
  devices := devices
  links := links

/-- A topology object that its controller reported Ready at the given generation. -/
def sampleTopology (generation : ℤ) (spec : AcceleratorTopologySpec) : AcceleratorTopology where
  name := "worker"
  generation := generation
  resourceVersion := "1"
  spec := spec
  status := ⟨[⟨"Ready", .conditionTrue, generation, "ValidTopology",
    "topology graph passed validation"⟩], some 1⟩

/-- A policy for every vendor's devices with equal weights. -/
def samplePolicy (mode : TopologyMode) (failurePolicy : FailurePolicy) :
    AcceleratorPlacementPolicySpec where
  vendor := .any
  products := []
  minimumMemoryMiB := 0
  topologyMode := mode
  minimumLinkBandwidthGBps := 0
  maxFabricHops := 1
  allowUnknownTopology := false
  weights := ⟨25, 25, 25, 25⟩
  failurePolicy := failurePolicy
  dra := none

/-- Same-PCIe-root mode that also takes devices without a root. -/
def unknownRootPolicy : AcceleratorPlacementPolicySpec :=
  { samplePolicy .samePCIeRoot .failClosed with allowUnknownTopology := true }

end AcceleratorFabric
