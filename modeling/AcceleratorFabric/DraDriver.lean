import AcceleratorFabric.DraResources
import AcceleratorFabric.FaultyDisk
import AcceleratorFabric.GoPath
import AcceleratorFabric.GoText

/-! # The DRA driver

`Driver` prepares allocated claims: it writes a CDI file for each, keeps the prepared claims and
the owner of every device in memory, and stores the prepared claims in one state file from which
a restarted driver loads them.  The calls are programs over a disk that may fail at any request;
what a call does then (rollback in memory, removal or rewriting of the CDI file) is part of the
model. -/

namespace AcceleratorFabric.Dra

open GoMap GoText FaultyDisk

def stateVersion : ℤ := 1

structure AllocatedDevice where
  request : String
  pool : String
  device : String
  shareID : String
deriving DecidableEq, Repr

def deviceKey (device : AllocatedDevice) : String := device.pool ++ "/" ++ device.device

structure PreparedClaim where
  namespaceName : String
  name : String
  uid : String
  devices : List AllocatedDevice
  cdiFile : String
  cdiID : String
deriving DecidableEq, Repr

structure PersistedState where
  version : ℤ
  claims : GoMap String PreparedClaim
deriving DecidableEq

structure CdiDevice where
  name : String
  env : List String
deriving DecidableEq, Repr

structure CdiSpec where
  cdiVersion : String
  kind : String
  devices : List CdiDevice
deriving DecidableEq, Repr

/-- The package `encoding/json` at the two types the driver stores; contents are `C`. -/
class Json (C : Type) where
  encodeState : PersistedState → C
  encodeSpec : CdiSpec → C
  /-- The error is the text of the decoder. -/
  decodeState : C → Except String PersistedState
  decode_encode : ∀ claims,
    decodeState (encodeState ⟨stateVersion, claims⟩) = .ok ⟨stateVersion, claims⟩

/-- `sort.Slice`, which need not be stable. -/
class SortSlice where
  sort : {α : Type} → (α → α → Bool) → List α → List α
  perm : ∀ {α : Type} (less : α → α → Bool) (l : List α), (sort less l).Perm l

/-- The arguments of `NewDriver`. -/
structure Config where
  driverName : String
  nodeName : String
  statePath : String
  cdiDir : String
deriving DecidableEq, Repr

/-- An argument of `NewDriver` is missing. -/
def Config.Incomplete (cfg : Config) : Prop :=
  cfg.driverName = "" ∨ cfg.nodeName = "" ∨ cfg.statePath = "" ∨ cfg.cdiDir = ""

instance (cfg : Config) : Decidable cfg.Incomplete :=
  inferInstanceAs (Decidable (_ ∨ _))

/-- The maps of a driver with the given configuration. -/
structure Driver (cfg : Config) where
  prepared : GoMap String PreparedClaim
  owners : GoMap String String
deriving DecidableEq

/-! ### Claims and results -/

structure AllocationResult where
  request : String
  driver : String
  pool : String
  device : String
  shareID : Option String
deriving DecidableEq, Repr

/-- A resource claim; `allocation` are the results of an allocated one. -/
structure ResourceClaim where
  namespaceName : String
  name : String
  uid : String
  allocation : Option (List AllocationResult)
deriving DecidableEq, Repr

structure KubeletDevice where
  requests : List String
  poolName : String
  deviceName : String
  cdiDeviceIDs : List String
  shareID : Option String
deriving DecidableEq, Repr

inductive DriverError where
  | configRequired
  | createStateDirectory (cause : FileError String)
  | createCDIDirectory (cause : FileError String)
  | claimRequired
  | notAllocated (namespaceName name : String)
  | wrongPool (device pool nodePool : String)
  | noAllocation (namespaceName name driverName : String)
  | allocationChanged (uid : String)
  | alreadyPrepared (key owner : String)
  | removeCDI (cause : FileError String)
  | readState (cause : FileError String)
  | decodeState (cause : String)
  | unsupportedVersion (version : ℤ)
  | claimKey (key : String)
  | ownedTwice (key owner uid : String)
  | writeCDI (cause : FileError String)
  | persist (cause : FileError String)
  | restoreCDI (cause restore : DriverError)
deriving DecidableEq, Repr

/-- The text of an error of package `os`, without the operation and the path before it. -/
def causeText : FileError String → String
  | .notExist => "no such file or directory"
  | .failed text => text

def DriverError.message [IsPrint] : DriverError → String
  | configRequired => "driver name, node name, state path, and CDI directory are required"
  | createStateDirectory e => "create state directory: " ++ causeText e
  | createCDIDirectory e => "create CDI directory: " ++ causeText e
  | claimRequired => "claim and claim UID are required"
  | notAllocated ns name => "claim " ++ ns ++ "/" ++ name ++ " is not allocated"
  | wrongPool device pool nodePool => "device " ++ quote device ++ " belongs to pool " ++
      quote pool ++ ", not node pool " ++ quote nodePool
  | noAllocation ns name driverName => "claim " ++ ns ++ "/" ++ name ++
      " has no allocation for driver " ++ quote driverName
  | allocationChanged uid => "claim " ++ quote uid ++ " allocation changed after preparation"
  | alreadyPrepared key owner => "allocated device " ++ quote key ++
      " is already prepared for claim " ++ quote owner
  | removeCDI e => "remove CDI file: " ++ causeText e
  | readState e => "read DRA state: " ++ causeText e
  | decodeState text => "decode DRA state: " ++ text
  | unsupportedVersion version => "unsupported DRA state version " ++ formatInt version
  | claimKey key => "invalid persisted claim key " ++ quote key
  | ownedTwice key owner uid => "persisted device " ++ quote key ++ " is owned by claims " ++
      quote owner ++ " and " ++ quote uid
  | writeCDI e => "write CDI spec: " ++ causeText e
  | persist e => "persist DRA state: " ++ causeText e
  | restoreCDI cause restore => cause.message ++ "\n" ++
      "restore CDI file after state failure: " ++ restore.message

def PreparedClaim.keys (prepared : PreparedClaim) : List String := prepared.devices.map deviceKey

/-- The CDI file of a claim. -/
def cdiFile (cfg : Config) (uid : String) : String :=
  GoPath.join [cfg.cdiDir, "accelerator-" ++ uid ++ ".json"]

/-- The loop over the allocation results. -/
def allocatedDevices (cfg : Config) :
    List AllocationResult → Except DriverError (List AllocatedDevice)
  | [] => .ok []
  | result :: rest =>
      if result.driver ≠ cfg.driverName then allocatedDevices cfg rest
      else if result.pool ≠ cfg.nodeName then
        .error (.wrongPool result.device result.pool cfg.nodeName)
      else match allocatedDevices cfg rest with
        | .error e => .error e
        | .ok devices =>
            .ok (⟨result.request, result.pool, result.device, result.shareID.getD ""⟩ :: devices)

/-- The order of the prepared devices. -/
def deviceLess (left right : AllocatedDevice) : Bool :=
  if left.pool ≠ right.pool then left.pool < right.pool else left.device < right.device

/-- The part of `prepareClaim` before it takes the lock: the claim to prepare. -/
def preparedClaimFor [SortSlice] (cfg : Config) :
    Option ResourceClaim → Except DriverError PreparedClaim
  | none => .error .claimRequired
  | some claim =>
      if claim.uid = "" then .error .claimRequired
      else match claim.allocation with
        | none => .error (.notAllocated claim.namespaceName claim.name)
        | some results =>
            match allocatedDevices cfg results with
            | .error e => .error e
            | .ok [] => .error (.noAllocation claim.namespaceName claim.name cfg.driverName)
            | .ok (device :: devices) => .ok {
                namespaceName := claim.namespaceName
                name := claim.name
                uid := claim.uid
                devices := SortSlice.sort deviceLess (device :: devices)
                cdiFile := cdiFile cfg claim.uid
                cdiID := cfg.driverName ++ "/device=claim-" ++ claim.uid }

def kubeletDevices (prepared : PreparedClaim) : List KubeletDevice :=
  prepared.devices.mapIdx fun index allocated => {
    requests := [allocated.request]
    poolName := allocated.pool
    deviceName := allocated.device
    cdiDeviceIDs := if index = 0 then [prepared.cdiID] else []
    shareID := if allocated.shareID ≠ "" then some allocated.shareID else none }

/-! ### Files -/

/-- A program over the driver's files. -/
abbrev Program (C α : Type) := Prog String C String α

variable {C : Type} {cfg : Config}

/-- The temporary file of `atomicWrite`. -/
def temporary (path : String) : String := path ++ ".tmp"

def atomicWrite (path : String) (content : C) : Program C (Except (FileError String) Unit) := do
  match ← Prog.request (.writeFile (temporary path) content) with
  | .error e => pure (.error e)
  | .ok _ =>
      match ← Prog.request (.rename (temporary path) path) with
      | .error e => do
          let _ ← Prog.request (.remove (temporary path))
          pure (.error e)
      | .ok _ => pure (.ok ())

def cdiSpec (cfg : Config) (prepared : PreparedClaim) : CdiSpec where
  cdiVersion := "0.3.0"
  kind := cfg.driverName ++ "/device"
  devices := [⟨"claim-" ++ prepared.uid,
    ["BUPT_DRA_CLAIM_UID=" ++ prepared.uid,
      "BUPT_DRA_DEVICE_IDS=" ++ ",".intercalate prepared.keys]⟩]

variable [Json C]

def writeCDI (cfg : Config) (prepared : PreparedClaim) : Program C (Except DriverError Unit) := do
  match ← atomicWrite prepared.cdiFile (Json.encodeSpec (cdiSpec cfg prepared)) with
  | .error e => pure (.error (.writeCDI e))
  | .ok _ => pure (.ok ())

namespace Driver

def persist (d : Driver cfg) : Program C (Except DriverError Unit) := do
  match ← atomicWrite cfg.statePath (Json.encodeState ⟨stateVersion, d.prepared⟩) with
  | .error e => pure (.error (.persist e))
  | .ok _ => pure (.ok ())

/-! ### Calls -/

/-- The claim and its devices entered in the maps. -/
def record (d : Driver cfg) (uid : String) (prepared : PreparedClaim) : Driver cfg where
  prepared := d.prepared.insert uid prepared
  owners := insertAll d.owners prepared.keys uid

/-- The claim and its devices deleted from the maps. -/
def forget (d : Driver cfg) (uid : String) (prepared : PreparedClaim) : Driver cfg where
  prepared := d.prepared.erase uid
  owners := eraseAll d.owners prepared.keys

/-- The first device that another claim owns. -/
def conflict (d : Driver cfg) (uid : String) : List String → Option DriverError
  | [] => none
  | key :: keys =>
      let owner := (d.owners.lookup key).getD ""
      if owner ≠ "" ∧ owner ≠ uid then some (.alreadyPrepared key owner) else d.conflict uid keys

/-- `prepareClaim` for a claim that is not prepared yet and has no conflict. -/
def prepareNew (d : Driver cfg) (prepared : PreparedClaim) :
    Program C (Except DriverError (List KubeletDevice) × Driver cfg) := do
  match ← writeCDI cfg prepared with
  | .error e => pure (.error e, d)
  | .ok _ =>
      match ← (d.record prepared.uid prepared).persist with
      | .error e => do
          let _ ← Prog.request (.remove prepared.cdiFile)
          pure (.error e, (d.record prepared.uid prepared).forget prepared.uid prepared)
      | .ok _ => pure (.ok (kubeletDevices prepared), d.record prepared.uid prepared)

/-- `prepareClaim` for a claim that is prepared already. -/
def prepareAgain (d : Driver cfg) (existing : PreparedClaim) :
    Program C (Except DriverError (List KubeletDevice) × Driver cfg) := do
  match ← writeCDI cfg existing with
  | .error e => pure (.error e, d)
  | .ok _ => pure (.ok (kubeletDevices existing), d)

def prepareClaim [SortSlice] (d : Driver cfg) (claim : Option ResourceClaim) :
    Program C (Except DriverError (List KubeletDevice) × Driver cfg) :=
  match preparedClaimFor cfg claim with
  | .error e => pure (.error e, d)
  | .ok prepared =>
      match d.prepared.lookup prepared.uid with
      | some existing =>
          if existing.devices ≠ prepared.devices then
            pure (.error (.allocationChanged prepared.uid), d)
          else d.prepareAgain existing
      | none =>
          match d.conflict prepared.uid prepared.keys with
          | some e => pure (.error e, d)
          | none => d.prepareNew prepared

/-- `unprepareClaim` after the CDI file is gone. -/
def dropClaim (d : Driver cfg) (uid : String) (prepared : PreparedClaim) :
    Program C (Option DriverError × Driver cfg) := do
  match ← (d.forget uid prepared).persist with
  | .error e => do
      match ← writeCDI cfg prepared with
      | .error restore =>
          pure (some (.restoreCDI e restore), (d.forget uid prepared).record uid prepared)
      | .ok _ => pure (some e, (d.forget uid prepared).record uid prepared)
  | .ok _ => pure (none, d.forget uid prepared)

def unprepareClaim (d : Driver cfg) (uid : String) : Program C (Option DriverError × Driver cfg) :=
  match d.prepared.lookup uid with
  | none => pure (none, d)
  | some prepared => do
      match ← Prog.request (.remove prepared.cdiFile) with
      | .error (.failed e) => pure (some (.removeCDI (.failed e)), d)
      | .error .notExist => d.dropClaim uid prepared
      | .ok _ => d.dropClaim uid prepared

/-! ### Start -/

/-- The devices of a loaded claim get their owner, unless one has an owner already. -/
def adoptDevices (uid : String) :
    GoMap String String → List String → Except DriverError (GoMap String String)
  | owners, [] => .ok owners
  | owners, key :: keys =>
      let owner := (owners.lookup key).getD ""
      if owner ≠ "" then .error (.ownedTwice key owner uid)
      else adoptDevices uid (owners.insert key uid) keys

/-- The loop over the claims of the state file. -/
def loadClaims (d : Driver cfg) :
    List (String × PreparedClaim) → Program C (Except DriverError (Driver cfg))
  | [] => pure (.ok d)
  | (key, prepared) :: rest =>
      if prepared.uid ≠ key ∨ prepared.uid = "" then pure (.error (.claimKey key))
      else match adoptDevices prepared.uid d.owners prepared.keys with
        | .error e => pure (.error e)
        | .ok owners => do
            match ← writeCDI cfg prepared with
            | .error e => pure (.error e)
            | .ok _ =>
                loadClaims ⟨d.prepared.insert prepared.uid prepared, owners⟩ rest

/-- `load`, with the order in which the claims are visited. -/
def load (d : Driver cfg) (order : Iteration String PreparedClaim) :
    Program C (Except DriverError (Driver cfg)) := do
  match ← Prog.request (.readFile cfg.statePath) with
  | .error .notExist => pure (.ok d)
  | .error (.failed e) => pure (.error (.readState (.failed e)))
  | .ok content =>
      match Json.decodeState content with
      | .error text => pure (.error (.decodeState text))
      | .ok state =>
          if state.version ≠ stateVersion then pure (.error (.unsupportedVersion state.version))
          else d.loadClaims (order.list state.claims)

end Driver

def newDriver (cfg : Config) (order : Iteration String PreparedClaim) :
    Program C (Except DriverError (Driver cfg)) :=
  if cfg.Incomplete then pure (.error .configRequired)
  else do
    match ← Prog.request (.mkdirAll (GoPath.dir cfg.statePath)) with
    | .error e => pure (.error (.createStateDirectory e))
    | .ok _ =>
        match ← Prog.request (.mkdirAll cfg.cdiDir) with
        | .error e => pure (.error (.createCDIDirectory e))
        | .ok _ => (Driver.mk ∅ ∅ : Driver cfg).load order

end AcceleratorFabric.Dra
