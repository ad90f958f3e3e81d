import AcceleratorFabric.Snapshot
import AcceleratorFabric.GoScan

/-! # Discovery providers

A provider returns the topology of a node as a value in memory, where a slice may be nil or
empty.  `FixtureProvider` knows three nodes of eight devices; `NVIDIAProvider` parses the output
of two `nvidia-smi` commands: an inventory and a matrix of relationships.

`links_eq_empty_iff`: neither returns nil links, and the list of links is empty exactly if the
node has a single device. -/

namespace AcceleratorFabric.Discovery

open GoMap GoText GoScan

/-! ### Values in memory -/

inductive TopologySource where
  | fixture
  | nfd
  | vendor
  | dra
  | other (text : String)
deriving DecidableEq, Repr

/-- A Go slice: nil, or a list of elements. -/
abbrev Slice (α : Type) := Option (List α)

/-- `AcceleratorTopologySpec` as Go holds it. -/
structure TopologySpec where
  nodeName : String
  observedGeneration : ℤ
  source : TopologySource
  devices : Slice AcceleratorDevice
  links : Slice AcceleratorLink
deriving DecidableEq, Repr

/-- What the readers of a topology see of it: for them nil is an empty list. -/
def TopologySpec.read (spec : TopologySpec) : AcceleratorTopologySpec where
  nodeName := spec.nodeName
  observedGeneration := spec.observedGeneration
  devices := spec.devices.getD []
  links := spec.links.getD []

/-! ### Fixtures -/

structure AcceleratorFixture where
  nodeName : String
  idStart : String
  vendor : AcceleratorVendor
  product : String
  resourceName : String
  linkType : LinkType
  bandwidth : ℚ
  memoryMiB : ℤ
deriving DecidableEq, Repr

def fixtureDevice (fixture : AcceleratorFixture) (index : ℕ) : AcceleratorDevice where
  id := fixture.idStart ++ formatInt index
  vendor := fixture.vendor
  product := fixture.product
  resourceName := fixture.resourceName
  numaNode := some (index / 4 : ℕ)
  pcieRoot := "0000:" ++ String.ofList (hexDigits 2 (0x30 + index / 4 * 0x50))
  fabricGroup := fixture.linkType.text ++ "-clique-" ++ formatInt (index / 4 : ℕ)
  memoryMiB := fixture.memoryMiB
  health := .healthy

/-- A link between two devices of the fixture. -/
def fixtureLink (fixture : AcceleratorFixture) (left right : ℕ) : AcceleratorLink where
  source := (fixtureDevice fixture left).id
  target := (fixtureDevice fixture right).id
  type := fixture.linkType
  bandwidthGBps := fixture.bandwidth
  hops := 1
  health := .healthy

/-- The index pairs `left < right` from `start` on, row by row. -/
def pairsFrom (start count : ℕ) : List (ℕ × ℕ) :=
  (List.range' start count).flatMap fun left =>
    (List.range' (left + 1) (start + count - (left + 1))).map fun right => (left, right)

/-- Two cliques of four devices, joined by one PCIe link. -/
def buildTopology (fixture : AcceleratorFixture) : TopologySpec where
  nodeName := fixture.nodeName
  observedGeneration := 1
  source := .fixture
  devices := some ((List.range 8).map (fixtureDevice fixture))
  links := some (((List.range 2).flatMap fun group =>
      (pairsFrom (group * 4) 4).map fun p => fixtureLink fixture p.1 p.2) ++
    [{ fixtureLink fixture 3 4 with type := .pcie, bandwidthGBps := 64, hops := 2 }])

def threeNodeTopologies : List TopologySpec :=
  [⟨"accelerator-fabric-worker", "gpu", .nvidia, "H100-SXM", "nvidia.com/gpu", .nvlink, 450, 81920⟩,
   ⟨"accelerator-fabric-worker2", "ascend", .huawei, "Ascend-910B", "huawei.com/Ascend910", .hccs,
     392, 65536⟩,
   ⟨"accelerator-fabric-worker3", "gpu", .amd, "MI300X", "amd.com/gpu", .xgmi, 400, 196608⟩].map
    buildTopology

/-! ### Errors -/

inductive ProviderError where
  | noFixture (nodeName : String)
  | queryDevices (cause : String)
  | queryTopology (cause : String)
  | csv (cause : String)
  | noDevices
  | rowFields (count : ℕ)
  | indexes
  | memory (index : ℕ) (argument : String) (cause : NumError)
  | matrixRows (rows count : ℕ)
  | asymmetric (left right : ℕ) (code reverse : String)
  | unsupportedCode (code : String)
deriving DecidableEq, Repr

def ProviderError.message [IsPrint] : ProviderError → String
  | noFixture nodeName => "no fixture topology for node " ++ quote nodeName
  | queryDevices cause => "query nvidia devices: " ++ cause
  | queryTopology cause => "query nvidia topology: " ++ cause
  | csv cause => "parse nvidia-smi CSV: " ++ cause
  | noDevices => "nvidia-smi returned no devices"
  | rowFields count => "nvidia-smi CSV row has " ++ formatInt count ++ " fields, want 4"
  | indexes => "nvidia device indexes must be contiguous from zero"
  | memory index argument cause => "parse memory for GPU" ++ formatInt index ++ ": " ++
      cause.message "ParseInt" argument
  | matrixRows rows count => "nvidia topology matrix has " ++ formatInt rows ++
      " GPU rows, want " ++ formatInt count
  | asymmetric left right code reverse => "asymmetric NVIDIA topology relationship GPU" ++
      formatInt left ++ "-GPU" ++ formatInt right ++ ": " ++ quote code ++ " != " ++ quote reverse
  | unsupportedCode code => "unsupported NVIDIA topology code " ++ quote code

/-- `FixtureProvider.Discover`. -/
def discoverFixture (nodeName : String) : Except ProviderError TopologySpec :=
  match threeNodeTopologies.find? (fun spec => decide (spec.nodeName = nodeName)) with
  | some spec => .ok spec
  | none => .error (.noFixture nodeName)

/-! ### The inventory of `nvidia-smi` -/

/-- `ReadAll` of a reader of `encoding/csv`, which is not part of the repository. -/
class Csv where
  readAll : String → Except String (List (List String))

/-- The reader on texts without quotes, as in the concrete runs below. -/
@[reducible] def sampleCsv : Csv where
  readAll text := .ok ((lines text).map fun line =>
    (line.toList.splitOn ',').map String.ofList)

def gpuId (index : ℕ) : String := "gpu" ++ formatInt index

/-- One record of the inventory, after the devices so far. -/
def parseRecord (devices : List AcceleratorDevice) :
    List String → Except ProviderError AcceleratorDevice
  | [index, _, product, memory] =>
      if parseInt64 (trimSpace index) ≠ .ok (devices.length : ℤ) then .error .indexes
      else match parseInt64 (trimSpace memory) with
        | .error e => .error (.memory devices.length (trimSpace memory) e)
        | .ok memoryMiB => .ok {
            id := gpuId devices.length
            vendor := .nvidia
            product := trimSpace product
            resourceName := "nvidia.com/gpu"
            numaNode := none
            pcieRoot := ""
            fabricGroup := ""
            memoryMiB := memoryMiB
            health := .unknown }
  | record => .error (.rowFields record.length)

def parseRecords : List AcceleratorDevice → List (List String) →
    Except ProviderError (List AcceleratorDevice)
  | devices, [] => .ok devices
  | devices, record :: records =>
      match parseRecord devices record with
      | .error e => .error e
      | .ok device => parseRecords (devices ++ [device]) records

def parseNVIDIAQuery [Csv] (raw : String) : Except ProviderError (List AcceleratorDevice) :=
  match Csv.readAll (trimSpace raw) with
  | .error cause => .error (.csv cause)
  | .ok [] => .error .noDevices
  | .ok records => parseRecords [] records

/-! ### The matrix of `nvidia-smi` -/

/-- The codes among the words of a line by the index of its device, if the line is a row. -/
def wordsRow (count : ℕ) : List String → Option (ℕ × List String)
  | [] => none
  | first :: rest =>
      if rest.length < count || !startsWith first "GPU" then none
      else match parseInt64 (trimStart first "GPU") with
        | .error _ => none
        | .ok index => if 0 ≤ index ∧ index < count then some (index.toNat, rest.take count)
            else none

def matrixRow (count : ℕ) (line : String) : Option (ℕ × List String) :=
  wordsRow count (fields line)

/-- The rows of the matrix; of two for one device the later counts. -/
def matrixRows (count : ℕ) (raw : String) : GoMap ℕ (List String) :=
  literal ((lines raw).filterMap (matrixRow count))

/-- Type and hops of a relationship code. -/
def linkOfCode (code : String) : Option (LinkType × ℤ) :=
  if startsWith code "NV" then some (.nvlink, 1)
  else if code = "PIX" then some (.pcie, 1)
  else if code = "PXB" then some (.pcie, 2)
  else if code = "PHB" then some (.pcie, 3)
  else if code = "NODE" then some (.pcie, 4)
  else if code = "SYS" then some (.pcie, 5)
  else none

/-- A matrix of flags, row by row. -/
abbrev Matrix := List (List Bool)

def Matrix.linked (matrix : Matrix) (i j : ℕ) : Bool := (matrix.getD i []).getD j false

/-- Both flags of a pair set. -/
def Matrix.join (matrix : Matrix) (i j : ℕ) : Matrix :=
  (matrix.modify i fun row => row.set j true).modify j fun row => row.set i true

def codeAt (rows : GoMap ℕ (List String)) (i j : ℕ) : String :=
  ((rows.lookup i).getD []).getD j ""

/-- The loop over the pairs of the matrix: the links so far and the NVLink flags. -/
def parsePairs (rows : GoMap ℕ (List String)) : List AcceleratorLink → Matrix → List (ℕ × ℕ) →
    Except ProviderError (List AcceleratorLink × Matrix)
  | links, nvlink, [] => .ok (links, nvlink)
  | links, nvlink, (left, right) :: pairs =>
      let code := codeAt rows left right
      let reverse := codeAt rows right left
      if reverse ≠ code then .error (.asymmetric left right code reverse)
      else match linkOfCode code with
        | none => .error (.unsupportedCode code)
        | some (type, hops) =>
            let link : AcceleratorLink := ⟨gpuId left, gpuId right, type, 0, hops, .unknown⟩
            parsePairs rows (links ++ [link])
              (if startsWith code "NV" then nvlink.join left right else nvlink) pairs

/-! ### NVLink cliques -/

/-- The neighbours of a device that were not visited yet, with their visits. -/
def visitNeighbors : List Bool → List ℕ → List (Bool × ℕ) → List Bool × List ℕ
  | visited, component, [] => (visited, component)
  | visited, component, (linked, neighbor) :: row =>
      if linked && !visited.getD neighbor true then
        visitNeighbors (visited.set neighbor true) (component ++ [neighbor]) row
      else visitNeighbors visited component row

/-- The loop that completes a component, for at most `fuel` of its members. -/
def collect (matrix : Matrix) : ℕ → ℕ → List Bool → List ℕ → List Bool × List ℕ
  | 0, _, visited, component => (visited, component)
  | fuel + 1, cursor, visited, component =>
      if cursor < component.length then
        let (visited, component) :=
          visitNeighbors visited component (matrix.getD (component.getD cursor 0) []).zipIdx
        collect matrix fuel (cursor + 1) visited component
      else (visited, component)

/-- Every member is linked to every later one. -/
def allLinked (matrix : Matrix) : List ℕ → Bool
  | [] => true
  | i :: rest => rest.all (matrix.linked i) && allLinked matrix rest

structure CliqueState where
  groups : List String
  visited : List Bool
  groupIndex : ℕ

def cliqueStep (matrix : Matrix) (s : CliqueState) (start : ℕ) : CliqueState :=
  if s.visited.getD start true then s
  else
    -- a component has no more members than the matrix has rows
    let (visited, component) := collect matrix matrix.length 0 (s.visited.set start true) [start]
    if 1 < component.length ∧ allLinked matrix component = true then
      let name := "nvlink-clique-" ++ formatInt s.groupIndex
      ⟨component.foldl (fun groups device => groups.set device name) s.groups, visited,
        s.groupIndex + 1⟩
    else ⟨s.groups, visited, s.groupIndex⟩

def completeNVLinkGroups (matrix : Matrix) : List String :=
  ((List.range matrix.length).foldl (cliqueStep matrix)
    ⟨List.replicate matrix.length "", List.replicate matrix.length false, 0⟩).groups

def parseNVIDIATopology (raw : String) (count : ℕ) :
    Except ProviderError (List AcceleratorLink × List String) :=
  let rows := matrixRows count raw
  if rows.keys.card ≠ count then .error (.matrixRows rows.keys.card count)
  else match parsePairs rows [] (List.replicate count (List.replicate count false))
      (pairsFrom 0 count) with
    | .error e => .error e
    | .ok (links, nvlink) => .ok (links, completeNVLinkGroups nvlink)

/-- The devices with their fabric groups. -/
def labelled (devices : List AcceleratorDevice) (groups : List String) : List AcceleratorDevice :=
  List.zipWith (fun device group => { device with fabricGroup := group }) devices groups

/-- `NVIDIAProvider.Discover` for what the two commands return. -/
def discoverNVIDIA [Csv] (query topo : Except String String) (nodeName : String) :
    Except ProviderError TopologySpec :=
  match query with
  | .error cause => .error (.queryDevices cause)
  | .ok query =>
      match topo with
      | .error cause => .error (.queryTopology cause)
      | .ok topo =>
          match parseNVIDIAQuery query with
          | .error e => .error e
          | .ok devices =>
              match parseNVIDIATopology topo devices.length with
              | .error e => .error e
              | .ok (links, cliques) => .ok {
                  nodeName := nodeName
                  observedGeneration := 0
                  source := .vendor
                  devices := some (labelled devices cliques)
                  links := some links }

/-- The inversion of `discoverNVIDIA`. -/
theorem discoverNVIDIA_cases [Csv] {query topo : Except String String} {nodeName : String}
    {spec : TopologySpec} (h : discoverNVIDIA query topo nodeName = .ok spec) :
    ∃ inventory matrix devices links groups, query = .ok inventory ∧ topo = .ok matrix ∧
      parseNVIDIAQuery inventory = .ok devices ∧
      parseNVIDIATopology matrix devices.length = .ok (links, groups) ∧
      spec = ⟨nodeName, 0, .vendor, some (labelled devices groups), some links⟩ := by
  unfold discoverNVIDIA at h
  split at h
  · cases h
  · split at h
    · cases h
    · split at h
      · cases h
      · rename_i devices hdevices
        split at h
        · cases h
        · rename_i links groups hparse
          cases h
          exact ⟨_, _, devices, links, groups, rfl, rfl, hdevices, hparse, rfl⟩

/-! ### The pairs of the matrix -/

/-- The link of a pair with the type and hops of its code. -/
def relationLink (p : ℕ × ℕ) (relation : LinkType × ℤ) : AcceleratorLink :=
  ⟨gpuId p.1, gpuId p.2, relation.1, 0, relation.2, .unknown⟩

/-- The link of a pair, if its code is a supported one. -/
def pairLink (rows : GoMap ℕ (List String)) (p : ℕ × ℕ) : Option AcceleratorLink :=
  (linkOfCode (codeAt rows p.1 p.2)).map (relationLink p)

/-- The NVLink flags after a pair. -/
def joinPair (rows : GoMap ℕ (List String)) (nvlink : Matrix) (p : ℕ × ℕ) : Matrix :=
  if startsWith (codeAt rows p.1 p.2) "NV" then nvlink.join p.1 p.2 else nvlink

/-- The loop passes exactly when every pair has the same supported code in both directions. -/
theorem parsePairs_eq_ok_iff {rows : GoMap ℕ (List String)} {result : List AcceleratorLink × Matrix} :
    ∀ {pairs : List (ℕ × ℕ)} {links : List AcceleratorLink} {nvlink : Matrix},
    parsePairs rows links nvlink pairs = .ok result ↔
      (∀ p ∈ pairs, codeAt rows p.2 p.1 = codeAt rows p.1 p.2) ∧
        ∃ found : List AcceleratorLink, found.map some = pairs.map (pairLink rows) ∧
          result = (links ++ found, pairs.foldl (joinPair rows) nvlink)
  | [], links, nvlink => by
      simp only [parsePairs, List.map_nil, List.map_eq_nil_iff, List.foldl_nil, Except.ok.injEq]
      simp [eq_comm]
  | (left, right) :: pairs, links, nvlink => by
      simp only [parsePairs, List.forall_mem_cons, List.map_cons, List.foldl_cons]
      by_cases hsymm : codeAt rows right left = codeAt rows left right
      · rw [if_neg (not_not.mpr hsymm)]
        cases hlink : linkOfCode (codeAt rows left right) with
        | none =>
            refine iff_of_false (fun h => by cases h) ?_
            rintro ⟨_, found, hfound, _⟩
            rw [pairLink, hlink] at hfound
            cases found <;> simp at hfound
        | some relation =>
            rw [parsePairs_eq_ok_iff, pairLink, hlink]
            constructor
            · rintro ⟨hrest, found, hfound, hresult⟩
              refine ⟨⟨hsymm, hrest⟩, relationLink (left, right) relation :: found, ?_, ?_⟩
              · rw [List.map_cons, hfound]
                rfl
              · rw [hresult, List.append_assoc]
                rfl
            · rintro ⟨⟨_, hrest⟩, found, hfound, hresult⟩
              cases found with
              | nil => cases hfound
              | cons l found =>
                  obtain ⟨hl, hfound⟩ := List.cons.inj hfound
                  refine ⟨hrest, found, hfound, ?_⟩
                  rw [hresult, Option.some_inj.mp hl, List.append_assoc]
                  rfl
      · rw [if_pos hsymm]
        exact iff_of_false (fun h => by cases h) fun h => hsymm h.1.1

/-- The NVLink flags of the matrix in the rows. -/
def nvlinkFlags (rows : GoMap ℕ (List String)) (count : ℕ) : Matrix :=
  (pairsFrom 0 count).foldl (joinPair rows) (List.replicate count (List.replicate count false))

/-- `parseNVIDIATopology` accepts exactly the texts with a row for every device and the same
supported code in both directions of every pair. -/
theorem parseNVIDIATopology_eq_ok_iff {raw : String} {count : ℕ} {links : List AcceleratorLink}
    {groups : List String} : parseNVIDIATopology raw count = .ok (links, groups) ↔
      (matrixRows count raw).keys.card = count ∧
        (∀ p ∈ pairsFrom 0 count, codeAt (matrixRows count raw) p.2 p.1 =
          codeAt (matrixRows count raw) p.1 p.2) ∧
        links.map some = (pairsFrom 0 count).map (pairLink (matrixRows count raw)) ∧
        groups = completeNVLinkGroups (nvlinkFlags (matrixRows count raw) count) := by
  unfold parseNVIDIATopology
  simp only
  by_cases hcard : (matrixRows count raw).keys.card = count
  · rw [if_neg (not_not.mpr hcard)]
    constructor
    · intro h
      split at h
      · cases h
      · rename_i hpairs
        cases h
        obtain ⟨hsymm, found, hfound, hresult⟩ := parsePairs_eq_ok_iff.mp hpairs
        obtain ⟨rfl, rfl⟩ := Prod.mk.inj hresult
        exact ⟨hcard, hsymm, hfound, rfl⟩
    · rintro ⟨_, hsymm, hlinks, rfl⟩
      rw [parsePairs_eq_ok_iff.mpr ⟨hsymm, links, hlinks, rfl⟩]
      rfl
  · rw [if_pos hcard]
    exact iff_of_false (fun h => by cases h) fun h => hcard h.1

theorem mem_pairsFrom {start count : ℕ} {p : ℕ × ℕ} :
    p ∈ pairsFrom start count ↔ start ≤ p.1 ∧ p.1 < p.2 ∧ p.2 < start + count := by
  obtain ⟨left, right⟩ := p
  simp only [pairsFrom, List.mem_flatMap, List.mem_map, List.mem_range'_1, Prod.mk.injEq]
  constructor
  · rintro ⟨i, hi, j, hj, rfl, rfl⟩
    omega
  · intro h
    exact ⟨left, by omega, right, by omega, rfl, rfl⟩

theorem nodup_pairsFrom (start count : ℕ) : (pairsFrom start count).Nodup := by
  unfold pairsFrom
  rw [List.nodup_flatMap]
  refine ⟨fun left _ => List.Nodup.map (fun i j h => (Prod.mk.inj h).2) List.nodup_range', ?_⟩
  refine List.Pairwise.imp ?_ (List.nodup_range' (s := start) (n := count))
  intro i j hne p hi hj
  obtain ⟨_, _, rfl⟩ := List.mem_map.mp hi
  obtain ⟨_, _, hp⟩ := List.mem_map.mp hj
  exact hne (Prod.mk.inj hp).1.symm

/-! ### Lengths -/

theorem length_foldl_joinPair (rows : GoMap ℕ (List String)) : ∀ (pairs : List (ℕ × ℕ))
    (nvlink : Matrix), (pairs.foldl (joinPair rows) nvlink).length = nvlink.length
  | [], _ => rfl
  | p :: pairs, nvlink => by
      have hjoin : (joinPair rows nvlink p).length = nvlink.length := by
        unfold joinPair
        split_ifs
        · simp [Matrix.join]
        · rfl
      rw [List.foldl_cons, length_foldl_joinPair rows pairs, hjoin]

theorem length_nvlinkFlags (rows : GoMap ℕ (List String)) (count : ℕ) :
    (nvlinkFlags rows count).length = count := by
  rw [nvlinkFlags, length_foldl_joinPair, List.length_replicate]

theorem length_foldl_set (name : String) : ∀ (component : List ℕ) (groups : List String),
    (component.foldl (fun groups device => groups.set device name) groups).length = groups.length
  | [], _ => rfl
  | device :: component, groups => by
      rw [List.foldl_cons, length_foldl_set name component, List.length_set]

theorem length_cliqueStep (matrix : Matrix) (s : CliqueState) (start : ℕ) :
    (cliqueStep matrix s start).groups.length = s.groups.length := by
  unfold cliqueStep
  split_ifs
  · rfl
  · simp only
    split_ifs
    · exact length_foldl_set _ _ _
    · rfl

theorem length_foldl_cliqueStep (matrix : Matrix) : ∀ (starts : List ℕ) (s : CliqueState),
    (starts.foldl (cliqueStep matrix) s).groups.length = s.groups.length
  | [], _ => rfl
  | start :: starts, s => by
      rw [List.foldl_cons, length_foldl_cliqueStep matrix starts, length_cliqueStep]

/-- Every device has a group label. -/
theorem length_completeNVLinkGroups (matrix : Matrix) :
    (completeNVLinkGroups matrix).length = matrix.length := by
  unfold completeNVLinkGroups
  rw [length_foldl_cliqueStep, List.length_replicate]

theorem length_groups {raw : String} {count : ℕ} {links : List AcceleratorLink}
    {groups : List String} (h : parseNVIDIATopology raw count = .ok (links, groups)) :
    groups.length = count := by
  obtain ⟨_, _, _, rfl⟩ := parseNVIDIATopology_eq_ok_iff.mp h
  rw [length_completeNVLinkGroups, length_nvlinkFlags]

theorem length_labelled (devices : List AcceleratorDevice) {groups : List String}
    (h : groups.length = devices.length) : (labelled devices groups).length = devices.length := by
  rw [labelled, List.length_zipWith, h, Nat.min_self]

theorem length_parseRecords : ∀ {records : List (List String)}
    {devices result : List AcceleratorDevice}, parseRecords devices records = .ok result →
      result.length = devices.length + records.length
  | [], devices, result, h => by
      rw [← Except.ok.inj h]
      rfl
  | record :: records, devices, result, h => by
      simp only [parseRecords] at h
      split at h
      · cases h
      · rw [length_parseRecords h, List.length_append, List.length_cons, List.length_cons,
          List.length_nil]
        omega

theorem parseNVIDIAQuery_length_pos [Csv] {raw : String} {devices : List AcceleratorDevice}
    (h : parseNVIDIAQuery raw = .ok devices) : 1 ≤ devices.length := by
  unfold parseNVIDIAQuery at h
  split at h
  · cases h
  · cases h
  · rename_i records hne _
    rw [length_parseRecords h]
    have hpos : 0 < records.length := List.length_pos_iff.mpr fun hnil => hne (by rw [hnil])
    omega

theorem pairsFrom_eq_nil_iff {count : ℕ} (h : 1 ≤ count) : pairsFrom 0 count = [] ↔ count = 1 := by
  constructor
  · intro hnil
    by_contra hne
    have hmem : (0, 1) ∈ pairsFrom 0 count := mem_pairsFrom.mpr ⟨by simp, by simp, by simp; omega⟩
    rw [hnil] at hmem
    cases hmem
  · rintro rfl
    rfl

/-! ### What providers return -/

inductive Provider where
  | fixture
  | nvidia
deriving DecidableEq, Repr

def Provider.name : Provider → String
  | fixture => "fixture"
  | nvidia => "nvidia-smi"

/-- The provider may return the spec for the node. -/
def Discovers [Csv] : Provider → String → TopologySpec → Prop
  | .fixture, nodeName, spec => discoverFixture nodeName = .ok spec
  | .nvidia, nodeName, spec => ∃ query topo, discoverNVIDIA query topo nodeName = .ok spec

def TopologySpec.deviceCount (spec : TopologySpec) : ℕ := (spec.devices.getD []).length

theorem discoverNVIDIA_links [Csv] {query topo : Except String String} {nodeName : String}
    {spec : TopologySpec} (h : discoverNVIDIA query topo nodeName = .ok spec) :
    spec.links ≠ none ∧ (spec.links = some [] ↔ spec.deviceCount = 1) := by
  obtain ⟨_, _, devices, links, groups, _, _, hquery, htopo, rfl⟩ := discoverNVIDIA_cases h
  obtain ⟨_, _, hlinks, _⟩ := parseNVIDIATopology_eq_ok_iff.mp htopo
  have hlength := congrArg List.length hlinks
  rw [List.length_map, List.length_map] at hlength
  have hcount := length_labelled devices (length_groups htopo)
  refine ⟨Option.some_ne_none _, ?_⟩
  rw [TopologySpec.deviceCount, Option.getD_some, hcount,
    ← pairsFrom_eq_nil_iff (parseNVIDIAQuery_length_pos hquery), Option.some_inj,
    ← List.length_eq_zero_iff, ← List.length_eq_zero_iff, hlength]

theorem discoverFixture_links {nodeName : String} {spec : TopologySpec}
    (h : discoverFixture nodeName = .ok spec) :
    spec.links ≠ none ∧ (spec.links = some [] ↔ spec.deviceCount = 1) := by
  have hall : ∀ t ∈ threeNodeTopologies,
      t.links ≠ none ∧ t.links ≠ some [] ∧ t.deviceCount ≠ 1 := by
    decide +kernel
  unfold discoverFixture at h
  split at h
  · rename_i found hfound
    cases h
    obtain ⟨hnil, hempty, hcount⟩ := hall _ (List.mem_of_find?_eq_some hfound)
    exact ⟨hnil, iff_of_false hempty hcount⟩
  · cases h

/-- The links that a provider returns are not nil, and empty exactly for a single device. -/
theorem links_eq_empty_iff [Csv] {provider : Provider} {nodeName : String} {spec : TopologySpec}
    (h : Discovers provider nodeName spec) :
    spec.links ≠ none ∧ (spec.links = some [] ↔ spec.deviceCount = 1) := by
  cases provider with
  | fixture => exact discoverFixture_links h
  | nvidia =>
      obtain ⟨query, topo, hdiscover⟩ := h
      exact discoverNVIDIA_links hdiscover

theorem nodeName_of_discovers [Csv] {provider : Provider} {nodeName : String} {spec : TopologySpec}
    (h : Discovers provider nodeName spec) : spec.nodeName = nodeName := by
  cases provider with
  | fixture =>
      simp only [Discovers, discoverFixture] at h
      split at h
      · rename_i found hfound
        cases h
        simpa using List.find?_some hfound
      · cases h
  | nvidia =>
      obtain ⟨query, topo, hdiscover⟩ := h
      obtain ⟨_, _, _, _, _, _, _, _, _, rfl⟩ := discoverNVIDIA_cases hdiscover
      rfl

end AcceleratorFabric.Discovery
