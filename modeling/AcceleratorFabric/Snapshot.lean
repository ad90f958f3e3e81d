import AcceleratorFabric.Api
import AcceleratorFabric.GoMap
import AcceleratorFabric.GoText

/-! # Topology snapshots

`Build` validates a topology spec and indexes it.  Its two loops (`indexDevices`, `indexLinks`)
are translated with their checks in the order of the source; each of them either stops at the
first failed check or performs a pure accumulation (`addDevices`, `addLinks`), so `Build`
accepts exactly the specs that pass every check (`Accepted`) and then returns `assemble spec`
(`buildData_eq_ok_iff`), in whatever order its sorts leave equal keys (`buildFrom_eq_ok_iff`).

A `Snapshot` is data that `Build` has returned for some spec, as in the source, where its
fields are private to the package.  The facts that selection needs follow from that: device
IDs are distinct and not blank, and `LinkBetween` is symmetric up to swapping the endpoints. -/

namespace AcceleratorFabric.Topology

open GoMap GoText

/-! ### Validation -/

inductive DeviceError where
  | idRequired
  | resourceName (name : String)
  | vendor (vendor : AcceleratorVendor)
  | productRequired
  | numaNegative
  | memoryNegative
  | health (health : Health)
deriving DecidableEq, Repr

inductive LinkError where
  | selfLink
  | sourceMissing
  | targetMissing
  | type (type : LinkType)
  | bandwidthNegative
  | hopsNegative
  | health (health : Health)
deriving DecidableEq, Repr

inductive BuildError where
  | nodeNameRequired
  | generationNotPositive
  | noDevices
  | device (id : String) (error : DeviceError)
  | duplicateDevice (id : String)
  | link (source target : String) (error : LinkError)
  | duplicateLink (key : String)
deriving DecidableEq, Repr

def DeviceError.message [IsPrint] : DeviceError → String
  | idRequired => "id is required"
  | resourceName n => "resourceName " ++ quote n ++ " is not a qualified extended resource name"
  | vendor v => "unsupported vendor " ++ quote v.text
  | productRequired => "product is required"
  | numaNegative => "numaNode cannot be negative"
  | memoryNegative => "memoryMiB cannot be negative"
  | health h => "unsupported health " ++ quote h.text

def LinkError.message [IsPrint] : LinkError → String
  | selfLink => "self links are not allowed"
  | sourceMissing => "source device does not exist"
  | targetMissing => "target device does not exist"
  | type t => "unsupported type " ++ quote t.text
  | bandwidthNegative => "bandwidthGBps cannot be negative"
  | hopsNegative => "hops cannot be negative"
  | health h => "unsupported health " ++ quote h.text

def BuildError.message [IsPrint] : BuildError → String
  | nodeNameRequired => "nodeName is required"
  | generationNotPositive => "observedGeneration must be positive"
  | noDevices => "at least one accelerator device is required"
  | device id e => "device " ++ quote id ++ ": " ++ e.message
  | duplicateDevice id => "duplicate device ID " ++ quote id
  | link s t e => "link " ++ quote s ++ "-" ++ quote t ++ ": " ++ e.message
  | duplicateLink key => "duplicate undirected link " ++ quote key

def validVendor : AcceleratorVendor → Bool
  | .nvidia | .huawei | .amd => true
  | _ => false

def validHealth : Health → Bool
  | .healthy | .unhealthy | .unknown => true
  | _ => false

def validLinkType : LinkType → Bool
  | .nvlink | .hccs | .xgmi | .pcie => true
  | _ => false

theorem type_text_inj {t u : LinkType} (ht : validLinkType t = true) (hu : validLinkType u = true)
    (h : t.text = u.text) : t = u := by
  cases t <;> cases u <;> simp_all [validLinkType, LinkType.text]

def validateDevice [Kube] (device : AcceleratorDevice) : Option DeviceError :=
  if device.id = "" then some .idRequired
  else if !Kube.isQualifiedName device.resourceName || !device.resourceName.toList.contains '/' then
    some (.resourceName device.resourceName)
  else if !validVendor device.vendor then some (.vendor device.vendor)
  else if device.product = "" then some .productRequired
  else if device.numaNode.any (fun numa => decide (numa < 0)) then some .numaNegative
  else if device.memoryMiB < 0 then some .memoryNegative
  else if !validHealth device.health then some (.health device.health)
  else none

def validateLink (link : AcceleratorLink) (devices : GoMap String ℕ) : Option LinkError :=
  if link.source = link.target then some .selfLink
  else if link.source ∉ devices then some .sourceMissing
  else if link.target ∉ devices then some .targetMissing
  else if !validLinkType link.type then some (.type link.type)
  else if link.bandwidthGBps < 0 then some .bandwidthNegative
  else if link.hops < 0 then some .hopsNegative
  else if !validHealth link.health then some (.health link.health)
  else none

/-- `left + "\x00" + right + "\x00" + type`, with the endpoints in order. -/
def linkKey (link : AcceleratorLink) : String :=
  if link.target < link.source then
    link.target ++ "\x00" ++ link.source ++ "\x00" ++ link.type.text
  else link.source ++ "\x00" ++ link.target ++ "\x00" ++ link.type.text

/-! ### Build -/

/-- The fields of `Snapshot`. -/
structure SnapshotData where
  nodeName : String
  observedGeneration : ℤ
  devices : List AcceleratorDevice
  links : List AcceleratorLink
  deviceIndex : GoMap String ℕ
  numaIndex : GoMap ℤ (List ℕ)
  unknownNUMA : List ℕ
  pcieRootIndex : GoMap String (List ℕ)
  fabricGroupIndex : GoMap String (List ℕ)
  adjacency : GoMap String (GoMap String AcceleratorLink)
deriving DecidableEq

/-- `index[key] = append(index[key], i)`. -/
def appendAt {K V : Type} [DecidableEq K] (index : GoMap K (List V)) (key : K) (i : V) :
    GoMap K (List V) :=
  index.insert key ((index.lookup key).getD [] ++ [i])

/-- The index updates for the device at position `i`. -/
def addDevice (s : SnapshotData) (i : ℕ) (device : AcceleratorDevice) : SnapshotData :=
  { s with
    deviceIndex := s.deviceIndex.insert device.id i
    adjacency := s.adjacency.insert device.id ∅
    unknownNUMA := if device.numaNode = none then s.unknownNUMA ++ [i] else s.unknownNUMA
    numaIndex := match device.numaNode with
      | none => s.numaIndex
      | some numa => appendAt s.numaIndex numa i
    pcieRootIndex := if device.pcieRoot ≠ "" then appendAt s.pcieRootIndex device.pcieRoot i
      else s.pcieRootIndex
    fabricGroupIndex := if device.fabricGroup ≠ "" then
        appendAt s.fabricGroupIndex device.fabricGroup i
      else s.fabricGroupIndex }

def indexDevices [Kube] : ℕ → SnapshotData → List AcceleratorDevice →
    Except BuildError SnapshotData
  | _, s, [] => .ok s
  | i, s, device :: rest =>
      match validateDevice device with
      | some e => .error (.device device.id e)
      | none =>
          if device.id ∈ s.deviceIndex then .error (.duplicateDevice device.id)
          else indexDevices (i + 1) (addDevice s i device) rest

/-- `adjacency[a][b] = link`; both endpoints have an inner map when it is called. -/
def setLink (adjacency : GoMap String (GoMap String AcceleratorLink)) (a b : String)
    (link : AcceleratorLink) : GoMap String (GoMap String AcceleratorLink) :=
  adjacency.insert a (((adjacency.lookup a).getD ∅).insert b link)

/-- The link with its endpoints exchanged. -/
def swapEnds (link : AcceleratorLink) : AcceleratorLink :=
  { link with source := link.target, target := link.source }

/-- The link as it is stored: endpoints in order. -/
def orient (link : AcceleratorLink) : AcceleratorLink :=
  if link.target < link.source then swapEnds link else link

/-- The updates for one link, in both directions. -/
def addLink (s : SnapshotData) (link : AcceleratorLink) : SnapshotData :=
  let stored := orient link
  { s with
    links := s.links ++ [stored]
    adjacency := setLink (setLink s.adjacency stored.source stored.target stored)
      stored.target stored.source (swapEnds stored) }

def indexLinks : List String → SnapshotData → List AcceleratorLink →
    Except BuildError SnapshotData
  | _, s, [] => .ok s
  | seenLinks, s, link :: rest =>
      match validateLink link s.deviceIndex with
      | some e => .error (.link link.source link.target e)
      | none =>
          if linkKey link ∈ seenLinks then .error (.duplicateLink (linkKey link))
          else indexLinks (linkKey link :: seenLinks) (addLink s link) rest

/-- `sort.Slice` by ID.  It leaves the order of equal IDs open; here they keep theirs.  `Build`
refuses such devices in every order (`buildFrom_eq_ok_iff`), but maybe with another error. -/
def sortDevices (devices : List AcceleratorDevice) : List AcceleratorDevice :=
  devices.insertionSort (fun a b => a.id ≤ b.id)

/-- `sort.Slice` by key, with the same remark about equal keys. -/
def sortLinks (links : List AcceleratorLink) : List AcceleratorLink :=
  links.insertionSort (fun a b => linkKey a ≤ linkKey b)

/-- The snapshot before the loops: the sorted devices and empty indexes. -/
def initial (spec : AcceleratorTopologySpec) : SnapshotData where
  nodeName := spec.nodeName
  observedGeneration := spec.observedGeneration
  devices := sortDevices spec.devices
  links := []
  deviceIndex := ∅
  numaIndex := ∅
  unknownNUMA := []
  pcieRootIndex := ∅
  fabricGroupIndex := ∅
  adjacency := ∅

def buildData [Kube] (spec : AcceleratorTopologySpec) : Except BuildError SnapshotData :=
  if spec.nodeName = "" then .error .nodeNameRequired
  else if spec.observedGeneration < 1 then .error .generationNotPositive
  else if spec.devices = [] then .error .noDevices
  else match indexDevices 0 (initial spec) (sortDevices spec.devices) with
    | .error e => .error e
    | .ok s => indexLinks [] s (sortLinks spec.links)

/-- `Build` when its sorts leave the devices and the links in the given orders; `sort.Slice` need
not be stable. -/
def buildFrom [Kube] (spec : AcceleratorTopologySpec) (devices : List AcceleratorDevice)
    (links : List AcceleratorLink) : Except BuildError SnapshotData :=
  if spec.nodeName = "" then .error .nodeNameRequired
  else if spec.observedGeneration < 1 then .error .generationNotPositive
  else if spec.devices = [] then .error .noDevices
  else match indexDevices 0 { initial spec with devices := devices } devices with
    | .error e => .error e
    | .ok s => indexLinks [] s links

/-- A snapshot: data that `Build` returned for some spec. -/
structure Snapshot [Kube] where
  data : SnapshotData
  built : ∃ spec, buildData spec = .ok data

def build [Kube] (spec : AcceleratorTopologySpec) : Except BuildError Snapshot :=
  match h : buildData spec with
  | .error e => .error e
  | .ok data => .ok ⟨data, spec, h⟩

namespace Snapshot

variable [Kube] (s : Snapshot)

def devices : List AcceleratorDevice := s.data.devices

def links : List AcceleratorLink := s.data.links

def linkBetween (source target : String) : Option AcceleratorLink :=
  lookup₂ s.data.adjacency source target

/-- The devices at the given positions; `none` stands for the panic of an index out of range. -/
def devicesAt (indexes : List ℕ) : Option (List AcceleratorDevice) :=
  indexes.mapM fun index => s.data.devices[index]?

/-- The device with the ID, if there is one; the outer `none` is again a panic. -/
def device (id : String) : Option (Option AcceleratorDevice) :=
  match s.data.deviceIndex.lookup id with
  | none => some none
  | some index => s.data.devices[index]?.map some

def devicesByNUMA (numa : ℤ) : Option (List AcceleratorDevice) :=
  s.devicesAt ((s.data.numaIndex.lookup numa).getD [])

def devicesWithUnknownNUMA : Option (List AcceleratorDevice) :=
  s.devicesAt s.data.unknownNUMA

def devicesByPCIeRoot (root : String) : Option (List AcceleratorDevice) :=
  s.devicesAt ((s.data.pcieRootIndex.lookup root).getD [])

def devicesByFabricGroup (group : String) : Option (List AcceleratorDevice) :=
  s.devicesAt ((s.data.fabricGroupIndex.lookup group).getD [])

end Snapshot

/-! ### The loops as pure accumulations -/

def addDevices : ℕ → SnapshotData → List AcceleratorDevice → SnapshotData
  | _, s, [] => s
  | i, s, device :: rest => addDevices (i + 1) (addDevice s i device) rest

def addLinks (s : SnapshotData) (links : List AcceleratorLink) : SnapshotData :=
  links.foldl addLink s

theorem mem_deviceIndex_addDevice (s : SnapshotData) (i : ℕ) (d : AcceleratorDevice) (x : String) :
    x ∈ (addDevice s i d).deviceIndex ↔ x = d.id ∨ x ∈ s.deviceIndex := Finmap.mem_insert

/-- The device loop passes exactly when every device is valid and no ID occurs twice. -/
theorem indexDevices_eq_ok_iff [Kube] : ∀ (ds : List AcceleratorDevice) (i : ℕ)
    (s s' : SnapshotData), indexDevices i s ds = .ok s' ↔
      (∀ d ∈ ds, validateDevice d = none ∧ d.id ∉ s.deviceIndex) ∧ (ds.map (·.id)).Nodup ∧
        s' = addDevices i s ds
  | [], i, s, s' => by
      simp only [indexDevices, addDevices, Except.ok.injEq]
      simp [eq_comm]
  | d :: rest, i, s, s' => by
      have ih := indexDevices_eq_ok_iff rest (i + 1) (addDevice s i d) s'
      simp only [indexDevices, addDevices, List.map_cons, List.nodup_cons, List.forall_mem_cons]
      cases hv : validateDevice d with
      | some e => simp
      | none =>
          by_cases hm : d.id ∈ s.deviceIndex
          · simp [hm]
          · simp only [hm, if_false, not_false_eq_true, true_and]
            rw [ih]
            simp only [mem_deviceIndex_addDevice, not_or]
            constructor
            · rintro ⟨h, hn, he⟩
              refine ⟨fun x hx => ⟨(h x hx).1, (h x hx).2.2⟩, ⟨?_, hn⟩, he⟩
              intro hd
              obtain ⟨x, hx, hxd⟩ := List.mem_map.mp hd
              exact (h x hx).2.1 hxd
            · rintro ⟨h, ⟨hd, hn⟩, he⟩
              refine ⟨fun x hx => ⟨(h x hx).1, ?_, (h x hx).2⟩, hn, he⟩
              intro hxd
              exact hd (List.mem_map.mpr ⟨x, hx, hxd⟩)

/-- The link loop passes exactly when every link is valid and no key occurs twice. -/
theorem indexLinks_eq_ok_iff : ∀ (ls : List AcceleratorLink) (seen : List String)
    (s s' : SnapshotData), indexLinks seen s ls = .ok s' ↔
      (∀ l ∈ ls, validateLink l s.deviceIndex = none ∧ linkKey l ∉ seen) ∧
        (ls.map linkKey).Nodup ∧ s' = addLinks s ls
  | [], seen, s, s' => by
      simp only [indexLinks, addLinks, List.foldl_nil, Except.ok.injEq]
      simp [eq_comm]
  | l :: rest, seen, s, s' => by
      have ih := indexLinks_eq_ok_iff rest (linkKey l :: seen) (addLink s l) s'
      have hidx : (addLink s l).deviceIndex = s.deviceIndex := rfl
      simp only [indexLinks, addLinks, List.map_cons, List.nodup_cons, List.forall_mem_cons,
        List.foldl_cons]
      cases hv : validateLink l s.deviceIndex with
      | some e => simp
      | none =>
          by_cases hm : linkKey l ∈ seen
          · simp [hm]
          · simp only [hm, if_false, not_false_eq_true, true_and]
            rw [ih, hidx]
            simp only [List.mem_cons, not_or, addLinks]
            constructor
            · rintro ⟨h, hn, he⟩
              refine ⟨fun x hx => ⟨(h x hx).1, (h x hx).2.2⟩, ⟨?_, hn⟩, he⟩
              intro hd
              obtain ⟨x, hx, hxl⟩ := List.mem_map.mp hd
              exact (h x hx).2.1 hxl
            · rintro ⟨h, ⟨hd, hn⟩, he⟩
              refine ⟨fun x hx => ⟨(h x hx).1, ?_, (h x hx).2⟩, hn, he⟩
              intro hxl
              exact hd (List.mem_map.mpr ⟨x, hx, hxl⟩)

theorem mem_deviceIndex_addDevices : ∀ (ds : List AcceleratorDevice) (i : ℕ) (s : SnapshotData)
    (x : String), x ∈ (addDevices i s ds).deviceIndex ↔ x ∈ s.deviceIndex ∨ x ∈ ds.map (·.id)
  | [], i, s, x => by simp [addDevices]
  | d :: rest, i, s, x => by
      simp only [addDevices, List.map_cons, List.mem_cons]
      rw [mem_deviceIndex_addDevices rest (i + 1) (addDevice s i d) x, mem_deviceIndex_addDevice]
      tauto

theorem addDevices_devices : ∀ (ds : List AcceleratorDevice) (i : ℕ) (s : SnapshotData),
    (addDevices i s ds).devices = s.devices
  | [], _, _ => rfl
  | d :: rest, i, s => addDevices_devices rest (i + 1) (addDevice s i d)

theorem addLinks_devices : ∀ (ls : List AcceleratorLink) (s : SnapshotData),
    (addLinks s ls).devices = s.devices
  | [], _ => rfl
  | l :: rest, s => addLinks_devices rest (addLink s l)

/-! ### Acceptance -/

/-- What `Build` returns for an accepted spec. -/
def assemble (spec : AcceleratorTopologySpec) : SnapshotData :=
  addLinks (addDevices 0 (initial spec) (sortDevices spec.devices)) (sortLinks spec.links)

/-- The check of one link against the IDs of the spec. -/
def LinkOk (spec : AcceleratorTopologySpec) (l : AcceleratorLink) : Prop :=
  l.source ≠ l.target ∧ l.source ∈ spec.devices.map (·.id) ∧ l.target ∈ spec.devices.map (·.id) ∧
    validLinkType l.type = true ∧ 0 ≤ l.bandwidthGBps ∧ 0 ≤ l.hops ∧ validHealth l.health = true

/-- The specs that pass every check of `Build`. -/
structure Accepted [Kube] (spec : AcceleratorTopologySpec) : Prop where
  nodeName_ne : spec.nodeName ≠ ""
  generation_pos : 1 ≤ spec.observedGeneration
  devices_ne : spec.devices ≠ []
  device_ok : ∀ d ∈ spec.devices, validateDevice d = none
  ids_nodup : (spec.devices.map (·.id)).Nodup
  link_ok : ∀ l ∈ spec.links, LinkOk spec l
  keys_nodup : (spec.links.map linkKey).Nodup

theorem sortDevices_perm (ds : List AcceleratorDevice) : (sortDevices ds).Perm ds :=
  List.perm_insertionSort _ ds

theorem sortLinks_perm (ls : List AcceleratorLink) : (sortLinks ls).Perm ls :=
  List.perm_insertionSort _ ls

theorem validateLink_eq_none_iff (l : AcceleratorLink) (m : GoMap String ℕ) :
    validateLink l m = none ↔ l.source ≠ l.target ∧ l.source ∈ m ∧ l.target ∈ m ∧
      validLinkType l.type = true ∧ 0 ≤ l.bandwidthGBps ∧ 0 ≤ l.hops ∧
      validHealth l.health = true := by
  unfold validateLink
  by_cases h1 : l.source = l.target
  · simp [h1]
  by_cases h2 : l.source ∈ m
  swap
  · simp [h1, h2]
  by_cases h3 : l.target ∈ m
  swap
  · simp [h1, h2, h3]
  by_cases h4 : l.bandwidthGBps < 0
  · cases validLinkType l.type <;> simp [h1, h2, h3, h4, not_le.mpr h4]
  by_cases h5 : l.hops < 0
  · cases validLinkType l.type <;> simp [h1, h2, h3, h4, h5, not_le.mpr h5]
  cases validLinkType l.type <;> cases validHealth l.health <;>
    simp [h1, h2, h3, h4, h5, not_lt.mp h4, not_lt.mp h5]

/-- What the loops make of the devices and links in the given orders. -/
def assembleFrom (spec : AcceleratorTopologySpec) (devices : List AcceleratorDevice)
    (links : List AcceleratorLink) : SnapshotData :=
  addLinks (addDevices 0 { initial spec with devices := devices } devices) links

/-- Whatever the order, the loops pass exactly the specs that pass every check. -/
theorem buildFrom_eq_ok_iff [Kube] {spec : AcceleratorTopologySpec}
    {devices : List AcceleratorDevice} {links : List AcceleratorLink}
    (hdevices : devices.Perm spec.devices) (hlinks : links.Perm spec.links) (s : SnapshotData) :
    buildFrom spec devices links = .ok s ↔ Accepted spec ∧ s = assembleFrom spec devices links := by
  have hids : ∀ x, x ∈ (addDevices 0 { initial spec with devices := devices } devices).deviceIndex ↔
      x ∈ spec.devices.map (·.id) := by
    intro x
    rw [mem_deviceIndex_addDevices, (hdevices.map _).mem_iff]
    exact or_iff_right Finmap.notMem_empty
  have hndD : (devices.map (·.id)).Nodup ↔ (spec.devices.map (·.id)).Nodup :=
    (hdevices.map _).nodup_iff
  have hndL : (links.map linkKey).Nodup ↔ (spec.links.map linkKey).Nodup :=
    (hlinks.map _).nodup_iff
  constructor
  · intro h
    unfold buildFrom at h
    split_ifs at h with h1 h2 h3
    cases hd : indexDevices 0 { initial spec with devices := devices } devices with
    | error e => rw [hd] at h; cases h
    | ok t =>
        rw [hd] at h
        obtain ⟨hok, hnd, rfl⟩ := (indexDevices_eq_ok_iff _ _ _ _).mp hd
        obtain ⟨hlok, hlnd, hs⟩ := (indexLinks_eq_ok_iff _ _ _ _).mp h
        refine ⟨⟨h1, by omega, h3, fun d hd' => (hok d (hdevices.mem_iff.mpr hd')).1,
          hndD.mp hnd, ?_, hndL.mp hlnd⟩, hs⟩
        intro l hl
        have hv := (validateLink_eq_none_iff _ _).mp (hlok l (hlinks.mem_iff.mpr hl)).1
        rw [hids, hids] at hv
        exact hv
  · rintro ⟨ha, rfl⟩
    unfold buildFrom
    rw [if_neg ha.nodeName_ne, if_neg (by have := ha.generation_pos; omega), if_neg ha.devices_ne]
    have hd : indexDevices 0 { initial spec with devices := devices } devices =
        .ok (addDevices 0 { initial spec with devices := devices } devices) := by
      refine (indexDevices_eq_ok_iff _ _ _ _).mpr ⟨?_, hndD.mpr ha.ids_nodup, rfl⟩
      intro d hd'
      exact ⟨ha.device_ok d (hdevices.mem_iff.mp hd'), Finmap.notMem_empty⟩
    rw [hd]
    refine (indexLinks_eq_ok_iff _ _ _ _).mpr ⟨?_, hndL.mpr ha.keys_nodup, rfl⟩
    intro l hl
    refine ⟨(validateLink_eq_none_iff _ _).mpr ?_, by simp⟩
    rw [hids, hids]
    exact ha.link_ok l (hlinks.mem_iff.mp hl)

/-- **`Build` accepts exactly the specs that pass its checks** and returns their indexes. -/
theorem buildData_eq_ok_iff [Kube] (spec : AcceleratorTopologySpec) (s : SnapshotData) :
    buildData spec = .ok s ↔ Accepted spec ∧ s = assemble spec :=
  buildFrom_eq_ok_iff (sortDevices_perm spec.devices) (sortLinks_perm spec.links) s

theorem build_eq_ok_iff [Kube] (spec : AcceleratorTopologySpec) (s : Snapshot) :
    build spec = .ok s ↔ Accepted spec ∧ s.data = assemble spec := by
  rw [← buildData_eq_ok_iff]
  obtain ⟨data, hdata⟩ := s
  unfold build
  split
  · next e he => simp [he]
  · next d hd =>
      simp only [Except.ok.injEq, Snapshot.mk.injEq]
      rw [hd, Except.ok.injEq]

theorem build_isOk_iff [Kube] (spec : AcceleratorTopologySpec) :
    (∃ s, build spec = .ok s) ↔ Accepted spec := by
  constructor
  · rintro ⟨s, hs⟩
    exact ((build_eq_ok_iff spec s).mp hs).1
  · intro ha
    exact ⟨⟨assemble spec, spec, (buildData_eq_ok_iff spec _).mpr ⟨ha, rfl⟩⟩,
      (build_eq_ok_iff spec _).mpr ⟨ha, rfl⟩⟩

/-! ### Adjacency -/

theorem lookup₂_setLink (adj : GoMap String (GoMap String AcceleratorLink)) (a b x y : String)
    (l : AcceleratorLink) : lookup₂ (setLink adj a b l) x y =
      if x = a ∧ y = b then some l else lookup₂ adj x y := by
  unfold lookup₂ setLink
  rw [lookup_insert_ite]
  by_cases hx : x = a
  · subst hx
    simp only [if_true, Option.bind_some, true_and, lookup_insert_ite]
    split_ifs
    · rfl
    · cases adj.lookup x <;> simp
  · simp [hx]

/-- Every stored link leads from its row to its column, and its reverse is stored too. -/
def SymmetricLinks (adj : GoMap String (GoMap String AcceleratorLink)) : Prop :=
  ∀ a b l, lookup₂ adj a b = some l →
    l.source = a ∧ l.target = b ∧ lookup₂ adj b a = some (swapEnds l)

theorem orient_ends_ne {l : AcceleratorLink} (h : l.source ≠ l.target) :
    (orient l).source ≠ (orient l).target := by
  unfold orient
  split_ifs
  · exact fun e => h e.symm
  · exact h

theorem symmetricLinks_addLink {s : SnapshotData} {l : AcceleratorLink}
    (hs : SymmetricLinks s.adjacency) (hl : l.source ≠ l.target) :
    SymmetricLinks (addLink s l).adjacency := by
  have hne := orient_ends_ne hl
  intro a b m h
  simp only [addLink, lookup₂_setLink] at h ⊢
  by_cases h1 : a = (orient l).target ∧ b = (orient l).source
  · rw [if_pos h1] at h
    cases h
    obtain ⟨rfl, rfl⟩ := h1
    refine ⟨rfl, rfl, ?_⟩
    rw [if_neg (fun e => hne e.1), if_pos ⟨rfl, rfl⟩]
    rfl
  · rw [if_neg h1] at h
    by_cases h2 : a = (orient l).source ∧ b = (orient l).target
    · rw [if_pos h2] at h
      cases h
      obtain ⟨rfl, rfl⟩ := h2
      exact ⟨rfl, rfl, if_pos ⟨rfl, rfl⟩⟩
    · rw [if_neg h2] at h
      obtain ⟨ha, hb, hr⟩ := hs a b m h
      refine ⟨ha, hb, ?_⟩
      rw [if_neg (fun e => h2 ⟨e.2, e.1⟩), if_neg (fun e => h1 ⟨e.2, e.1⟩)]
      exact hr

theorem symmetricLinks_addLinks : ∀ (ls : List AcceleratorLink) (s : SnapshotData),
    SymmetricLinks s.adjacency → (∀ l ∈ ls, l.source ≠ l.target) →
      SymmetricLinks (addLinks s ls).adjacency
  | [], _, hs, _ => hs
  | l :: rest, s, hs, hl =>
      symmetricLinks_addLinks rest (addLink s l)
        (symmetricLinks_addLink hs (hl l List.mem_cons_self))
        (fun m hm => hl m (List.mem_cons_of_mem _ hm))

/-- The device loop stores no links. -/
theorem lookup₂_addDevices : ∀ (ds : List AcceleratorDevice) (i : ℕ) (s : SnapshotData),
    (∀ a b, lookup₂ s.adjacency a b = none) →
      ∀ a b, lookup₂ (addDevices i s ds).adjacency a b = none
  | [], _, _, hs => hs
  | d :: rest, i, s, hs => by
      refine lookup₂_addDevices rest (i + 1) (addDevice s i d) ?_
      intro a b
      have := hs a b
      unfold lookup₂ at this ⊢
      simp only [addDevice, lookup_insert_ite]
      split_ifs
      · rfl
      · exact this

namespace Snapshot

variable [Kube] (s : Snapshot)

theorem exists_accepted : ∃ spec, Accepted spec ∧ s.data = assemble spec := by
  obtain ⟨spec, h⟩ := s.built
  exact ⟨spec, (buildData_eq_ok_iff spec s.data).mp h⟩

theorem devices_perm {spec : AcceleratorTopologySpec} (h : s.data = assemble spec) :
    s.devices.Perm spec.devices := by
  unfold devices
  rw [h]
  unfold assemble
  rw [addLinks_devices, addDevices_devices]
  exact sortDevices_perm spec.devices

/-- Device IDs are pairwise distinct. -/
theorem ids_nodup : (s.devices.map (·.id)).Nodup := by
  obtain ⟨spec, ha, h⟩ := s.exists_accepted
  exact ((s.devices_perm h).map _).nodup_iff.mpr ha.ids_nodup

theorem validateDevice_devices : ∀ d ∈ s.devices, validateDevice d = none := by
  obtain ⟨spec, ha, h⟩ := s.exists_accepted
  intro d hd
  exact ha.device_ok d ((s.devices_perm h).mem_iff.mp hd)

theorem id_ne_blank : ∀ d ∈ s.devices, d.id ≠ "" := by
  intro d hd hid
  have := s.validateDevice_devices d hd
  unfold validateDevice at this
  rw [if_pos hid] at this
  cases this

theorem symmetricLinks : SymmetricLinks s.data.adjacency := by
  obtain ⟨spec, ha, h⟩ := s.exists_accepted
  rw [h]
  refine symmetricLinks_addLinks _ _ ?_ ?_
  · intro a b l hl
    rw [lookup₂_addDevices _ _ _ (fun a b => by simp [initial, lookup₂])] at hl
    cases hl
  · intro l hl
    exact (ha.link_ok l ((sortLinks_perm spec.links).mem_iff.mp hl)).1

/-- `LinkBetween` finds the same link from both ends. -/
theorem linkBetween_symm {a b : String} {l : AcceleratorLink} (h : s.linkBetween a b = some l) :
    s.linkBetween b a = some (swapEnds l) := (s.symmetricLinks a b l h).2.2

end Snapshot
end AcceleratorFabric.Topology
