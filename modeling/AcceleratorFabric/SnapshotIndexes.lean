import AcceleratorFabric.ParallelLinks

/-! # The indexes of a snapshot

`Build` fills seven indexes in two loops.  The device loop visits the sorted devices and notes the
position of each under its ID, its NUMA node, its PCIe root and its fabric group; every one of
these lists is the list of positions of the devices with some property
(`collected_addDevices`), and reading the devices back at these positions gives the filtered
devices (`mapM_positions`).

`build_represents`: all accessors of a snapshot describe the graph of the spec it was built from. -/

namespace AcceleratorFabric.Topology

open GoMap
open AcceleratorFabric.PolicyController (Joins)

/-! ### Positions -/

/-- The positions of the devices with the property, the first device being at `i`. -/
def positions (p : AcceleratorDevice → Bool) : ℕ → List AcceleratorDevice → List ℕ
  | _, [] => []
  | i, d :: ds => if p d then i :: positions p (i + 1) ds else positions p (i + 1) ds

theorem mapM_positions (p : AcceleratorDevice → Bool) : ∀ (ds pre : List AcceleratorDevice),
    (positions p pre.length ds).mapM (fun index => (pre ++ ds)[index]?) = some (ds.filter p)
  | [], _ => rfl
  | d :: ds, pre => by
      have ih := mapM_positions p ds (pre ++ [d])
      rw [List.length_append, List.length_singleton, List.append_assoc, List.singleton_append] at ih
      rw [positions, List.filter_cons]
      split_ifs
      · have hd : (pre ++ d :: ds)[pre.length]? = some d := by simp
        rw [List.mapM_cons, hd, ih]
        rfl
      · exact ih

/-- A list that the device loop extends by the position of each device with the property. -/
theorem collected_addDevices {collected : SnapshotData → List ℕ} {p : AcceleratorDevice → Bool}
    (hadd : ∀ s i d, collected (addDevice s i d) = if p d then collected s ++ [i] else collected s) :
    ∀ (ds : List AcceleratorDevice) (i : ℕ) (s : SnapshotData),
      collected (addDevices i s ds) = collected s ++ positions p i ds
  | [], _, _ => (List.append_nil _).symm
  | d :: ds, i, s => by
      rw [addDevices, collected_addDevices hadd ds, hadd, positions]
      split_ifs
      · rw [List.append_assoc]
        rfl
      · rfl

theorem lookup_appendAt {K : Type} [DecidableEq K] (index : GoMap K (List ℕ)) (key k : K) (i : ℕ) :
    ((appendAt index key i).lookup k).getD [] =
      if key = k then (index.lookup k).getD [] ++ [i] else (index.lookup k).getD [] := by
  unfold appendAt
  rw [lookup_insert_ite]
  by_cases h : k = key
  · subst h
    rw [if_pos rfl, if_pos rfl]
    rfl
  · rw [if_neg h, if_neg (fun e => h e.symm)]

/-- The index of a field that may be blank, where blank values are not noted. -/
theorem lookup_appendUnlessBlank (index : GoMap String (List ℕ)) (field : String) {k : String}
    (hk : k ≠ "") (i : ℕ) :
    ((if field ≠ "" then appendAt index field i else index).lookup k).getD [] =
      if field = k then (index.lookup k).getD [] ++ [i] else (index.lookup k).getD [] := by
  split_ifs with hblank hfield hfield
  · rw [lookup_appendAt, if_pos hfield]
  · rw [lookup_appendAt, if_neg hfield]
  · exact absurd (hfield.symm.trans (not_not.mp hblank)) hk
  · rfl

/-! ### The device loop -/

/-- A list of positions that the link loop leaves alone and the device loop collects. -/
theorem devicesAt_collected [Kube] {snapshot : Snapshot} {spec : AcceleratorTopologySpec}
    (hdata : snapshot.data = assemble spec) (collected : SnapshotData → List ℕ)
    (p : AcceleratorDevice → Bool)
    (hadd : ∀ s i d, collected (addDevice s i d) = if p d then collected s ++ [i] else collected s)
    (hlink : ∀ s l, collected (addLink s l) = collected s) (hinitial : collected (initial spec) = []) :
    snapshot.devicesAt (collected snapshot.data) = some (snapshot.devices.filter p) := by
  have hlinks : ∀ (ls : List AcceleratorLink) (s : SnapshotData),
      collected (addLinks s ls) = collected s := by
    intro ls
    induction ls with
    | nil => exact fun _ => rfl
    | cons l ls ih => exact fun s => (ih (addLink s l)).trans (hlink s l)
  have hdevices : snapshot.data.devices = sortDevices spec.devices := by
    rw [hdata, assemble, addLinks_devices, addDevices_devices]
    rfl
  have hpositions : collected snapshot.data = positions p 0 (sortDevices spec.devices) := by
    rw [hdata, assemble, hlinks, collected_addDevices hadd, hinitial, List.nil_append]
  unfold Snapshot.devicesAt Snapshot.devices
  rw [hpositions, hdevices]
  exact mapM_positions p (sortDevices spec.devices) []

/-- The position of the device with the ID; every ID is noted once. -/
theorem lookup_deviceIndex_addDevices : ∀ (ds : List AcceleratorDevice) (i : ℕ) (s : SnapshotData)
    (id : String), (ds.map (·.id)).Nodup → (addDevices i s ds).deviceIndex.lookup id =
      if id ∈ ds.map (·.id) then some (i + (ds.map (·.id)).idxOf id) else s.deviceIndex.lookup id
  | [], _, _, _, _ => rfl
  | d :: ds, i, s, id, hnodup => by
      rw [List.map_cons, List.nodup_cons] at hnodup
      have hself : (addDevice s i d).deviceIndex.lookup id =
          if id = d.id then some i else s.deviceIndex.lookup id := lookup_insert_ite _ _ _ _
      rw [addDevices, lookup_deviceIndex_addDevices ds _ _ _ hnodup.2, hself, List.map_cons]
      by_cases hid : id = d.id
      · subst hid
        rw [if_neg hnodup.1, if_pos rfl, if_pos List.mem_cons_self, List.idxOf_cons_self]
        rfl
      · rw [List.idxOf_cons_ne _ (fun e => hid e.symm), if_neg hid]
        simp only [List.mem_cons, hid, false_or]
        split_ifs
        · congr 1
          omega
        · rfl

theorem addLinks_deviceIndex : ∀ (ls : List AcceleratorLink) (s : SnapshotData),
    (addLinks s ls).deviceIndex = s.deviceIndex
  | [], _ => rfl
  | l :: ls, s => addLinks_deviceIndex ls (addLink s l)

section device

variable [Kube] {snapshot : Snapshot} {spec : AcceleratorTopologySpec}

theorem lookup_deviceIndex (ha : Accepted spec) (hdata : snapshot.data = assemble spec)
    (id : String) : snapshot.data.deviceIndex.lookup id =
      if id ∈ spec.devices.map (·.id) then some ((snapshot.devices.map (·.id)).idxOf id)
      else none := by
  have hdevices : snapshot.devices = sortDevices spec.devices := by
    unfold Snapshot.devices
    rw [hdata, assemble, addLinks_devices, addDevices_devices]
    rfl
  have hperm : ((sortDevices spec.devices).map (·.id)).Perm (spec.devices.map (·.id)) :=
    (sortDevices_perm spec.devices).map _
  rw [hdevices, hdata, assemble, addLinks_deviceIndex,
    lookup_deviceIndex_addDevices _ _ _ _ (hperm.nodup_iff.mpr ha.ids_nodup), Nat.zero_add]
  simp only [hperm.mem_iff]
  rfl

theorem device_of_mem (ha : Accepted spec) (hdata : snapshot.data = assemble spec)
    {d : AcceleratorDevice} (hd : d ∈ spec.devices) : snapshot.device d.id = some (some d) := by
  have hmem : d ∈ snapshot.devices := (snapshot.devices_perm hdata).mem_iff.mpr hd
  have hid : d.id ∈ snapshot.devices.map (·.id) := List.mem_map_of_mem hmem
  obtain ⟨found, hfound, heq⟩ : ∃ found,
      snapshot.devices[(snapshot.devices.map (·.id)).idxOf d.id]? = some found ∧ found.id = d.id := by
    have hat := List.getElem?_idxOf hid
    rw [List.getElem?_map, Option.map_eq_some_iff] at hat
    exact hat
  have hsame : found = d := List.inj_on_of_nodup_map snapshot.ids_nodup
    (List.mem_of_getElem? hfound) hmem heq
  unfold Snapshot.device
  rw [lookup_deviceIndex ha hdata, if_pos (List.mem_map_of_mem hd)]
  change (snapshot.devices[_]?).map some = _
  rw [hfound, hsame]
  rfl

theorem device_of_not_mem (ha : Accepted spec) (hdata : snapshot.data = assemble spec)
    {id : String} (hid : id ∉ spec.devices.map (·.id)) : snapshot.device id = some none := by
  unfold Snapshot.device
  rw [lookup_deviceIndex ha hdata, if_neg hid]

end device

/-! ### The link loop -/

/-- The same link, read from either end. -/
def Reoriented (l m : AcceleratorLink) : Prop := m = l ∨ m = swapEnds l

theorem reoriented_orient (l : AcceleratorLink) : Reoriented l (orient l) := by
  unfold orient
  split_ifs
  · exact .inr rfl
  · exact .inl rfl

theorem reoriented_leaving (a : String) (l : AcceleratorLink) : Reoriented l (leaving a l) := by
  unfold leaving
  split_ifs
  · exact .inl rfl
  · exact .inr rfl

theorem orient_lt {l : AcceleratorLink} (h : l.source ≠ l.target) :
    (orient l).source < (orient l).target := by
  unfold orient
  split_ifs with hlt
  · exact hlt
  · exact lt_of_le_of_ne (not_lt.mp hlt) h

theorem addLinks_links : ∀ (ls : List AcceleratorLink) (s : SnapshotData),
    (addLinks s ls).links = s.links ++ ls.map orient
  | [], _ => (List.append_nil _).symm
  | l :: ls, s => by
      have ih := addLinks_links ls (addLink s l)
      rw [addLinks, List.foldl_cons, ← addLinks, ih]
      simp [addLink]

/-- No link leads from a device to itself. -/
theorem lookup₂_addLinks_self (a : String) : ∀ (ls : List AcceleratorLink) (s : SnapshotData),
    (∀ l ∈ ls, l.source ≠ l.target) → lookup₂ s.adjacency a a = none →
      lookup₂ (addLinks s ls).adjacency a a = none
  | [], _, _, h => h
  | l :: ls, s, hls, h => by
      rw [List.forall_mem_cons] at hls
      have hne := orient_ends_ne hls.1
      refine lookup₂_addLinks_self a ls (addLink s l) hls.2 ?_
      simp only [addLink, lookup₂_setLink]
      rw [if_neg (fun e => hne (e.2.symm.trans e.1)), if_neg (fun e => hne (e.1.symm.trans e.2))]
      exact h

theorem linkBetween_self [Kube] {snapshot : Snapshot} {spec : AcceleratorTopologySpec}
    (ha : Accepted spec) (hdata : snapshot.data = assemble spec) (a : String) :
    snapshot.linkBetween a a = none := by
  unfold Snapshot.linkBetween
  rw [hdata]
  refine lookup₂_addLinks_self a _ _ ?_ ?_
  · intro l hl
    exact (ha.link_ok l ((sortLinks_perm spec.links).mem_iff.mp hl)).1
  · exact lookup₂_addDevices _ _ _ (fun x y => by simp [initial, lookup₂]) a a

/-- The ends of a link that is read from one of its ends. -/
theorem leaving_ends {l : AcceleratorLink} {a b : String} (h : Joins l a b) (hab : a ≠ b) :
    (leaving a l).source = a ∧ (leaving a l).target = b := by
  unfold leaving
  rcases h with ⟨hs, ht⟩ | ⟨hs, ht⟩
  · rw [if_pos hs]
    exact ⟨hs, ht⟩
  · rw [if_neg (fun e => hab (e.symm.trans hs))]
    exact ⟨ht, hs⟩

/-! ### The snapshot describes the spec -/

/-- What the accessors of a snapshot say about the spec. -/
structure Represents [Kube] (spec : AcceleratorTopologySpec) (snapshot : Snapshot) : Prop where
  devices_perm : snapshot.devices.Perm spec.devices
  devices_sorted : snapshot.devices.Pairwise (fun a b => a.id < b.id)
  device_found : ∀ d ∈ spec.devices, snapshot.device d.id = some (some d)
  device_missing : ∀ id, id ∉ spec.devices.map (·.id) → snapshot.device id = some none
  byNUMA : ∀ numa, snapshot.devicesByNUMA numa =
    some (snapshot.devices.filter (fun d => d.numaNode = some numa))
  unknownNUMA : snapshot.devicesWithUnknownNUMA =
    some (snapshot.devices.filter (fun d => d.numaNode = none))
  byPCIeRoot : ∀ root, root ≠ "" → snapshot.devicesByPCIeRoot root =
    some (snapshot.devices.filter (fun d => d.pcieRoot = root))
  byFabricGroup : ∀ group, group ≠ "" → snapshot.devicesByFabricGroup group =
    some (snapshot.devices.filter (fun d => d.fabricGroup = group))
  links_oriented : ∀ l ∈ snapshot.links, l.source < l.target
  links_perm : ∃ ls, ls.Perm spec.links ∧ List.Forall₂ Reoriented ls snapshot.links
  linkBetween_found : ∀ a b, (∃ l, snapshot.linkBetween a b = some l) ↔
    ∃ l ∈ spec.links, Joins l a b
  linkBetween_self : ∀ a, snapshot.linkBetween a a = none
  linkBetween_mem : ∀ a b l, snapshot.linkBetween a b = some l → l.source = a ∧ l.target = b ∧
    ∃ m ∈ spec.links, Joins m a b ∧ Reoriented m l
  linkBetween_swap : ∀ a b, snapshot.linkBetween b a = (snapshot.linkBetween a b).map swapEnds

section represents

variable [Kube] {snapshot : Snapshot} {spec : AcceleratorTopologySpec}

theorem devices_strictly_sorted (hdata : snapshot.data = assemble spec) :
    snapshot.devices.Pairwise (fun a b => a.id < b.id) := by
  have hsorted : snapshot.devices.Pairwise (fun a b => a.id ≤ b.id) := by
    unfold Snapshot.devices
    rw [hdata, assemble, addLinks_devices, addDevices_devices]
    exact List.pairwise_insertionSort _ spec.devices
  have hdistinct : snapshot.devices.Pairwise (fun a b => a.id ≠ b.id) :=
    List.pairwise_map.mp snapshot.ids_nodup
  exact (hsorted.and hdistinct).imp fun h => lt_of_le_of_ne h.1 h.2

theorem devicesByNUMA_eq (hdata : snapshot.data = assemble spec) (numa : ℤ) :
    snapshot.devicesByNUMA numa =
      some (snapshot.devices.filter (fun d => d.numaNode = some numa)) := by
  refine devicesAt_collected hdata (fun s => (s.numaIndex.lookup numa).getD []) _ ?_
    (fun _ _ => rfl) (by simp [initial])
  intro s i d
  simp only [addDevice]
  cases hd : d.numaNode with
  | none => simp
  | some k => simp [lookup_appendAt]

theorem devicesWithUnknownNUMA_eq (hdata : snapshot.data = assemble spec) :
    snapshot.devicesWithUnknownNUMA =
      some (snapshot.devices.filter (fun d => d.numaNode = none)) := by
  refine devicesAt_collected hdata (fun s => s.unknownNUMA) _ ?_ (fun _ _ => rfl) rfl
  intro s i d
  simp only [addDevice, decide_eq_true_eq]

theorem devicesByPCIeRoot_eq (hdata : snapshot.data = assemble spec) {root : String}
    (hroot : root ≠ "") : snapshot.devicesByPCIeRoot root =
      some (snapshot.devices.filter (fun d => d.pcieRoot = root)) := by
  refine devicesAt_collected hdata (fun s => (s.pcieRootIndex.lookup root).getD []) _ ?_
    (fun _ _ => rfl) (by simp [initial])
  intro s i d
  simp only [addDevice, lookup_appendUnlessBlank _ _ hroot, decide_eq_true_eq]

theorem devicesByFabricGroup_eq (hdata : snapshot.data = assemble spec) {group : String}
    (hgroup : group ≠ "") : snapshot.devicesByFabricGroup group =
      some (snapshot.devices.filter (fun d => d.fabricGroup = group)) := by
  refine devicesAt_collected hdata (fun s => (s.fabricGroupIndex.lookup group).getD []) _ ?_
    (fun _ _ => rfl) (by simp [initial])
  intro s i d
  simp only [addDevice, lookup_appendUnlessBlank _ _ hgroup, decide_eq_true_eq]

theorem links_eq (hdata : snapshot.data = assemble spec) :
    snapshot.links = (sortLinks spec.links).map orient := by
  have hdevices : ∀ (ds : List AcceleratorDevice) (i : ℕ) (s : SnapshotData),
      (addDevices i s ds).links = s.links := by
    intro ds
    induction ds with
    | nil => exact fun _ _ => rfl
    | cons d ds ih => exact fun i s => ih (i + 1) (addDevice s i d)
  unfold Snapshot.links
  rw [hdata, assemble, addLinks_links, hdevices]
  rfl

theorem linkBetween_cases (ha : Accepted spec) (hbuild : build spec = .ok snapshot) {a b : String}
    {l : AcceleratorLink} (h : snapshot.linkBetween a b = some l) :
    a ≠ b ∧ ∃ m ∈ spec.links, Joins m a b ∧ l = leaving a m := by
  have hdata := ((build_eq_ok_iff spec snapshot).mp hbuild).2
  have hab : a ≠ b := by
    rintro rfl
    rw [linkBetween_self ha hdata] at h
    cases h
  rw [linkBetween_eq hbuild hab, Option.map_eq_some_iff] at h
  obtain ⟨m, hm, rfl⟩ := h
  obtain ⟨hmem, hjoins⟩ := mem_joining.mp (List.mem_of_getLast? hm)
  exact ⟨hab, m, hmem, hjoins, rfl⟩

theorem linkBetween_swap (snapshot : Snapshot) (a b : String) :
    snapshot.linkBetween b a = (snapshot.linkBetween a b).map swapEnds := by
  cases hab : snapshot.linkBetween a b with
  | some l => exact snapshot.linkBetween_symm hab
  | none =>
      cases hba : snapshot.linkBetween b a with
      | none => rfl
      | some l =>
          rw [snapshot.linkBetween_symm hba] at hab
          cases hab

end represents

/-- **Representation.**  All accessors of the snapshot of an accepted spec describe its graph. -/
theorem build_represents [Kube] (spec : AcceleratorTopologySpec) (snapshot : Snapshot)
    (hbuild : build spec = .ok snapshot) : Represents spec snapshot := by
  obtain ⟨ha, hdata⟩ := (build_eq_ok_iff spec snapshot).mp hbuild
  exact {
    devices_perm := snapshot.devices_perm hdata
    devices_sorted := devices_strictly_sorted hdata
    device_found := fun d hd => device_of_mem ha hdata hd
    device_missing := fun id hid => device_of_not_mem ha hdata hid
    byNUMA := devicesByNUMA_eq hdata
    unknownNUMA := devicesWithUnknownNUMA_eq hdata
    byPCIeRoot := fun root hroot => devicesByPCIeRoot_eq hdata hroot
    byFabricGroup := fun group hgroup => devicesByFabricGroup_eq hdata hgroup
    links_oriented := by
      intro l hl
      rw [links_eq hdata] at hl
      obtain ⟨m, hm, rfl⟩ := List.mem_map.mp hl
      exact orient_lt (ha.link_ok m ((sortLinks_perm spec.links).mem_iff.mp hm)).1
    links_perm := by
      refine ⟨sortLinks spec.links, sortLinks_perm spec.links, ?_⟩
      rw [links_eq hdata, List.forall₂_map_right_iff, List.forall₂_same]
      exact fun l _ => reoriented_orient l
    linkBetween_found := by
      intro a b
      constructor
      · rintro ⟨l, hl⟩
        obtain ⟨_, m, hm, hjoins, _⟩ := linkBetween_cases ha hbuild hl
        exact ⟨m, hm, hjoins⟩
      · rintro ⟨l, hl, hjoins⟩
        have hab : a ≠ b := by
          rintro rfl
          have hself := (ha.link_ok l hl).1
          rcases hjoins with ⟨hs, ht⟩ | ⟨hs, ht⟩
          · exact hself (hs.trans ht.symm)
          · exact hself (hs.trans ht.symm)
        have hne : joining spec a b ≠ [] := List.ne_nil_of_mem (mem_joining.mpr ⟨hl, hjoins⟩)
        rw [linkBetween_eq hbuild hab, List.getLast?_eq_some_getLast hne]
        exact ⟨_, rfl⟩
    linkBetween_self := linkBetween_self ha hdata
    linkBetween_mem := by
      intro a b l hl
      obtain ⟨hab, m, hm, hjoins, rfl⟩ := linkBetween_cases ha hbuild hl
      obtain ⟨hs, ht⟩ := leaving_ends hjoins hab
      exact ⟨hs, ht, m, hm, hjoins, reoriented_leaving a m⟩
    linkBetween_swap := linkBetween_swap snapshot }

theorem build_represents_parallel_links :
    let : Kube := sampleKube
    ∃ snapshot, build doublyLinked = .ok snapshot ∧ Represents doublyLinked snapshot := by
  intro kube
  exact ⟨_, rfl, build_represents _ _ rfl⟩

end AcceleratorFabric.Topology
