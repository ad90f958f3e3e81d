import AcceleratorFabric.GraphSearch
import AcceleratorFabric.Snapshot

/-! # Selecting a device combination

`selectDeviceIDs` picks devices for a request according to the policy's topology mode: the
first ones, the best-fitting NUMA or PCIe-root group, a clique or a connected set of qualifying
fabric links.  The two graph modes instantiate the searches of `GraphSearch`.

Go iterates over the map of groups in an arbitrary order and sorts the keys afterwards, so the
order is a parameter of `selectDeviceGroupIn`; it does not matter (`selectDeviceGroupIn_eq`).

`selectDeviceIDs_sound`: a non-empty selection consists of exactly the requested number of
distinct devices of the list and satisfies the topology mode in the snapshot.  Same-PCIe-root
mode needs one more fact: the key of a device without a root, `~unknown`, can also be the root
of another device (`RootsApart`). -/

namespace AcceleratorFabric.TopologyFit

open GoMap GoText GraphSearch AcceleratorFabric.Topology

/-! ### The selectors -/

def qualifiesFabricLink (link : AcceleratorLink) (policy : AcceleratorPlacementPolicySpec) : Bool :=
  if link.type = .pcie then false
  else if link.health ≠ .healthy ∧
      ¬ (policy.allowUnknownTopology = true ∧ link.health = .unknown) then false
  else decide (policy.minimumLinkBandwidthGBps ≤ link.bandwidthGBps) &&
    decide (link.hops ≤ policy.maxFabricHops)

theorem qualifiesFabricLink_iff {link : AcceleratorLink} {policy : AcceleratorPlacementPolicySpec} :
    qualifiesFabricLink link policy = true ↔ link.type ≠ .pcie ∧
      (link.health = .healthy ∨ (policy.allowUnknownTopology = true ∧ link.health = .unknown)) ∧
      policy.minimumLinkBandwidthGBps ≤ link.bandwidthGBps ∧ link.hops ≤ policy.maxFabricHops := by
  unfold qualifiesFabricLink
  split_ifs with htype hhealth
  · simp [htype]
  · have hbad : ¬ (link.health = .healthy ∨
        (policy.allowUnknownTopology = true ∧ link.health = .unknown)) := by tauto
    simp [hbad]
  · have hok : link.health = .healthy ∨
        (policy.allowUnknownTopology = true ∧ link.health = .unknown) := by tauto
    simp [htype, hok]

def firstDeviceIDs (devices : List AcceleratorDevice) (requested : ℕ) : List String :=
  (devices.take requested).map (·.id)

/-- A device's group and whether the device may be used. -/
abbrev GroupKey := AcceleratorDevice → String × Bool

def groupDevices (groupKey : GroupKey) (devices : List AcceleratorDevice) :
    GoMap String (List AcceleratorDevice) :=
  devices.foldl (fun groups device =>
    if (groupKey device).2 then appendAt groups (groupKey device).1 device else groups) ∅

/-- `groups[key]`. -/
def groupAt (groups : GoMap String (List AcceleratorDevice)) (key : String) :
    List AcceleratorDevice :=
  (groups.lookup key).getD []

/-- Smaller groups first, then by key. -/
def keyOrder (groups : GoMap String (List AcceleratorDevice)) (left right : String) : Prop :=
  (groupAt groups left).length < (groupAt groups right).length ∨
    ((groupAt groups left).length = (groupAt groups right).length ∧ left ≤ right)

instance (groups : GoMap String (List AcceleratorDevice)) (left right : String) :
    Decidable (keyOrder groups left right) :=
  inferInstanceAs (Decidable (_ ∨ _))

/-- `selectDeviceGroup` when `range groups` yields the keys in the given order. -/
def selectDeviceGroupIn (order : List String) (devices : List AcceleratorDevice) (requested : ℕ)
    (groupKey : GroupKey) : List String :=
  let groups := groupDevices groupKey devices
  let keys := (order.filter (fun key => requested ≤ (groupAt groups key).length)).insertionSort
    (keyOrder groups)
  match keys with
  | [] => []
  | key :: _ => firstDeviceIDs (groupAt groups key) requested

/-- The keys of usable devices, each once. -/
def usableKeys (groupKey : GroupKey) (devices : List AcceleratorDevice) : List String :=
  ((devices.filter (fun device => (groupKey device).2)).map (fun device => (groupKey device).1)).dedup

def selectDeviceGroup (devices : List AcceleratorDevice) (requested : ℕ) (groupKey : GroupKey) :
    List String :=
  selectDeviceGroupIn (usableKeys groupKey devices) devices requested groupKey

/-- The group of single-NUMA mode. -/
def numaKey (policy : AcceleratorPlacementPolicySpec) : GroupKey := fun device =>
  match device.numaNode with
  | none => ("~unknown", policy.allowUnknownTopology)
  | some numa => ("numa:" ++ formatPadded 10 numa, true)

/-- The group of same-PCIe-root mode. -/
def pcieRootKey (policy : AcceleratorPlacementPolicySpec) : GroupKey := fun device =>
  if device.pcieRoot = "" then ("~unknown", policy.allowUnknownTopology)
  else (device.pcieRoot, true)

section snapshot

variable [Kube]

/-- `LinkBetween` finds a link and it qualifies. -/
def linked (snapshot : Snapshot) (policy : AcceleratorPlacementPolicySpec) (a b : String) : Bool :=
  (snapshot.linkBetween a b).any (fun link => qualifiesFabricLink link policy)

def selectFabricClique (snapshot : Snapshot) (devices : List AcceleratorDevice)
    (policy : AcceleratorPlacementPolicySpec) (requested : ℕ) : List String :=
  cliqueSearch (linked snapshot policy) requested [] (firstDeviceIDs devices devices.length)

/-- The search from one start; `requested` rounds are enough. -/
def connectedFrom (snapshot : Snapshot) (ids : List String)
    (policy : AcceleratorPlacementPolicySpec) (requested : ℕ) (start : String) :
    Option (List String) :=
  let selected := breadthFirst (linked snapshot policy) ids requested requested [start] [start] []
  if selected.length = requested then some selected else none

def selectFabricConnected (snapshot : Snapshot) (devices : List AcceleratorDevice)
    (policy : AcceleratorPlacementPolicySpec) (requested : ℕ) : List String :=
  let ids := firstDeviceIDs devices devices.length
  (ids.findSome? (connectedFrom snapshot ids policy requested)).getD []

/-- The selection; the empty list stands for `nil`. -/
def selectDeviceIDs (snapshot : Snapshot) (devices : List AcceleratorDevice)
    (policy : AcceleratorPlacementPolicySpec) (requested : ℤ) : List String :=
  if requested < 1 ∨ (devices.length : ℤ) < requested then []
  else match policy.topologyMode with
    | .bestEffort => firstDeviceIDs devices requested.toNat
    | .singleNUMA => selectDeviceGroup devices requested.toNat (numaKey policy)
    | .samePCIeRoot => selectDeviceGroup devices requested.toNat (pcieRootKey policy)
    | .fabricClique => selectFabricClique snapshot devices policy requested.toNat
    | .fabricConnected => selectFabricConnected snapshot devices policy requested.toNat
    | .other _ => []

end snapshot

/-! ### Groups -/

theorem lookup_groupDevices_foldl (groupKey : GroupKey) (key : String) :
    ∀ (devices : List AcceleratorDevice) (groups : GoMap String (List AcceleratorDevice)),
      groupAt (devices.foldl (fun groups device =>
        if (groupKey device).2 then appendAt groups (groupKey device).1 device else groups)
          groups) key =
        groupAt groups key ++ devices.filter (fun device => groupKey device = (key, true))
  | [], groups => by simp
  | d :: rest, groups => by
      rw [List.foldl_cons, lookup_groupDevices_foldl groupKey key rest]
      rcases hk : groupKey d with ⟨k, usable⟩
      cases usable with
      | false => simp [hk]
      | true =>
          have hat : groupAt (appendAt groups k d) key =
              if key = k then groupAt groups key ++ [d] else groupAt groups key := by
            unfold groupAt appendAt
            rw [lookup_insert_ite]
            split_ifs with h
            · rw [h]; rfl
            · rfl
          rw [if_pos rfl, hat]
          by_cases h : key = k
          · simp [hk, h]
          · have h' : ¬ k = key := fun e => h e.symm
            simp [hk, h, h']

/-- A group holds the usable devices with its key, in list order. -/
theorem groupAt_groupDevices (groupKey : GroupKey) (devices : List AcceleratorDevice)
    (key : String) : groupAt (groupDevices groupKey devices) key =
      devices.filter (fun device => groupKey device = (key, true)) := by
  have h := lookup_groupDevices_foldl groupKey key devices ∅
  have hempty : groupAt ∅ key = [] := rfl
  rw [hempty, List.nil_append] at h
  exact h

instance (groups : GoMap String (List AcceleratorDevice)) : IsTrans String (keyOrder groups) where
  trans := by
    intro a b c hab hbc
    unfold keyOrder at hab hbc ⊢
    rcases hab with hab | ⟨hab, hab'⟩
    · rcases hbc with hbc | ⟨hbc, _⟩
      · left; omega
      · left; omega
    · rcases hbc with hbc | ⟨hbc, hbc'⟩
      · left; omega
      · exact .inr ⟨hab.trans hbc, hab'.trans hbc'⟩

instance (groups : GoMap String (List AcceleratorDevice)) :
    Std.Total (keyOrder groups) where
  total := by
    intro a b
    unfold keyOrder
    rcases Nat.lt_trichotomy (groupAt groups a).length (groupAt groups b).length with h | h | h
    · exact .inl (.inl h)
    · rcases le_total a b with hab | hab
      · exact .inl (.inr ⟨h, hab⟩)
      · exact .inr (.inr ⟨h.symm, hab⟩)
    · exact .inr (.inl h)

instance (groups : GoMap String (List AcceleratorDevice)) :
    Std.Antisymm (keyOrder groups) where
  antisymm := by
    intro a b hab hba
    unfold keyOrder at hab hba
    rcases hab with hab | ⟨_, hab⟩
    · omega
    · rcases hba with hba | ⟨_, hba⟩
      · omega
      · exact le_antisymm hab hba

theorem mem_usableKeys {groupKey : GroupKey} {devices : List AcceleratorDevice} {key : String} :
    key ∈ usableKeys groupKey devices ↔ ∃ d ∈ devices, groupKey d = (key, true) := by
  unfold usableKeys
  rw [List.mem_dedup, List.mem_map]
  constructor
  · rintro ⟨d, hd, rfl⟩
    obtain ⟨hd, husable⟩ := List.mem_filter.mp hd
    exact ⟨d, hd, Prod.ext rfl husable⟩
  · rintro ⟨d, hd, hk⟩
    refine ⟨d, List.mem_filter.mpr ⟨hd, ?_⟩, ?_⟩
    · rw [hk]
    · rw [hk]

/-- **The order of map iteration does not matter**: every enumeration of the group keys gives
the same selection. -/
theorem selectDeviceGroupIn_eq {order : List String} {devices : List AcceleratorDevice}
    {groupKey : GroupKey} (hnodup : order.Nodup)
    (hkeys : ∀ key, key ∈ order ↔ ∃ d ∈ devices, groupKey d = (key, true)) (requested : ℕ) :
    selectDeviceGroupIn order devices requested groupKey =
      selectDeviceGroup devices requested groupKey := by
  have hperm : order.Perm (usableKeys groupKey devices) := by
    have hnodup' : (usableKeys groupKey devices).Nodup := List.nodup_dedup _
    rw [List.perm_ext_iff_of_nodup hnodup hnodup']
    intro key
    rw [hkeys, mem_usableKeys]
  unfold selectDeviceGroup selectDeviceGroupIn
  simp only
  rw [List.Perm.eq_of_pairwise' (List.pairwise_insertionSort (keyOrder _) _)
    (List.pairwise_insertionSort (keyOrder _) _)]
  exact ((List.perm_insertionSort _ _).trans (hperm.filter _)).trans
    (List.perm_insertionSort _ _).symm

/-- A group selection takes the first devices of one sufficiently large group. -/
theorem selectDeviceGroup_sound {devices : List AcceleratorDevice} {requested : ℕ}
    {groupKey : GroupKey} (hne : selectDeviceGroup devices requested groupKey ≠ []) :
    ∃ key, requested ≤ (devices.filter (fun d => groupKey d = (key, true))).length ∧
      selectDeviceGroup devices requested groupKey =
        firstDeviceIDs (devices.filter (fun d => groupKey d = (key, true))) requested := by
  unfold selectDeviceGroup selectDeviceGroupIn at hne ⊢
  simp only [groupAt_groupDevices] at hne ⊢
  split at hne
  · exact absurd rfl hne
  · next key rest hsort =>
      refine ⟨key, ?_, rfl⟩
      have hmem : key ∈ key :: rest := List.mem_cons_self
      rw [← hsort, List.mem_insertionSort, List.mem_filter] at hmem
      exact of_decide_eq_true hmem.2

theorem numaKey_eq {policy : AcceleratorPlacementPolicySpec} {a b : AcceleratorDevice}
    {key : String} (ha : numaKey policy a = (key, true)) (hb : numaKey policy b = (key, true)) :
    a.numaNode = b.numaNode ∧ (a.numaNode = none → policy.allowUnknownTopology = true) := by
  have hne : ∀ n : ℤ, "numa:" ++ formatPadded 10 n ≠ "~unknown" := by
    intro n h
    have := congrArg String.toList h
    simp at this
  unfold numaKey at ha hb
  cases hna : a.numaNode with
  | none =>
      cases hnb : b.numaNode with
      | none =>
          rw [hna] at ha
          exact ⟨rfl, fun _ => congrArg Prod.snd ha⟩
      | some n =>
          rw [hna] at ha
          rw [hnb] at hb
          exact absurd ((congrArg Prod.fst hb).trans (congrArg Prod.fst ha).symm) (hne n)
  | some m =>
      rw [hna] at ha
      cases hnb : b.numaNode with
      | none =>
          rw [hnb] at hb
          exact absurd ((congrArg Prod.fst ha).trans (congrArg Prod.fst hb).symm) (hne m)
      | some n =>
          rw [hnb] at hb
          have he : "numa:" ++ formatPadded 10 m = "numa:" ++ formatPadded 10 n :=
            (congrArg Prod.fst ha).trans (congrArg Prod.fst hb).symm
          have hmn : m = n := formatPadded_injective ((String.append_right_inj _).mp he)
          exact ⟨by rw [hmn], fun h => by cases h⟩

/-- No device's root reads like the key of the devices without one, when these are used. -/
def RootsApart (policy : AcceleratorPlacementPolicySpec) (devices : List AcceleratorDevice) : Prop :=
  policy.topologyMode = .samePCIeRoot → policy.allowUnknownTopology = true →
    (∃ a ∈ devices, a.pcieRoot = "") → ∀ b ∈ devices, b.pcieRoot ≠ "~unknown"

instance (policy : AcceleratorPlacementPolicySpec) (devices : List AcceleratorDevice) :
    Decidable (RootsApart policy devices) :=
  inferInstanceAs (Decidable (_ → _ → _ → _))

theorem pcieRootKey_eq {policy : AcceleratorPlacementPolicySpec} {a b : AcceleratorDevice}
    {key : String} (ha : pcieRootKey policy a = (key, true))
    (hb : pcieRootKey policy b = (key, true))
    (hab : policy.allowUnknownTopology = true → a.pcieRoot = "" → b.pcieRoot ≠ "~unknown")
    (hba : policy.allowUnknownTopology = true → b.pcieRoot = "" → a.pcieRoot ≠ "~unknown") :
    a.pcieRoot = b.pcieRoot ∧ (a.pcieRoot = "" → policy.allowUnknownTopology = true) := by
  unfold pcieRootKey at ha hb
  split_ifs at ha hb with h1 h2 h2
  · exact ⟨h1.trans h2.symm, fun _ => congrArg Prod.snd ha⟩
  · have hroot : b.pcieRoot = "~unknown" :=
      (congrArg Prod.fst hb).trans (congrArg Prod.fst ha).symm
    exact absurd hroot (hab (congrArg Prod.snd ha) h1)
  · have hroot : a.pcieRoot = "~unknown" :=
      (congrArg Prod.fst ha).trans (congrArg Prod.fst hb).symm
    exact absurd hroot (hba (congrArg Prod.snd hb) h2)
  · exact ⟨(congrArg Prod.fst ha).trans (congrArg Prod.fst hb).symm, fun h => absurd h h1⟩

/-! ### What a selection consists of -/

/-- The requested number of distinct devices from the list. -/
structure Drawn (devices : List AcceleratorDevice) (requested : ℕ) (ids : List String) : Prop where
  length_eq : ids.length = requested
  nodup : ids.Nodup
  subset : ids ⊆ devices.map (·.id)

theorem firstDeviceIDs_drawn {devices group : List AcceleratorDevice} {requested : ℕ}
    (hnodup : (devices.map (·.id)).Nodup) (hsub : group.Sublist devices)
    (hlen : requested ≤ group.length) :
    Drawn devices requested (firstDeviceIDs group requested) := by
  have hids : (firstDeviceIDs group requested).Sublist (devices.map (·.id)) :=
    ((List.take_sublist requested group).trans hsub).map _
  refine ⟨?_, hids.nodup hnodup, hids.subset⟩
  unfold firstDeviceIDs
  rw [List.length_map, List.length_take]
  omega

theorem firstDeviceIDs_length (devices : List AcceleratorDevice) :
    firstDeviceIDs devices devices.length = devices.map (·.id) := by
  unfold firstDeviceIDs
  rw [List.take_length]

section sound

variable [Kube] {snapshot : Snapshot} {devices : List AcceleratorDevice}
  {policy : AcceleratorPlacementPolicySpec}

theorem linked_symm {a b : String} (h : linked snapshot policy a b = true) :
    linked snapshot policy b a = true := by
  unfold linked at h ⊢
  cases hl : snapshot.linkBetween a b with
  | none => rw [hl] at h; cases h
  | some l =>
      rw [hl] at h
      rw [snapshot.linkBetween_symm hl]
      exact h

theorem selectFabricConnected_cases {requested : ℕ}
    (hne : selectFabricConnected snapshot devices policy requested ≠ []) :
    ∃ start ∈ devices.map (·.id), selectFabricConnected snapshot devices policy requested =
        breadthFirst (linked snapshot policy) (devices.map (·.id)) requested requested
          [start] [start] [] ∧
      (selectFabricConnected snapshot devices policy requested).length = requested := by
  unfold selectFabricConnected at hne ⊢
  simp only [firstDeviceIDs_length] at hne ⊢
  cases hf : (devices.map (·.id)).findSome?
      (connectedFrom snapshot (devices.map (·.id)) policy requested) with
  | none => rw [hf] at hne; exact absurd rfl hne
  | some selected =>
      obtain ⟨start, hs, hc⟩ := List.exists_of_findSome?_eq_some hf
      unfold connectedFrom at hc
      simp only at hc
      split_ifs at hc with hlen
      cases hc
      exact ⟨start, hs, rfl, hlen⟩

/-- The selection in the group modes. -/
def groupKeyOf (policy : AcceleratorPlacementPolicySpec) : Option GroupKey :=
  match policy.topologyMode with
  | .singleNUMA => some (numaKey policy)
  | .samePCIeRoot => some (pcieRootKey policy)
  | _ => none

/-- **Inversion of `selectDeviceIDs`**: where a non-empty selection comes from. -/
theorem selectDeviceIDs_cases {requested : ℤ} {ids : List String}
    (h : selectDeviceIDs snapshot devices policy requested = ids) (hne : ids ≠ []) :
    requested.toNat ≤ devices.length ∧
    ((policy.topologyMode = .bestEffort ∧ ids = firstDeviceIDs devices requested.toNat) ∨
    (∃ groupKey key, groupKeyOf policy = some groupKey ∧
      requested.toNat ≤ (devices.filter (fun d => groupKey d = (key, true))).length ∧
      ids = firstDeviceIDs (devices.filter (fun d => groupKey d = (key, true))) requested.toNat) ∨
    (policy.topologyMode = .fabricClique ∧ ids.length = requested.toNat ∧
      ids.Sublist (devices.map (·.id)) ∧ IsClique (linked snapshot policy) ids) ∨
    (policy.topologyMode = .fabricConnected ∧ ids.length = requested.toNat ∧
      ∃ start ∈ devices.map (·.id), ids = breadthFirst (linked snapshot policy)
        (devices.map (·.id)) requested.toNat requested.toNat [start] [start] [])) := by
  unfold selectDeviceIDs at h
  split_ifs at h with hguard
  · exact absurd h.symm hne
  refine ⟨by omega, ?_⟩
  unfold groupKeyOf
  cases hm : policy.topologyMode with
  | bestEffort =>
      simp only [hm] at h
      exact .inl ⟨rfl, h.symm⟩
  | singleNUMA =>
      simp only [hm] at h
      rw [← h] at hne ⊢
      obtain ⟨key, hk⟩ := selectDeviceGroup_sound hne
      exact .inr (.inl ⟨_, key, rfl, hk⟩)
  | samePCIeRoot =>
      simp only [hm] at h
      rw [← h] at hne ⊢
      obtain ⟨key, hk⟩ := selectDeviceGroup_sound hne
      exact .inr (.inl ⟨_, key, rfl, hk⟩)
  | fabricClique =>
      simp only [hm] at h
      rw [← h] at hne ⊢
      unfold selectFabricClique at hne ⊢
      rw [firstDeviceIDs_length] at hne ⊢
      exact .inr (.inr (.inl ⟨rfl, cliqueSearch_sound hne⟩))
  | fabricConnected =>
      simp only [hm] at h
      rw [← h] at hne ⊢
      obtain ⟨start, hs, he, hlen⟩ := selectFabricConnected_cases hne
      exact .inr (.inr (.inr ⟨rfl, hlen, start, hs, he⟩))
  | other t =>
      simp only [hm] at h
      exact absurd h.symm hne

theorem selectDeviceIDs_drawn {requested : ℤ} {ids : List String}
    (hnodup : (devices.map (·.id)).Nodup)
    (h : selectDeviceIDs snapshot devices policy requested = ids) (hne : ids ≠ []) :
    Drawn devices requested.toNat ids := by
  obtain ⟨hle, ⟨_, he⟩ | ⟨groupKey, key, _, hlen, he⟩ | ⟨_, hlen, hsub, _⟩ |
    ⟨_, hlen, start, hs, he⟩⟩ := selectDeviceIDs_cases h hne
  · rw [he]
    exact firstDeviceIDs_drawn hnodup (List.Sublist.refl _) hle
  · rw [he]
    exact firstDeviceIDs_drawn hnodup List.filter_sublist hlen
  · exact ⟨hlen, hsub.nodup hnodup, hsub.subset⟩
  · obtain ⟨hnd, hreach⟩ := breadthFirst_sound hnodup hs requested.toNat requested.toNat
    rw [← he] at hnd hreach
    exact ⟨hlen, hnd, fun x hx => (hreach x hx).1⟩

/-- The policy's topology mode holds of the devices with the given IDs. -/
def SatisfiesMode (snapshot : Snapshot) (policy : AcceleratorPlacementPolicySpec)
    (ids : List String) : Prop :=
  match policy.topologyMode with
  | .singleNUMA => ∀ a ∈ snapshot.devices, ∀ b ∈ snapshot.devices, a.id ∈ ids → b.id ∈ ids →
      a.numaNode = b.numaNode ∧ (a.numaNode = none → policy.allowUnknownTopology = true)
  | .samePCIeRoot => ∀ a ∈ snapshot.devices, ∀ b ∈ snapshot.devices, a.id ∈ ids → b.id ∈ ids →
      a.pcieRoot = b.pcieRoot ∧ (a.pcieRoot = "" → policy.allowUnknownTopology = true)
  | .fabricClique => ∀ a ∈ ids, ∀ b ∈ ids, a ≠ b → linked snapshot policy a b = true
  | .fabricConnected => ∀ a ∈ ids, ∀ b ∈ ids,
      Relation.ReflTransGen (StepWithin (linked snapshot policy) ids) a b
  | .bestEffort => True
  | .other _ => False

omit [Kube] in
theorem mem_group_of_selected {all : List AcceleratorDevice} (hnodup : (all.map (·.id)).Nodup)
    (hsub : devices.Sublist all) {groupKey : GroupKey} {key : String} {requested : ℕ}
    {a : AcceleratorDevice} (ha : a ∈ all)
    (hid : a.id ∈ firstDeviceIDs (devices.filter (fun d => groupKey d = (key, true))) requested) :
    a ∈ devices ∧ groupKey a = (key, true) := by
  obtain ⟨d, hd, he⟩ := List.mem_map.mp hid
  obtain ⟨hmem, hkey⟩ := List.mem_filter.mp (List.mem_of_mem_take hd)
  have hda : d = a := List.inj_on_of_nodup_map hnodup (hsub.subset hmem) ha he
  rw [← hda]
  exact ⟨hmem, of_decide_eq_true hkey⟩

/-- In the group modes it is enough that the selected devices share a key. -/
theorem satisfiesMode_of_group (hroots : RootsApart policy devices) {groupKey : GroupKey}
    (hgroup : groupKeyOf policy = some groupKey) {key : String} {ids : List String}
    (hkey : ∀ a ∈ snapshot.devices, a.id ∈ ids → a ∈ devices ∧ groupKey a = (key, true)) :
    SatisfiesMode snapshot policy ids := by
  unfold groupKeyOf at hgroup
  unfold SatisfiesMode
  cases hm : policy.topologyMode with
  | singleNUMA =>
      rw [hm] at hgroup
      cases hgroup
      intro a ha b hb hia hib
      exact numaKey_eq (hkey a ha hia).2 (hkey b hb hib).2
  | samePCIeRoot =>
      rw [hm] at hgroup
      cases hgroup
      intro a ha b hb hia hib
      obtain ⟨ha', hka⟩ := hkey a ha hia
      obtain ⟨hb', hkb⟩ := hkey b hb hib
      refine pcieRootKey_eq hka hkb ?_ ?_
      · exact fun hallow hblank => hroots hm hallow ⟨a, ha', hblank⟩ b hb'
      · exact fun hallow hblank => hroots hm hallow ⟨b, hb', hblank⟩ a ha'
  | fabricClique => rw [hm] at hgroup; cases hgroup
  | fabricConnected => rw [hm] at hgroup; cases hgroup
  | bestEffort => rw [hm] at hgroup; cases hgroup
  | other t => rw [hm] at hgroup; cases hgroup

/-- **Selections satisfy their topology mode**, in same-PCIe-root mode as long as no root reads
like the key of the devices without one. -/
theorem selectDeviceIDs_mode {requested : ℤ} {ids : List String}
    (hsub : devices.Sublist snapshot.devices) (hroots : RootsApart policy devices)
    (h : selectDeviceIDs snapshot devices policy requested = ids) (hne : ids ≠ []) :
    SatisfiesMode snapshot policy ids := by
  have hnodup : (devices.map (·.id)).Nodup := (hsub.map _).nodup snapshot.ids_nodup
  obtain ⟨_, ⟨hm, _⟩ | ⟨groupKey, key, hgroup, _, he⟩ | ⟨hm, _, _, hclique⟩ |
    ⟨hm, _, start, hs, he⟩⟩ := selectDeviceIDs_cases h hne
  · unfold SatisfiesMode
    rw [hm]
    trivial
  · have hkey : ∀ a ∈ snapshot.devices, a.id ∈ ids →
        a ∈ devices ∧ groupKey a = (key, true) := by
      intro a ha hid
      rw [he] at hid
      exact mem_group_of_selected snapshot.ids_nodup hsub ha hid
    exact satisfiesMode_of_group hroots hgroup hkey
  · unfold SatisfiesMode
    rw [hm]
    have hsymm : Std.Symm (fun m c => linked snapshot policy c m = true) :=
      ⟨fun _ _ => linked_symm⟩
    intro a ha b hb hab
    exact linked_symm (hclique.forall ha hb hab)
  · unfold SatisfiesMode
    rw [hm]
    obtain ⟨_, hreach⟩ := breadthFirst_sound hnodup hs requested.toNat requested.toNat
    rw [← he] at hreach
    exact connected_of_reached (fun _ _ => linked_symm) (fun x hx => (hreach x hx).2)

end sound

end AcceleratorFabric.TopologyFit
