import AcceleratorFabric.Evaluate

/-! # Group selection

`selectDeviceGroup` takes the devices of the best-fitting group: the smallest one that is large
enough, and of several the one with the smallest key.  The scores count the same groups in another
way, by NUMA node and by PCIe root and not by the formatted keys.

* `selectDeviceGroup_best_fit`: what is selected, in whatever order the map of groups is iterated;
  in single-NUMA mode something is selected exactly if `maxNUMAGroup` is large enough.
* `samePCIeRoot_agrees_iff`: when the same holds of PCIe roots and `maxStringGroup`.  Devices
  without a root share the key of those whose root reads `~unknown`, which matters exactly if the
  selection is taken from that group and has devices of both kinds (`Blends`). -/

namespace AcceleratorFabric.TopologyFit

open GoMap AcceleratorFabric.Topology

/-! ### Best fit -/

/-- The devices of a list with one group key. -/
def groupOf (groupKey : GroupKey) (key : String) (devices : List AcceleratorDevice) :
    List AcceleratorDevice :=
  devices.filter (fun device => groupKey device = (key, true))

/-- The group is large enough, and no other such group comes before it: none is smaller, and none
of the same size has a smaller key. -/
structure BestFit (groupKey : GroupKey) (devices : List AcceleratorDevice) (requested : ℕ)
    (key : String) : Prop where
  large : requested ≤ (groupOf groupKey key devices).length
  first : ∀ other, requested ≤ (groupOf groupKey other devices).length →
    (groupOf groupKey key devices).length < (groupOf groupKey other devices).length ∨
    ((groupOf groupKey key devices).length = (groupOf groupKey other devices).length ∧ key ≤ other)

/-- `order` lists the keys of the map of groups, each once. -/
structure EnumeratesGroups (groupKey : GroupKey) (devices : List AcceleratorDevice)
    (order : List String) : Prop where
  nodup : order.Nodup
  mem_iff : ∀ key, key ∈ order ↔ ∃ d ∈ devices, groupKey d = (key, true)

section groups

variable {devices : List AcceleratorDevice} {requested : ℕ} {groupKey : GroupKey}

theorem EnumeratesGroups.mem_of_large {order : List String}
    (h : EnumeratesGroups groupKey devices order) (hrequested : 1 ≤ requested) {key : String}
    (hlarge : requested ≤ (groupOf groupKey key devices).length) : key ∈ order := by
  obtain ⟨d, hd⟩ := List.exists_mem_of_length_pos (hrequested.trans hlarge)
  obtain ⟨hd, hkey⟩ := List.mem_filter.mp hd
  exact (h.mem_iff key).mpr ⟨d, hd, of_decide_eq_true hkey⟩

/-- **Inversion of `selectDeviceGroup`**: no group is large enough, or the first devices of the
best-fitting one are taken. -/
theorem selectDeviceGroupIn_cases {order : List String}
    (h : EnumeratesGroups groupKey devices order) (hrequested : 1 ≤ requested) :
    (selectDeviceGroupIn order devices requested groupKey = [] ∧
      ∀ key, (groupOf groupKey key devices).length < requested) ∨
    (∃ key, BestFit groupKey devices requested key ∧
      selectDeviceGroupIn order devices requested groupKey =
        firstDeviceIDs (groupOf groupKey key devices) requested) := by
  have hkeys : ∀ {key : String}, requested ≤ (groupOf groupKey key devices).length →
      key ∈ (order.filter (fun key => requested ≤
        (groupAt (groupDevices groupKey devices) key).length)).insertionSort
          (keyOrder (groupDevices groupKey devices)) := by
    intro key hlarge
    rw [List.mem_insertionSort, List.mem_filter, decide_eq_true_iff, groupAt_groupDevices]
    exact ⟨h.mem_of_large hrequested hlarge, hlarge⟩
  have hsorted := List.pairwise_insertionSort (keyOrder (groupDevices groupKey devices))
    (order.filter (fun key => requested ≤ (groupAt (groupDevices groupKey devices) key).length))
  unfold selectDeviceGroupIn
  simp only
  split
  · next hsort =>
      refine .inl ⟨rfl, fun key => ?_⟩
      by_contra hsmall
      have hmem := hkeys (not_lt.mp hsmall)
      rw [hsort] at hmem
      cases hmem
  · next key rest hsort =>
      rw [hsort, List.pairwise_cons] at hsorted
      have hfirst : key ∈ key :: rest := List.mem_cons_self
      rw [← hsort, List.mem_insertionSort, List.mem_filter, decide_eq_true_iff,
        groupAt_groupDevices] at hfirst
      refine .inr ⟨key, ⟨hfirst.2, ?_⟩, by rw [groupAt_groupDevices]; rfl⟩
      intro other hlarge
      have hmem := hkeys hlarge
      rw [hsort] at hmem
      rcases List.mem_cons.mp hmem with rfl | hmem
      · exact .inr ⟨rfl, le_rfl⟩
      · have horder := hsorted.1 other hmem
        unfold keyOrder at horder
        rw [groupAt_groupDevices, groupAt_groupDevices] at horder
        exact horder

theorem enumeratesGroups_usableKeys (groupKey : GroupKey) (devices : List AcceleratorDevice) :
    EnumeratesGroups groupKey devices (usableKeys groupKey devices) :=
  ⟨List.nodup_dedup _, fun _ => mem_usableKeys⟩

theorem firstDeviceIDs_ne_nil {group : List AcceleratorDevice} (hrequested : 1 ≤ requested)
    (hlarge : requested ≤ group.length) : firstDeviceIDs group requested ≠ [] := by
  unfold firstDeviceIDs
  rw [← List.length_pos_iff, List.length_map, List.length_take]
  omega

theorem selectDeviceGroupIn_ne_nil_iff {order : List String}
    (h : EnumeratesGroups groupKey devices order) (hrequested : 1 ≤ requested) :
    selectDeviceGroupIn order devices requested groupKey ≠ [] ↔
      ∃ key, requested ≤ (groupOf groupKey key devices).length := by
  rcases selectDeviceGroupIn_cases h hrequested with ⟨hnil, hsmall⟩ | ⟨key, hfit, hselected⟩
  · refine iff_of_false (fun hne => hne hnil) ?_
    rintro ⟨key, hlarge⟩
    have := hsmall key
    omega
  · rw [hselected]
    exact iff_of_true (firstDeviceIDs_ne_nil hrequested hfit.large) ⟨key, hfit.large⟩

theorem selectDeviceGroup_ne_nil_iff (hrequested : 1 ≤ requested) :
    selectDeviceGroup devices requested groupKey ≠ [] ↔
      ∃ key, requested ≤ (groupOf groupKey key devices).length :=
  selectDeviceGroupIn_ne_nil_iff (enumeratesGroups_usableKeys groupKey devices) hrequested

end groups

/-! ### Counting groups -/

section counting

variable {K : Type} [DecidableEq K] {c : GroupCount K} {size : K → ℕ}

/-- The counters hold the sizes of the groups, and the maximum is the largest of them. -/
structure GroupCount.Counts (c : GroupCount K) (size : K → ℕ) : Prop where
  groups_eq : ∀ k, (c.groups.lookup k).getD 0 = size k
  le_maximum_iff : ∀ n, 1 ≤ n → (n ≤ c.maximum ↔ ∃ k, n ≤ size k)

theorem counts_empty (unknown : ℕ) : (⟨∅, unknown, 0⟩ : GroupCount K).Counts (fun _ => 0) where
  groups_eq := fun _ => rfl
  le_maximum_iff := by
    intro n hn
    refine iff_of_false ?_ ?_
    · show ¬ n ≤ 0
      omega
    · rintro ⟨_, hle⟩
      omega

theorem GroupCount.Counts.count (h : c.Counts size) (key : K) :
    (c.count key).Counts (Function.update size key (size key + 1)) where
  groups_eq := by
    intro k
    simp only [GroupCount.count]
    rw [lookup_insert_ite]
    by_cases hk : k = key
    · rw [if_pos hk, hk, Function.update_self, h.groups_eq]
      rfl
    · rw [if_neg hk, Function.update_of_ne hk, h.groups_eq]
  le_maximum_iff := by
    intro n hn
    have hmax : (c.count key).maximum = max c.maximum (size key + 1) := by
      simp only [GroupCount.count]
      rw [h.groups_eq]
    rw [hmax, le_max_iff, h.le_maximum_iff n hn]
    constructor
    · rintro (⟨k, hk⟩ | hkey)
      · refine ⟨k, hk.trans ?_⟩
        by_cases he : k = key
        · rw [he, Function.update_self]
          omega
        · rw [Function.update_of_ne he]
      · exact ⟨key, by rwa [Function.update_self]⟩
    · rintro ⟨k, hk⟩
      by_cases he : k = key
      · rw [he, Function.update_self] at hk
        exact .inr hk
      · rw [Function.update_of_ne he] at hk
        exact .inl ⟨k, hk⟩

/-- A loop that counts every element of a class once ends with the sizes of the classes. -/
theorem foldl_counts {α : Type} (step : GroupCount K → α → GroupCount K) (key : α → Option K)
    (hcount : ∀ c a k, key a = some k → step c a = c.count k)
    (hskip : ∀ c a, key a = none →
      (step c a).groups = c.groups ∧ (step c a).maximum = c.maximum) :
    ∀ (l : List α) (c : GroupCount K) (size : K → ℕ), c.Counts size →
      (l.foldl step c).Counts (fun k => size k + l.countP (fun a => key a = some k))
  | [], c, size, h => by simpa using h
  | a :: l, c, size, h => by
      rw [List.foldl_cons]
      cases ha : key a with
      | none =>
          obtain ⟨hgroups, hmaximum⟩ := hskip c a ha
          have hstep : (step c a).Counts size := by
            refine ⟨?_, ?_⟩
            · rw [hgroups]
              exact h.groups_eq
            · rw [hmaximum]
              exact h.le_maximum_iff
          simpa [List.countP_cons, ha] using foldl_counts step key hcount hskip l _ size hstep
      | some k =>
          rw [hcount c a k ha]
          have ih := foldl_counts step key hcount hskip l _ _ (h.count k)
          have hsize : (fun k' => Function.update size k (size k + 1) k' +
              l.countP (fun a => key a = some k')) =
                fun k' => size k' + (a :: l).countP (fun a => key a = some k') := by
            funext k'
            rw [List.countP_cons]
            by_cases he : k' = k
            · rw [he, Function.update_self]
              simp only [ha, decide_true, if_true]
              omega
            · have hne : ¬ some k = some k' := fun hs => he (Option.some.inj hs).symm
              rw [Function.update_of_ne he]
              simp [ha, hne]
          rwa [hsize] at ih

end counting

/-! ### Groups by key and by value -/

/-- Two devices are in one group exactly if they have the same value. -/
def SameClasses {V : Type} (groupKey : GroupKey) (value : AcceleratorDevice → Option V)
    (devices : List AcceleratorDevice) : Prop :=
  ∀ a ∈ devices, ∀ b ∈ devices, (∃ key, groupKey a = (key, true) ∧ groupKey b = (key, true)) ↔
    ∃ v, value a = some v ∧ value b = some v

section classes

variable {V : Type} [DecidableEq V] {groupKey : GroupKey} {value : AcceleratorDevice → Option V}
  {devices : List AcceleratorDevice} {requested : ℕ}

/-- The group of a device consists of the devices with its value. -/
theorem SameClasses.group_eq (h : SameClasses groupKey value devices) {d : AcceleratorDevice}
    (hd : d ∈ devices) {key : String} {v : V} (hkey : groupKey d = (key, true))
    (hv : value d = some v) :
    groupOf groupKey key devices = devices.filter (fun d => value d = some v) := by
  unfold groupOf
  apply List.filter_congr
  intro a ha
  have hiff := h d hd a ha
  rw [decide_eq_decide]
  constructor
  · intro hka
    obtain ⟨w, hdw, haw⟩ := hiff.mp ⟨key, hkey, hka⟩
    rw [hv] at hdw
    rw [haw, hdw]
  · intro hva
    obtain ⟨k, hdk, hak⟩ := hiff.mpr ⟨v, hv, hva⟩
    rw [hkey] at hdk
    rw [hak, hdk]

theorem SameClasses.exists_large_iff (h : SameClasses groupKey value devices)
    (hrequested : 1 ≤ requested) :
    (∃ key, requested ≤ (groupOf groupKey key devices).length) ↔
      ∃ v, requested ≤ devices.countP (fun d => value d = some v) := by
  simp only [List.countP_eq_length_filter]
  constructor
  · rintro ⟨key, hlarge⟩
    obtain ⟨d, hd⟩ := List.exists_mem_of_length_pos (hrequested.trans hlarge)
    obtain ⟨hd, hkey⟩ := List.mem_filter.mp hd
    have hkey := of_decide_eq_true hkey
    obtain ⟨v, hv, _⟩ := (h d hd d hd).mp ⟨key, hkey, hkey⟩
    rw [h.group_eq hd hkey hv] at hlarge
    exact ⟨v, hlarge⟩
  · rintro ⟨v, hlarge⟩
    obtain ⟨d, hd⟩ := List.exists_mem_of_length_pos (hrequested.trans hlarge)
    obtain ⟨hd, hv⟩ := List.mem_filter.mp hd
    have hv := of_decide_eq_true hv
    obtain ⟨key, hkey, _⟩ := (h d hd d hd).mpr ⟨v, hv, hv⟩
    rw [← h.group_eq hd hkey hv] at hlarge
    exact ⟨key, hlarge⟩

end classes

/-- The NUMA node of a device that may be used; `none` is one for all devices without a node. -/
def numaClass (allowUnknown : Bool) (device : AcceleratorDevice) : Option (Option ℤ) :=
  if device.numaNode = none ∧ allowUnknown = false then none else some device.numaNode

/-- The PCIe root of a device that may be used. -/
def rootClass (allowUnknown : Bool) (device : AcceleratorDevice) : Option String :=
  if device.pcieRoot = "" ∧ allowUnknown = false then none else some device.pcieRoot

section modes

variable {policy : AcceleratorPlacementPolicySpec} {devices : List AcceleratorDevice}
  {requested : ℕ}

/-- The body of the loop in `maxNUMAGroup`. -/
def countNUMA (allowUnknown : Bool) (c : GroupCount ℤ) (device : AcceleratorDevice) :
    GroupCount ℤ :=
  match device.numaNode with
  | none => if allowUnknown then { c with unknown := c.unknown + 1 } else c
  | some numa => c.count numa

theorem maxNUMAGroup_eq (devices : List AcceleratorDevice) (allowUnknown : Bool) :
    maxNUMAGroup devices allowUnknown =
      max (devices.foldl (countNUMA allowUnknown) ⟨∅, 0, 0⟩).maximum
        (devices.foldl (countNUMA allowUnknown) ⟨∅, 0, 0⟩).unknown :=
  rfl

theorem foldl_unknown (allowUnknown : Bool) : ∀ (devices : List AcceleratorDevice)
    (c : GroupCount ℤ), (devices.foldl (countNUMA allowUnknown) c).unknown =
      c.unknown + devices.countP (fun d => numaClass allowUnknown d = some none)
  | [], c => rfl
  | d :: devices, c => by
      rw [List.foldl_cons, foldl_unknown allowUnknown devices, List.countP_cons]
      cases hd : d.numaNode with
      | none =>
          cases allowUnknown with
          | false => simp [countNUMA, numaClass, hd]
          | true =>
              simp [countNUMA, numaClass, hd]
              omega
      | some numa => simp [countNUMA, numaClass, hd, GroupCount.count]

theorem countP_numaClass (allowUnknown : Bool) (devices : List AcceleratorDevice) (k : ℤ) :
    devices.countP (fun d => numaClass allowUnknown d = some (some k)) =
      devices.countP (fun d => d.numaNode = some k) := by
  apply List.countP_congr
  intro d _
  unfold numaClass
  cases d.numaNode with
  | none => cases allowUnknown <;> simp
  | some n => simp

theorem le_maxNUMAGroup_iff {allowUnknown : Bool} (hrequested : 1 ≤ requested) :
    requested ≤ maxNUMAGroup devices allowUnknown ↔
      ∃ v, requested ≤ devices.countP (fun d => numaClass allowUnknown d = some v) := by
  have hcounts := foldl_counts (countNUMA allowUnknown) (·.numaNode) ?_ ?_ devices ⟨∅, 0, 0⟩ _
    (counts_empty 0)
  · have hiff := hcounts.le_maximum_iff requested hrequested
    have hunknown := foldl_unknown allowUnknown devices ⟨∅, 0, 0⟩
    simp only [Nat.zero_add] at hiff hunknown
    rw [maxNUMAGroup_eq, le_max_iff, hiff, hunknown]
    constructor
    · rintro (⟨k, hk⟩ | hnone)
      · exact ⟨some k, by rwa [countP_numaClass]⟩
      · exact ⟨none, hnone⟩
    · rintro ⟨v, hv⟩
      cases v with
      | none => exact .inr hv
      | some k => exact .inl ⟨k, by rwa [countP_numaClass] at hv⟩
  · intro c a k hk
    simp only [countNUMA, hk]
  · intro c a hk
    simp only [countNUMA, hk]
    split_ifs <;> exact ⟨rfl, rfl⟩

theorem le_maxStringGroup_iff {allowUnknown : Bool} (hrequested : 1 ≤ requested) :
    requested ≤ maxStringGroup devices (·.pcieRoot) allowUnknown ↔
      ∃ v, requested ≤ devices.countP (fun d => rootClass allowUnknown d = some v) := by
  have hcounts := foldl_counts (fun (c : GroupCount String) device =>
      if device.pcieRoot = "" ∧ allowUnknown = false then c else c.count device.pcieRoot)
    (rootClass allowUnknown) ?_ ?_ devices ⟨∅, 0, 0⟩ _ (counts_empty 0)
  · have hiff := hcounts.le_maximum_iff requested hrequested
    simpa [maxStringGroup] using hiff
  · intro c a k hk
    unfold rootClass at hk
    split_ifs at hk ⊢
    rw [Option.some.inj hk]
  · intro c a hk
    unfold rootClass at hk
    split_ifs at hk ⊢
    exact ⟨rfl, rfl⟩

/-- The formatted keys tell NUMA nodes apart, and the devices without one from all others. -/
theorem sameClasses_numaKey (policy : AcceleratorPlacementPolicySpec)
    (devices : List AcceleratorDevice) :
    SameClasses (numaKey policy) (numaClass policy.allowUnknownTopology) devices := by
  intro a _ b _
  unfold numaClass
  constructor
  · rintro ⟨key, ha, hb⟩
    obtain ⟨hab, hallow⟩ := numaKey_eq ha hb
    refine ⟨a.numaNode, if_neg ?_, ?_⟩
    · rintro ⟨hnone, hfalse⟩
      rw [hallow hnone] at hfalse
      cases hfalse
    · rw [← hab]
      refine if_neg ?_
      rintro ⟨hnone, hfalse⟩
      rw [hallow hnone] at hfalse
      cases hfalse
  · rintro ⟨v, ha, hb⟩
    split_ifs at ha hb with hna hnb
    cases ha
    have hab : b.numaNode = a.numaNode := Option.some.inj hb
    unfold numaKey
    rw [hab]
    cases hn : a.numaNode with
    | none =>
        have hallow : policy.allowUnknownTopology = true := by
          cases hp : policy.allowUnknownTopology with
          | false => exact absurd ⟨hn, hp⟩ hna
          | true => rfl
        exact ⟨"~unknown", by simp [hallow]⟩
    | some n => exact ⟨_, rfl, rfl⟩

end modes

/-! ### The group modes -/

section selection

variable [Kube] {snapshot : Snapshot} {policy : AcceleratorPlacementPolicySpec}
  {devices : List AcceleratorDevice} {requested : ℕ} {groupKey : GroupKey}

/-- In the group modes the check for enough devices changes nothing. -/
theorem selectDeviceIDs_eq_group (hgroup : groupKeyOf policy = some groupKey)
    (hrequested : 1 ≤ requested) : selectDeviceIDs snapshot devices policy requested =
      selectDeviceGroup devices requested groupKey := by
  unfold selectDeviceIDs
  split_ifs with hguard
  · by_contra hne
    obtain ⟨key, hlarge⟩ := (selectDeviceGroup_ne_nil_iff hrequested).mp (Ne.symm hne)
    have hle : (groupOf groupKey key devices).length ≤ devices.length := List.length_filter_le _ _
    omega
  · unfold groupKeyOf at hgroup
    cases hm : policy.topologyMode with
    | singleNUMA =>
        rw [hm] at hgroup
        cases hgroup
        simp only [Int.toNat_natCast]
    | samePCIeRoot =>
        rw [hm] at hgroup
        cases hgroup
        simp only [Int.toNat_natCast]
    | fabricClique => rw [hm] at hgroup; cases hgroup
    | fabricConnected => rw [hm] at hgroup; cases hgroup
    | bestEffort => rw [hm] at hgroup; cases hgroup
    | other t => rw [hm] at hgroup; cases hgroup

variable (snapshot devices) in
theorem selectDeviceIDs_group_cases (hgroup : groupKeyOf policy = some groupKey)
    (hrequested : 1 ≤ requested) :
    (selectDeviceIDs snapshot devices policy requested = [] ∧
      ∀ key, (groupOf groupKey key devices).length < requested) ∨
    (∃ key, BestFit groupKey devices requested key ∧
      selectDeviceIDs snapshot devices policy requested =
        firstDeviceIDs (groupOf groupKey key devices) requested) := by
  rw [selectDeviceIDs_eq_group hgroup hrequested]
  exact selectDeviceGroupIn_cases (enumeratesGroups_usableKeys groupKey devices) hrequested

theorem selected_key (hnodup : (devices.map (·.id)).Nodup)
    (hgroup : groupKeyOf policy = some groupKey) (hrequested : 1 ≤ requested) :
    ∃ key, ∀ a ∈ devices, a.id ∈ selectDeviceIDs snapshot devices policy requested →
      groupKey a = (key, true) := by
  rcases selectDeviceIDs_group_cases snapshot devices hgroup hrequested with
    ⟨hnil, _⟩ | ⟨key, _, hselected⟩
  · refine ⟨"", fun a _ hid => ?_⟩
    rw [hnil] at hid
    cases hid
  · refine ⟨key, fun a ha hid => ?_⟩
    rw [hselected] at hid
    exact (mem_group_of_selected hnodup (List.Sublist.refl _) ha hid).2

theorem selectDeviceIDs_ne_nil_iff_class {V : Type} [DecidableEq V]
    {value : AcceleratorDevice → Option V} (hgroup : groupKeyOf policy = some groupKey)
    (hclasses : SameClasses groupKey value devices) (hrequested : 1 ≤ requested) :
    selectDeviceIDs snapshot devices policy requested ≠ [] ↔
      ∃ v, requested ≤ devices.countP (fun d => value d = some v) := by
  rw [selectDeviceIDs_eq_group hgroup hrequested, selectDeviceGroup_ne_nil_iff hrequested,
    hclasses.exists_large_iff hrequested]

end selection

/-- **Group selection is best fit**, in whatever order the map of groups is iterated; and in
single-NUMA mode it agrees with the group count of the scores. -/
theorem selectDeviceGroup_best_fit (devices : List AcceleratorDevice)
    (hnodup : (devices.map (·.id)).Nodup) (requested : ℕ) (hrequested : 1 ≤ requested) :
    (∀ (groupKey : GroupKey) (order : List String), EnumeratesGroups groupKey devices order →
      (selectDeviceGroupIn order devices requested groupKey = [] ↔
        ¬ ∃ key, requested ≤ (groupOf groupKey key devices).length) ∧
      (selectDeviceGroupIn order devices requested groupKey ≠ [] →
        ∃ key, BestFit groupKey devices requested key ∧
          selectDeviceGroupIn order devices requested groupKey =
            firstDeviceIDs (groupOf groupKey key devices) requested) ∧
      selectDeviceGroupIn order devices requested groupKey =
        selectDeviceGroup devices requested groupKey) ∧
    ∀ (_ : Kube) (snapshot : Snapshot) (policy : AcceleratorPlacementPolicySpec),
      policy.topologyMode = .singleNUMA →
        (selectDeviceIDs snapshot devices policy requested ≠ [] ↔
          requested ≤ maxNUMAGroup devices policy.allowUnknownTopology) ∧
        ∀ a ∈ devices, ∀ b ∈ devices, a.id ∈ selectDeviceIDs snapshot devices policy requested →
          b.id ∈ selectDeviceIDs snapshot devices policy requested → a.numaNode = b.numaNode := by
  refine ⟨?_, ?_⟩
  · intro groupKey order horder
    refine ⟨?_, ?_, selectDeviceGroupIn_eq horder.nodup horder.mem_iff requested⟩
    · rw [← selectDeviceGroupIn_ne_nil_iff horder hrequested, not_not]
    · intro hne
      rcases selectDeviceGroupIn_cases horder hrequested with ⟨hnil, _⟩ | hfit
      · exact absurd hnil hne
      · exact hfit
  · intro kube snapshot policy hmode
    have hgroup : groupKeyOf policy = some (numaKey policy) := by
      unfold groupKeyOf
      rw [hmode]
    refine ⟨?_, ?_⟩
    · rw [selectDeviceIDs_ne_nil_iff_class hgroup (sameClasses_numaKey policy devices) hrequested,
        le_maxNUMAGroup_iff hrequested]
    · intro a ha b hb hia hib
      obtain ⟨key, hkey⟩ := selected_key hnodup hgroup hrequested
      exact (numaKey_eq (hkey a ha hia) (hkey b hb hib)).1

/-- Three devices of one NUMA node and two of another. -/
def twoNodes : List AcceleratorDevice :=
  [("gpu0", 0), ("gpu1", 0), ("gpu2", 0), ("gpu3", 1), ("gpu4", 1)].map fun d =>
    { sampleDevice d.1 with numaNode := some d.2 }

theorem smaller_node_selected :
    let : Kube := sampleKube
    let groupKey := numaKey (samplePolicy .singleNUMA .failClosed)
    (∃ key, BestFit groupKey twoNodes 2 key ∧
      ["gpu3", "gpu4"] = firstDeviceIDs (groupOf groupKey key twoNodes) 2) ∧
    ∃ snapshot, build (sampleSpec twoNodes []) = .ok snapshot ∧
      selectDeviceIDs snapshot twoNodes (samplePolicy .singleNUMA .failClosed) (2 : ℕ) ≠ [] := by
  intro kube groupKey
  obtain ⟨hgroups, hnuma⟩ := selectDeviceGroup_best_fit twoNodes (by decide) 2 (by decide)
  obtain ⟨_, hfit, _⟩ := hgroups groupKey _ (enumeratesGroups_usableKeys groupKey twoNodes)
  have hselected : selectDeviceGroupIn (usableKeys groupKey twoNodes) twoNodes 2 groupKey =
      ["gpu3", "gpu4"] := by decide +kernel
  rw [hselected] at hfit
  refine ⟨hfit (by decide), _, rfl, ?_⟩
  exact (hnuma kube _ (samplePolicy .singleNUMA .failClosed) rfl).1.mpr (by decide +kernel)

/-! ### One PCIe root -/

/-- What same-PCIe-root mode is for: the selected devices have one root, and something is selected
exactly if the group count of the scores is large enough. -/
structure RootsAgree [Kube] (snapshot : Snapshot) (devices : List AcceleratorDevice)
    (policy : AcceleratorPlacementPolicySpec) (requested : ℕ) : Prop where
  one_root : ∀ a ∈ devices, ∀ b ∈ devices,
    a.id ∈ selectDeviceIDs snapshot devices policy requested →
      b.id ∈ selectDeviceIDs snapshot devices policy requested →
        a.pcieRoot = b.pcieRoot ∧ (a.pcieRoot = "" → policy.allowUnknownTopology = true)
  ne_nil_iff : selectDeviceIDs snapshot devices policy requested ≠ [] ↔
    requested ≤ maxStringGroup devices (·.pcieRoot) policy.allowUnknownTopology

/-- The devices whose root is empty or reads `~unknown`. -/
def unknownRoots (devices : List AcceleratorDevice) : List AcceleratorDevice :=
  devices.filter (fun d => d.pcieRoot = "" ∨ d.pcieRoot = "~unknown")

/-- The devices with the root. -/
def withRoot (root : String) (devices : List AcceleratorDevice) : List AcceleratorDevice :=
  devices.filter (fun d => d.pcieRoot = root)

/-- Devices without a root may be used.  Together with those whose root reads `~unknown` they are
enough; no other root that has enough devices has fewer, or as many and a smaller text; and the
first of them, as many as requested, are devices of both kinds. -/
structure Blends (policy : AcceleratorPlacementPolicySpec) (devices : List AcceleratorDevice)
    (requested : ℕ) : Prop where
  allowed : policy.allowUnknownTopology = true
  large : requested ≤ (unknownRoots devices).length
  first : ∀ root, root ≠ "" → root ≠ "~unknown" → requested ≤ (withRoot root devices).length →
    (unknownRoots devices).length < (withRoot root devices).length ∨
    ((unknownRoots devices).length = (withRoot root devices).length ∧ "~unknown" ≤ root)
  blank : ∃ d ∈ (unknownRoots devices).take requested, d.pcieRoot = ""
  named : ∃ d ∈ (unknownRoots devices).take requested, d.pcieRoot = "~unknown"

section roots

variable {policy : AcceleratorPlacementPolicySpec} {devices : List AcceleratorDevice}
  {requested : ℕ}

theorem groupOf_unknown (hallow : policy.allowUnknownTopology = true) :
    groupOf (pcieRootKey policy) "~unknown" devices = unknownRoots devices := by
  unfold groupOf unknownRoots pcieRootKey
  apply List.filter_congr
  intro d _
  by_cases hblank : d.pcieRoot = ""
  · simp [hblank, hallow]
  · simp [hblank]

theorem groupOf_root {root : String} (hroot : root ≠ "~unknown") (hblank : root ≠ "") :
    groupOf (pcieRootKey policy) root devices = withRoot root devices := by
  unfold groupOf withRoot pcieRootKey
  apply List.filter_congr
  intro d _
  by_cases hd : d.pcieRoot = ""
  · simp [hd, hroot.symm, hblank.symm]
  · simp [hd]

theorem groupOf_blank : groupOf (pcieRootKey policy) "" devices = [] := by
  unfold groupOf pcieRootKey
  rw [List.filter_eq_nil_iff]
  intro d _
  by_cases hd : d.pcieRoot = ""
  · simp [hd]
  · simp [hd]

/-- The group of the devices without a root fits best, by roots. -/
theorem bestFit_unknown_iff (hallow : policy.allowUnknownTopology = true)
    (hrequested : 1 ≤ requested) : BestFit (pcieRootKey policy) devices requested "~unknown" ↔
      requested ≤ (unknownRoots devices).length ∧
        ∀ root, root ≠ "" → root ≠ "~unknown" → requested ≤ (withRoot root devices).length →
          (unknownRoots devices).length < (withRoot root devices).length ∨
          ((unknownRoots devices).length = (withRoot root devices).length ∧
            "~unknown" ≤ root) := by
  constructor
  · rintro ⟨hlarge, hfirst⟩
    rw [groupOf_unknown hallow] at hlarge hfirst
    refine ⟨hlarge, fun root hblank hroot hlarge' => ?_⟩
    have hother := hfirst root
    rw [groupOf_root hroot hblank] at hother
    exact hother hlarge'
  · rintro ⟨hlarge, hfirst⟩
    refine ⟨by rwa [groupOf_unknown hallow], fun other hother => ?_⟩
    rw [groupOf_unknown hallow]
    by_cases hroot : other = "~unknown"
    · rw [hroot, groupOf_unknown hallow]
      exact .inr ⟨rfl, le_refl _⟩
    by_cases hblank : other = ""
    · rw [hblank, groupOf_blank, List.length_nil] at hother
      omega
    · rw [groupOf_root hroot hblank] at hother ⊢
      exact hfirst other hblank hroot hother

theorem BestFit.unique {groupKey : GroupKey} {key key' : String}
    (h : BestFit groupKey devices requested key) (h' : BestFit groupKey devices requested key') :
    key = key' := by
  rcases h.first key' h'.large with hlt | ⟨heq, hle⟩
  · rcases h'.first key h.large with hlt' | ⟨heq', _⟩ <;> omega
  · rcases h'.first key h.large with hlt' | ⟨_, hle'⟩
    · omega
    · exact le_antisymm hle hle'

/-- A class of devices with one root lies in one group. -/
theorem exists_large_of_class {root : String} (hrequested : 1 ≤ requested)
    (h : requested ≤ devices.countP
      (fun d => rootClass policy.allowUnknownTopology d = some root)) :
    ∃ key, requested ≤ (groupOf (pcieRootKey policy) key devices).length := by
  obtain ⟨d, hd, hclass⟩ := List.countP_pos_iff.mp (hrequested.trans h)
  refine ⟨(pcieRootKey policy d).1, h.trans ?_⟩
  rw [groupOf, ← List.countP_eq_length_filter]
  refine List.countP_mono_left fun e _ he => ?_
  have hclass := of_decide_eq_true hclass
  have he := of_decide_eq_true he
  unfold rootClass at hclass he
  split_ifs at hclass he with hd he'
  have heq : e.pcieRoot = d.pcieRoot := Option.some.inj (he.trans hclass.symm)
  rw [decide_eq_true_iff]
  unfold pcieRootKey
  rw [heq]
  split_ifs with hblank
  · simpa [hblank] using hd
  · rfl

theorem groupKeyOf_root (hmode : policy.topologyMode = .samePCIeRoot) :
    groupKeyOf policy = some (pcieRootKey policy) := by
  unfold groupKeyOf
  rw [hmode]

theorem mem_take_of_selected (hnodup : (devices.map (·.id)).Nodup) {group : List AcceleratorDevice}
    (hsub : group.Sublist devices) {a : AcceleratorDevice} (ha : a ∈ devices)
    (hid : a.id ∈ firstDeviceIDs group requested) : a ∈ group.take requested := by
  obtain ⟨d, hd, he⟩ := List.mem_map.mp hid
  have hda : d = a :=
    List.inj_on_of_nodup_map hnodup (hsub.subset (List.mem_of_mem_take hd)) ha he
  rwa [hda] at hd

variable [Kube] {snapshot : Snapshot}

theorem one_root_of_not_blends (hnodup : (devices.map (·.id)).Nodup)
    (hmode : policy.topologyMode = .samePCIeRoot) (hrequested : 1 ≤ requested)
    (h : ¬ Blends policy devices requested) {a b : AcceleratorDevice} (ha : a ∈ devices)
    (hb : b ∈ devices) (hia : a.id ∈ selectDeviceIDs snapshot devices policy requested)
    (hib : b.id ∈ selectDeviceIDs snapshot devices policy requested) :
    a.pcieRoot = b.pcieRoot ∧ (a.pcieRoot = "" → policy.allowUnknownTopology = true) := by
  rcases selectDeviceIDs_group_cases snapshot devices (groupKeyOf_root hmode) hrequested with
    ⟨hnil, _⟩ | ⟨key, hfit, hselected⟩
  · rw [hnil] at hia
    cases hia
  rw [hselected] at hia hib
  have hsub : (groupOf (pcieRootKey policy) key devices).Sublist devices := List.filter_sublist
  have hkey : ∀ d ∈ (groupOf (pcieRootKey policy) key devices).take requested,
      pcieRootKey policy d = (key, true) := fun d hd =>
    of_decide_eq_true (List.mem_filter.mp (List.mem_of_mem_take hd)).2
  -- devices of both kinds would make the selection a blend
  have hapart : ∀ c ∈ (groupOf (pcieRootKey policy) key devices).take requested,
      ∀ d ∈ (groupOf (pcieRootKey policy) key devices).take requested,
        policy.allowUnknownTopology = true → c.pcieRoot = "" → d.pcieRoot ≠ "~unknown" := by
    intro c hc d hd hallow hblank hnamed
    have hunknown : key = "~unknown" := by
      have hc' := hkey c hc
      rw [pcieRootKey, if_pos hblank] at hc'
      exact (congrArg Prod.fst hc').symm
    subst hunknown
    obtain ⟨hlarge, hfirst⟩ := (bestFit_unknown_iff hallow hrequested).mp hfit
    rw [groupOf_unknown hallow] at hc hd
    exact h ⟨hallow, hlarge, hfirst, ⟨c, hc, hblank⟩, ⟨d, hd, hnamed⟩⟩
  have hta := mem_take_of_selected hnodup hsub ha hia
  have htb := mem_take_of_selected hnodup hsub hb hib
  exact pcieRootKey_eq (hkey a hta) (hkey b htb) (hapart a hta b htb) (hapart b htb a hta)

theorem le_maxStringGroup_of_one_root (hmode : policy.topologyMode = .samePCIeRoot)
    (hrequested : 1 ≤ requested)
    (h : ∀ a ∈ devices, ∀ b ∈ devices,
      a.id ∈ selectDeviceIDs snapshot devices policy requested →
        b.id ∈ selectDeviceIDs snapshot devices policy requested →
          a.pcieRoot = b.pcieRoot ∧ (a.pcieRoot = "" → policy.allowUnknownTopology = true))
    (hne : selectDeviceIDs snapshot devices policy requested ≠ []) :
    requested ≤ maxStringGroup devices (·.pcieRoot) policy.allowUnknownTopology := by
  rcases selectDeviceIDs_group_cases snapshot devices (groupKeyOf_root hmode) hrequested with
    ⟨hnil, _⟩ | ⟨key, hfit, hselected⟩
  · exact absurd hnil hne
  rw [le_maxStringGroup_iff hrequested]
  have hsub : ((groupOf (pcieRootKey policy) key devices).take requested).Sublist devices :=
    (List.take_sublist _ _).trans List.filter_sublist
  have hlength : ((groupOf (pcieRootKey policy) key devices).take requested).length = requested :=
    List.length_take_of_le hfit.large
  generalize hgroup : (groupOf (pcieRootKey policy) key devices).take requested = group at *
  have hid : ∀ d ∈ group, d.id ∈ selectDeviceIDs snapshot devices policy requested := by
    intro d hd
    rw [hselected, firstDeviceIDs, hgroup]
    exact List.mem_map.mpr ⟨d, hd, rfl⟩
  obtain ⟨first, hfirst⟩ := List.exists_mem_of_length_pos (hlength ▸ hrequested)
  refine ⟨first.pcieRoot, ?_⟩
  calc requested = group.countP
        (fun d => rootClass policy.allowUnknownTopology d = some first.pcieRoot) := by
        rw [List.countP_eq_length.mpr, hlength]
        intro d hd
        obtain ⟨hroot, hallow⟩ := h d (hsub.subset hd) first (hsub.subset hfirst) (hid d hd)
          (hid first hfirst)
        rw [decide_eq_true_iff, rootClass, if_neg, hroot]
        rintro ⟨hblank, hfalse⟩
        rw [hallow hblank] at hfalse
        cases hfalse
    _ ≤ _ := hsub.countP_le

end roots

/-- **Same-PCIe-root mode means one root**, and agrees with the group count of the scores, if and
only if the selection does not blend devices without a root with devices whose root reads
`~unknown`. -/
theorem samePCIeRoot_agrees_iff [Kube] (snapshot : Snapshot) (devices : List AcceleratorDevice)
    (hnodup : (devices.map (·.id)).Nodup) (policy : AcceleratorPlacementPolicySpec)
    (hmode : policy.topologyMode = .samePCIeRoot) (requested : ℕ) (hrequested : 1 ≤ requested) :
    RootsAgree snapshot devices policy requested ↔ ¬ Blends policy devices requested := by
  have hgroup := groupKeyOf_root hmode
  constructor
  · intro hagree h
    -- the group fits best, so the selection is taken from it and has devices of both kinds
    have hunknown := (bestFit_unknown_iff h.allowed hrequested).mpr ⟨h.large, h.first⟩
    rcases selectDeviceIDs_group_cases snapshot devices hgroup hrequested with
      ⟨_, hsmall⟩ | ⟨key, hfit, hselected⟩
    · have hlt := hsmall "~unknown"
      have hle := hunknown.large
      omega
    rw [hfit.unique hunknown, groupOf_unknown h.allowed] at hselected
    obtain ⟨a, ha, hblank⟩ := h.blank
    obtain ⟨b, hb, hnamed⟩ := h.named
    have hmem : ∀ d ∈ (unknownRoots devices).take requested, d ∈ devices := fun d hd =>
      (List.mem_filter.mp (List.mem_of_mem_take hd)).1
    have hid : ∀ d ∈ (unknownRoots devices).take requested,
        d.id ∈ selectDeviceIDs snapshot devices policy requested := by
      intro d hd
      rw [hselected]
      exact List.mem_map.mpr ⟨d, hd, rfl⟩
    have hroot := (hagree.one_root a (hmem a ha) b (hmem b hb) (hid a ha) (hid b hb)).1
    rw [hblank, hnamed] at hroot
    exact absurd hroot (by decide)
  · intro h
    have hone : ∀ a ∈ devices, ∀ b ∈ devices,
        a.id ∈ selectDeviceIDs snapshot devices policy requested →
          b.id ∈ selectDeviceIDs snapshot devices policy requested →
            a.pcieRoot = b.pcieRoot ∧ (a.pcieRoot = "" → policy.allowUnknownTopology = true) :=
      fun a ha b hb hia hib => one_root_of_not_blends hnodup hmode hrequested h ha hb hia hib
    refine ⟨hone, le_maxStringGroup_of_one_root hmode hrequested hone, fun hle => ?_⟩
    obtain ⟨root, hclass⟩ := (le_maxStringGroup_iff hrequested).mp hle
    rw [selectDeviceIDs_eq_group hgroup hrequested, selectDeviceGroup_ne_nil_iff hrequested]
    exact exists_large_of_class hrequested hclass

/-- Devices with the given IDs and PCIe roots. -/
def rootedDevices (roots : List (String × String)) : List AcceleratorDevice :=
  roots.map fun d => { sampleDevice d.1 with pcieRoot := d.2 }

/-- A device without a root and one whose root reads `~unknown` would fit as well as the two
devices of a real root, which comes first. -/
theorem samePCIeRoot_agrees_beside_real_root :
    let : Kube := sampleKube
    let devices := rootedDevices
      [("gpu0", ""), ("gpu1", "~unknown"), ("gpu2", "0000:17"), ("gpu3", "0000:17")]
    ∃ snapshot, build (sampleSpec devices []) = .ok snapshot ∧
      RootsAgree snapshot devices unknownRootPolicy 2 := by
  intro kube devices
  refine ⟨_, rfl, (samePCIeRoot_agrees_iff _ devices (by decide +kernel) unknownRootPolicy rfl 2
    (by decide)).mpr fun h => ?_⟩
  have hreal := h.first "0000:17" (by decide) (by decide) (by decide +kernel)
  revert hreal
  decide +kernel

/-- A device without a root and one whose root reads `~unknown`. -/
def blankAndNamed : List AcceleratorDevice := rootedDevices [("gpu0", ""), ("gpu1", "~unknown")]

/-- They are taken for one group. -/
theorem blankRoot_mixed :
    ¬ ∀ (_ : Kube) (snapshot : Snapshot) (devices : List AcceleratorDevice)
      (policy : AcceleratorPlacementPolicySpec) (requested : ℕ), (devices.map (·.id)).Nodup →
        policy.topologyMode = .samePCIeRoot → 1 ≤ requested →
          RootsAgree snapshot devices policy requested := by
  intro h
  let : Kube := sampleKube
  obtain ⟨snapshot, _⟩ : ∃ snapshot, build (sampleSpec blankAndNamed []) = .ok snapshot := ⟨_, rfl⟩
  have hagree := h sampleKube snapshot blankAndNamed unknownRootPolicy 2 (by decide) rfl (by decide)
  have hselected : selectDeviceIDs snapshot blankAndNamed unknownRootPolicy (2 : ℕ) =
      ["gpu0", "gpu1"] := by
    rw [selectDeviceIDs_eq_group (groupKeyOf_root rfl) (by decide)]
    decide +kernel
  have hcount := hagree.ne_nil_iff.mp (by rw [hselected]; decide)
  exact absurd hcount (by decide +kernel)

end AcceleratorFabric.TopologyFit
