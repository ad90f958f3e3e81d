import AcceleratorFabric.GoText

/-! # Preferred allocations of the device plugin

The kubelet asks which of the available devices a container should get, some of which it must get.
`preferredDevices` takes the required ones in order and fills up with the smallest others.  Its
guards compare the size with the length of the list of available devices, so an ID that occurs
twice counts twice.

`preferredDevices_exact_iff`: when the answer meets its request. -/

namespace AcceleratorFabric.DevicePlugin

open GoText

structure ContainerPreferredAllocationRequest where
  availableDeviceIDs : List String
  mustIncludeDeviceIDs : List String
  allocationSize : ℤ
deriving DecidableEq, Repr

inductive AllocationError where
  | sizeExceeds (size : ℤ) (available : ℕ)
  | unavailable (id : String)
  | exceeded
deriving DecidableEq, Repr

def AllocationError.message [IsPrint] : AllocationError → String
  | sizeExceeds size available => "allocation size " ++ formatInt size ++ " exceeds " ++
      formatInt available ++ " available devices"
  | unavailable id => "required device " ++ quote id ++ " is not available"
  | exceeded => "required devices exceed allocation size"

/-- `sort.Strings`. -/
def sortStrings (ids : List String) : List String := ids.insertionSort (· ≤ ·)

/-! ### Selected devices -/

/-- The selected IDs in order and as a set. -/
structure Selection where
  selected : List String
  selectedSet : Finset String
  nodup : selected.Nodup
  mem_selectedSet : ∀ id, id ∈ selectedSet ↔ id ∈ selected

namespace Selection

def empty : Selection := ⟨[], ∅, List.nodup_nil, by simp⟩

/-- An ID that was not selected yet. -/
def add (s : Selection) (id : String) (h : id ∉ s.selectedSet) : Selection where
  selected := s.selected ++ [id]
  selectedSet := Insert.insert id s.selectedSet
  nodup := by
    rw [s.mem_selectedSet] at h
    exact List.nodup_append.mpr ⟨s.nodup, List.nodup_singleton id, fun a ha b hb hab =>
      h (by rw [← List.mem_singleton.mp hb, ← hab]; exact ha)⟩
  mem_selectedSet a := by
    rw [Finset.mem_insert, s.mem_selectedSet, List.mem_append, List.mem_singleton, or_comm]

/-- An ID, unless it was selected already. -/
def insert (s : Selection) (id : String) : Selection :=
  if h : id ∈ s.selectedSet then s else s.add id h

end Selection

/-- The loop over the required devices. -/
def includeAll (available : Finset String) : Selection → List String →
    Except AllocationError Selection
  | s, [] => .ok s
  | s, id :: rest =>
      if id ∉ available then .error (.unavailable id)
      else includeAll available (s.insert id) rest

/-- The loop over the available devices. -/
def fill (size : ℤ) : Selection → List String → Selection
  | s, [] => s
  | s, id :: rest => if (s.selected.length : ℤ) = size then s else fill size (s.insert id) rest

def preferredDevices (request : ContainerPreferredAllocationRequest) :
    Except AllocationError (List String) :=
  let size := request.allocationSize
  if size < 0 ∨ size > request.availableDeviceIDs.length then
    .error (.sizeExceeds size request.availableDeviceIDs.length)
  else
    match includeAll request.availableDeviceIDs.toFinset .empty
        (sortStrings request.mustIncludeDeviceIDs) with
    | .error e => .error e
    | .ok s =>
        if (s.selected.length : ℤ) > size then .error .exceeded
        else .ok (fill size s (sortStrings request.availableDeviceIDs)).selected

/-- The status with which the plugin refuses a request: `InvalidArgument` and a text. -/
structure InvalidArgument where
  message : String
deriving DecidableEq, Repr

/-- `Plugin.GetPreferredAllocation`: the responses so far are returned only if no request fails. -/
def getPreferredAllocation [IsPrint] : List (List String) →
    List ContainerPreferredAllocationRequest → Except InvalidArgument (List (List String))
  | responses, [] => .ok responses
  | responses, request :: requests =>
      match preferredDevices request with
      | .error e => .error ⟨e.message⟩
      | .ok selected => getPreferredAllocation (responses ++ [selected]) requests

/-! ### The loops -/

section loops

variable {s : Selection}

theorem mem_insert {id a : String} :
    a ∈ (s.insert id).selected ↔ a ∈ s.selected ∨ a = id := by
  unfold Selection.insert
  split_ifs with h
  · constructor
    · exact .inl
    · rintro (ha | rfl)
      · exact ha
      · exact (s.mem_selectedSet _).mp h
  · show a ∈ s.selected ++ [id] ↔ _
    rw [List.mem_append, List.mem_singleton]

theorem length_insert_le (s : Selection) (id : String) :
    (s.insert id).selected.length ≤ s.selected.length + 1 := by
  unfold Selection.insert
  split_ifs
  · omega
  · simp [Selection.add]

/-- The number of selected IDs is the number of distinct ones. -/
theorem length_eq_card {ids : List String} (h : ∀ a, a ∈ s.selected ↔ a ∈ ids) :
    s.selected.length = ids.toFinset.card := by
  have hset : s.selected.toFinset = ids.toFinset := by
    ext a
    rw [List.mem_toFinset, List.mem_toFinset, h]
  rw [← hset, List.toFinset_card_of_nodup s.nodup]

theorem includeAll_eq_ok_iff {available : Finset String} {s' : Selection} :
    ∀ {rest : List String} {s : Selection}, includeAll available s rest = .ok s' ↔
      (∀ id ∈ rest, id ∈ available) ∧ s' = rest.foldl Selection.insert s
  | [], s => by
      simp only [includeAll, List.foldl_nil, Except.ok.injEq]
      simp [eq_comm]
  | id :: rest, s => by
      simp only [includeAll, List.forall_mem_cons, List.foldl_cons]
      by_cases hid : id ∈ available
      · rw [if_neg (not_not.mpr hid), includeAll_eq_ok_iff]
        simp [hid]
      · rw [if_pos hid]
        simp [hid]

theorem mem_foldl_insert {a : String} : ∀ {rest : List String} {s : Selection},
    a ∈ (rest.foldl Selection.insert s).selected ↔ a ∈ s.selected ∨ a ∈ rest
  | [], s => by simp
  | id :: rest, s => by
      rw [List.foldl_cons, mem_foldl_insert, mem_insert, List.mem_cons, or_assoc]

/-- What the second loop does to a selection that is not too large. -/
structure Filled (size : ℤ) (s : Selection) (rest : List String) (s' : Selection) : Prop where
  kept : ∀ id ∈ s.selected, id ∈ s'.selected
  available : ∀ id ∈ s'.selected, id ∈ s.selected ∨ id ∈ rest
  length_le : (s'.selected.length : ℤ) ≤ size
  full : (s'.selected.length : ℤ) = size ∨ ∀ id ∈ rest, id ∈ s'.selected
  smallest : ∀ id ∈ s'.selected, id ∉ s.selected → ∀ other ∈ rest, other ∉ s'.selected → id < other

theorem filled_fill {size : ℤ} : ∀ {rest : List String} {s : Selection},
    rest.Pairwise (· ≤ ·) → (s.selected.length : ℤ) ≤ size → Filled size s rest (fill size s rest)
  | [], s, _, hle => ⟨fun _ h => h, fun _ => .inl, hle, .inr (by simp), by simp⟩
  | id :: rest, s, hsorted, hle => by
      obtain ⟨hid, hrest⟩ := List.pairwise_cons.mp hsorted
      unfold fill
      split_ifs with hsize
      · exact ⟨fun _ h => h, fun _ => .inl, hle, .inl hsize, fun a ha hnew => absurd ha hnew⟩
      · have hlength := length_insert_le s id
        have hnext : ((s.insert id).selected.length : ℤ) ≤ size := by omega
        have ih := filled_fill hrest hnext
        have hmem : id ∈ (fill size (s.insert id) rest).selected :=
          ih.kept id (mem_insert.mpr (.inr rfl))
        refine ⟨fun a ha => ih.kept a (mem_insert.mpr (.inl ha)), fun a ha => ?_, ih.length_le,
          ?_, fun a ha hnew other hother hout => ?_⟩
        · rw [List.mem_cons, ← or_assoc, ← mem_insert]
          exact ih.available a ha
        · refine ih.full.imp_right fun hall a ha => ?_
          rcases List.mem_cons.mp ha with rfl | ha
          · exact hmem
          · exact hall a ha
        · replace hother : other ∈ rest := (List.mem_cons.mp hother).resolve_left
            fun heq => hout (heq ▸ hmem)
          -- the devices that the loop adds come in order
          by_cases heq : a = id
          · subst heq
            exact lt_of_le_of_ne (hid other hother) fun h => hout (h ▸ hmem)
          · refine ih.smallest a ha (fun hin => ?_) other hother hout
            rcases mem_insert.mp hin with hin | hin
            · exact hnew hin
            · exact heq hin

end loops

/-! ### Answers -/

/-- What the kubelet may ask for. -/
structure Servable (request : ContainerPreferredAllocationRequest) : Prop where
  nonneg : 0 ≤ request.allocationSize
  size_le : request.allocationSize ≤ request.availableDeviceIDs.toFinset.card
  available : ∀ id ∈ request.mustIncludeDeviceIDs, id ∈ request.availableDeviceIDs
  card_le : (request.mustIncludeDeviceIDs.toFinset.card : ℤ) ≤ request.allocationSize

/-- The IDs are as many as asked for, distinct and available, with all required ones, and the
others are the smallest. -/
structure MeetsRequest (request : ContainerPreferredAllocationRequest) (ids : List String) :
    Prop where
  length_eq : (ids.length : ℤ) = request.allocationSize
  nodup : ids.Nodup
  available : ∀ id ∈ ids, id ∈ request.availableDeviceIDs
  included : ∀ id ∈ request.mustIncludeDeviceIDs, id ∈ ids
  smallest : ∀ id ∈ ids, id ∉ request.mustIncludeDeviceIDs →
    ∀ other ∈ request.availableDeviceIDs, other ∉ ids → id < other

/-- `preferredDevices` is right about the request: it succeeds exactly if it can be served, and its
answer meets it. -/
structure AnswersExactly (request : ContainerPreferredAllocationRequest) : Prop where
  succeeds_iff : (∃ ids, preferredDevices request = .ok ids) ↔ Servable request
  meets : ∀ ids, preferredDevices request = .ok ids → MeetsRequest request ids

/-- The size exceeds the number of available devices, and repeated IDs hide it. -/
def RepeatsHideExcess (request : ContainerPreferredAllocationRequest) : Prop :=
  request.availableDeviceIDs.toFinset.card < request.allocationSize ∧
    request.allocationSize ≤ request.availableDeviceIDs.length ∧
    ∀ id ∈ request.mustIncludeDeviceIDs, id ∈ request.availableDeviceIDs

section answers

variable {request : ContainerPreferredAllocationRequest}

/-- The required devices as the first loop selects them. -/
def required (request : ContainerPreferredAllocationRequest) : Selection :=
  (sortStrings request.mustIncludeDeviceIDs).foldl Selection.insert .empty

theorem mem_required {a : String} :
    a ∈ (required request).selected ↔ a ∈ request.mustIncludeDeviceIDs := by
  rw [required, mem_foldl_insert, sortStrings, List.mem_insertionSort]
  simp [Selection.empty]

/-- When `preferredDevices` succeeds, and with what. -/
theorem preferredDevices_eq_ok_iff {ids : List String} :
    preferredDevices request = .ok ids ↔
      (0 ≤ request.allocationSize ∧
        request.allocationSize ≤ request.availableDeviceIDs.length ∧
        (∀ id ∈ request.mustIncludeDeviceIDs, id ∈ request.availableDeviceIDs) ∧
        (request.mustIncludeDeviceIDs.toFinset.card : ℤ) ≤ request.allocationSize) ∧
      ids = (fill request.allocationSize (required request)
        (sortStrings request.availableDeviceIDs)).selected := by
  have hcard := length_eq_card (s := required request) fun _ => mem_required
  unfold preferredDevices
  simp only
  by_cases hsize : request.allocationSize < 0 ∨
      request.allocationSize > request.availableDeviceIDs.length
  · rw [if_pos hsize]
    refine iff_of_false (fun h => by cases h) ?_
    rintro ⟨⟨h0, hle, _⟩, _⟩
    omega
  · rw [if_neg hsize]
    by_cases hmust : ∀ id ∈ request.mustIncludeDeviceIDs, id ∈ request.availableDeviceIDs
    · have hok : includeAll request.availableDeviceIDs.toFinset .empty
          (sortStrings request.mustIncludeDeviceIDs) = .ok (required request) :=
        includeAll_eq_ok_iff.mpr ⟨fun id hid => List.mem_toFinset.mpr
          (hmust id ((List.mem_insertionSort _).mp hid)), rfl⟩
      rw [hok]
      simp only
      split_ifs with hexceed
      · refine iff_of_false (fun h => by cases h) ?_
        rintro ⟨⟨_, _, _, hle⟩, _⟩
        omega
      · rw [Except.ok.injEq, eq_comm]
        exact ⟨fun h => ⟨⟨by omega, by omega, hmust, by omega⟩, h⟩, fun h => h.2⟩
    · refine iff_of_false (fun h => ?_) fun h => hmust h.1.2.2.1
      split at h
      · cases h
      · rename_i s hs
        refine hmust fun id hid => List.mem_toFinset.mp ((includeAll_eq_ok_iff.mp hs).1 id ?_)
        exact (List.mem_insertionSort _).mpr hid

/-- The answer to a request that can be served. -/
theorem meetsRequest_of_servable (h : Servable request) {ids : List String}
    (hids : preferredDevices request = .ok ids) : MeetsRequest request ids := by
  obtain ⟨⟨_, _, hmust, hle⟩, rfl⟩ := preferredDevices_eq_ok_iff.mp hids
  have hcard := length_eq_card (s := required request) fun _ => mem_required
  have hsorted : (sortStrings request.availableDeviceIDs).Pairwise (· ≤ ·) :=
    List.pairwise_insertionSort _ _
  have hrequired : ((required request).selected.length : ℤ) ≤ request.allocationSize := by omega
  have hfilled := filled_fill hsorted hrequired
  have havailable : ∀ id ∈ (fill request.allocationSize (required request)
      (sortStrings request.availableDeviceIDs)).selected, id ∈ request.availableDeviceIDs := by
    intro id hid
    rcases hfilled.available id hid with hid | hid
    · exact hmust id (mem_required.mp hid)
    · exact (List.mem_insertionSort _).mp hid
  refine ⟨?_, Selection.nodup _, havailable,
    fun id hid => hfilled.kept id (mem_required.mpr hid), ?_⟩
  · rcases hfilled.full with hfull | hall
    · exact hfull
    · -- all available devices are selected, and there are enough of them
      have hlength := length_eq_card fun a => ⟨havailable a, fun ha =>
        hall a ((List.mem_insertionSort _).mpr ha)⟩
      have hsize := h.size_le
      have hlast := hfilled.length_le
      omega
  · intro id hid hnew other hother hout
    exact hfilled.smallest id hid (fun hin => hnew (mem_required.mp hin)) other
      ((List.mem_insertionSort _).mpr hother) hout

theorem answersExactly_of_not_hidden (hhide : ¬ RepeatsHideExcess request) :
    AnswersExactly request := by
  have hcard := List.toFinset_card_le request.availableDeviceIDs
  have hiff : (∃ ids, preferredDevices request = .ok ids) ↔ Servable request := by
    constructor
    · rintro ⟨ids, hids⟩
      obtain ⟨⟨h0, hle, hmust, hfew⟩, _⟩ := preferredDevices_eq_ok_iff.mp hids
      refine ⟨h0, ?_, hmust, hfew⟩
      by_contra hexcess
      exact hhide ⟨by omega, hle, hmust⟩
    · intro h
      have hsize := h.size_le
      exact ⟨_, preferredDevices_eq_ok_iff.mpr
        ⟨⟨h.nonneg, by omega, h.available, h.card_le⟩, rfl⟩⟩
  exact ⟨hiff, fun ids hids => meetsRequest_of_servable (hiff.mp ⟨ids, hids⟩) hids⟩

end answers

/-- **`preferredDevices` is right about a request** if and only if repetitions among the available
devices do not hide that the size exceeds their number. -/
theorem preferredDevices_exact_iff (request : ContainerPreferredAllocationRequest) :
    AnswersExactly request ↔ ¬ RepeatsHideExcess request := by
  refine ⟨?_, answersExactly_of_not_hidden⟩
  rintro h ⟨hexcess, hle, hmust⟩
  -- the required devices are fewer than the size, so nothing stops the loops
  have hsub : request.mustIncludeDeviceIDs.toFinset ⊆ request.availableDeviceIDs.toFinset :=
    fun id hid => List.mem_toFinset.mpr (hmust id (List.mem_toFinset.mp hid))
  have hfew := Finset.card_le_card hsub
  have hservable := h.succeeds_iff.mp ⟨_, preferredDevices_eq_ok_iff.mpr
    ⟨⟨by omega, hle, hmust, by omega⟩, rfl⟩⟩
  have hsize := hservable.size_le
  omega

/-- Two devices are asked for, and one is returned. -/
theorem repeated_device_counted_twice :
    preferredDevices ⟨["gpu0", "gpu0"], [], 2⟩ = .ok ["gpu0"] ∧
      ¬ ∀ request, AnswersExactly request := by
  have hids : preferredDevices ⟨["gpu0", "gpu0"], [], 2⟩ = .ok ["gpu0"] := by decide +kernel
  refine ⟨hids, fun h => ?_⟩
  have hlength := ((h _).meets _ hids).length_eq
  exact absurd hlength (by decide)

/-! ### Whole requests -/

theorem getPreferredAllocation_eq_ok_iff [IsPrint] {responses : List (List String)} :
    ∀ {requests : List ContainerPreferredAllocationRequest} {before : List (List String)},
      getPreferredAllocation before requests = .ok responses ↔
        ∃ answers, List.Forall₂ (fun request ids => preferredDevices request = .ok ids)
          requests answers ∧ responses = before ++ answers
  | [], before => by
      simp only [getPreferredAllocation, List.forall₂_nil_left_iff, Except.ok.injEq]
      simp [eq_comm]
  | request :: requests, before => by
      unfold getPreferredAllocation
      cases hids : preferredDevices request with
      | error e =>
          refine iff_of_false (fun h => by cases h) ?_
          rintro ⟨answers, hanswers, _⟩
          cases hanswers with
          | cons hfirst _ => rw [hids] at hfirst; cases hfirst
      | ok ids =>
          rw [getPreferredAllocation_eq_ok_iff]
          constructor
          · rintro ⟨answers, hanswers, rfl⟩
            exact ⟨ids :: answers, .cons hids hanswers, by simp⟩
          · rintro ⟨answers, hanswers, rfl⟩
            cases hanswers with
            | cons hfirst hrest =>
                rw [hids] at hfirst
                cases hfirst
                exact ⟨_, hrest, by simp⟩

end AcceleratorFabric.DevicePlugin
