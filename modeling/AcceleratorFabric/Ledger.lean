import AcceleratorFabric.GoMap
import AcceleratorFabric.GoText
import AcceleratorFabric.Ownership
import AcceleratorFabric.Runs

/-! # The reservation ledger

`reservationLedger` keeps two maps: the reservation of every pod in flight (`byPod`) and, for
every node, the pod that owns each reserved device (`deviceOwner`).  `reserve` and `release`
are translated branch by branch; both run under the ledger's mutex, so one call is one step.

`Consistent` says that the two maps are inverse to each other and that every reservation is
well formed.  It is an instance of `Ownership.Indexes`, with the pods as holders and the pairs
of a node and a device as resources.  Every step keeps it (`consistent_step`), for every device
selector, so it holds after every sequence of calls (`consistent_run`). -/

namespace AcceleratorFabric.TopologyFit

open GoMap GoText

/-- A pod's devices on the node it is being bound to. -/
structure Reservation where
  podKey : String
  nodeName : String
  deviceIDs : List String
deriving DecidableEq, Repr

/-- `reservationLedger`, without its mutex. -/
structure ReservationLedger where
  byPod : GoMap String Reservation
  deviceOwner : GoMap String (GoMap String String)
deriving DecidableEq

def newReservationLedger : ReservationLedger := ⟨∅, ∅⟩

/-- The errors of `Reserve`. -/
inductive ReserveError where
  | keyRequired
  | selectorRequired
  | reservedElsewhere (podKey nodeName : String)
  | noAvailableCombination
  | emptyDeviceID
  | duplicateDeviceID (deviceID : String)
  | deviceReserved (deviceID nodeName owner : String)
deriving DecidableEq, Repr

/-- The error texts. -/
def ReserveError.message [IsPrint] : ReserveError → String
  | keyRequired => "pod key and node name are required"
  | selectorRequired => "device selector is required"
  | reservedElsewhere p n => "pod " ++ quote p ++ " is already reserved on node " ++ quote n
  | noAvailableCombination => "no unreserved device combination is available"
  | emptyDeviceID => "selector returned an empty device ID"
  | duplicateDeviceID d => "selector returned duplicate device ID " ++ quote d
  | deviceReserved d n o =>
      "device " ++ quote d ++ " on node " ++ quote n ++ " is reserved by " ++ quote o

/-- A device selector: it is given the devices already reserved on the node. -/
abbrev Selector := Finset String → List String

/-- The checks `Reserve` makes on the selected devices, in order; `seen` holds the ones
already passed.  The result is the first failure. -/
def checkSelection (owners : GoMap String String) (nodeName : String) :
    List String → List String → Option ReserveError
  | _, [] => none
  | seen, d :: rest =>
      if d = "" then some .emptyDeviceID
      else if d ∈ seen then some (.duplicateDeviceID d)
      else match owners.lookup d with
        | some owner =>
            if owner ≠ "" then some (.deviceReserved d nodeName owner)
            else checkSelection owners nodeName (d :: seen) rest
        | none => checkSelection owners nodeName (d :: seen) rest

namespace ReservationLedger

variable (l : ReservationLedger)

/-- `l.deviceOwner[nodeName]`; an absent node reads as the empty map. -/
def ownersOn (nodeName : String) : GoMap String String := (l.deviceOwner.lookup nodeName).getD ∅

/-- `l.deviceOwner[nodeName][deviceID]`. -/
def owner (nodeName deviceID : String) : Option String := lookup₂ l.deviceOwner nodeName deviceID

/-- The two map writes of a successful `Reserve`. -/
def record (r : Reservation) : ReservationLedger where
  byPod := l.byPod.insert r.podKey r
  deviceOwner := l.deviceOwner.insert r.nodeName
    (insertAll (l.ownersOn r.nodeName) r.deviceIDs r.podKey)

def reserve (podKey nodeName : String) (selectDevices : Option Selector) :
    Except ReserveError Reservation × ReservationLedger :=
  if podKey = "" ∨ nodeName = "" then (.error .keyRequired, l)
  else match selectDevices with
    | none => (.error .selectorRequired, l)
    | some select =>
        match l.byPod.lookup podKey with
        | some existing =>
            if existing.nodeName ≠ nodeName then
              (.error (.reservedElsewhere podKey existing.nodeName), l)
            else (.ok existing, l)
        | none =>
            let deviceIDs := select (l.ownersOn nodeName).keys
            if deviceIDs = [] then (.error .noAvailableCombination, l)
            else match checkSelection (l.ownersOn nodeName) nodeName [] deviceIDs with
              | some e => (.error e, l)
              | none =>
                  let created : Reservation := ⟨podKey, nodeName, deviceIDs⟩
                  (.ok created, l.record created)

/-- The two map deletions of `Release`, and the removal of a node without reservations. -/
def forget (podKey : String) (r : Reservation) : ReservationLedger :=
  let remaining := eraseAll (l.ownersOn r.nodeName) r.deviceIDs
  { byPod := l.byPod.erase podKey
    deviceOwner := if remaining = ∅ then l.deviceOwner.erase r.nodeName
      else l.deviceOwner.insert r.nodeName remaining }

def release (podKey : String) : ReservationLedger :=
  match l.byPod.lookup podKey with
  | none => l
  | some reserved => l.forget podKey reserved

def get (podKey : String) : Option Reservation := l.byPod.lookup podKey

def reservedDeviceIDs (nodeName excludePodKey : String) : Finset String :=
  keysWhere (l.ownersOn nodeName) (fun owner => decide (owner ≠ excludePodKey))

def len : ℕ := l.byPod.keys.card

/-! ### Reading the updated maps -/

theorem owner_eq (n d : String) : l.owner n d = (l.ownersOn n).lookup d := by
  unfold owner lookup₂ ownersOn
  cases l.deviceOwner.lookup n <;> simp

theorem ownersOn_record (r : Reservation) (n : String) :
    (l.record r).ownersOn n =
      if n = r.nodeName then insertAll (l.ownersOn n) r.deviceIDs r.podKey else l.ownersOn n := by
  have e : (l.record r).ownersOn n = ((l.deviceOwner.insert r.nodeName
      (insertAll (l.ownersOn r.nodeName) r.deviceIDs r.podKey)).lookup n).getD ∅ := rfl
  rw [e, lookup_insert_ite]
  by_cases h : n = r.nodeName
  · rw [if_pos h, if_pos h, h]; rfl
  · rw [if_neg h, if_neg h]; rfl

theorem ownersOn_forget (p : String) (r : Reservation) (n : String) :
    (l.forget p r).ownersOn n =
      if n = r.nodeName then eraseAll (l.ownersOn n) r.deviceIDs else l.ownersOn n := by
  have e : (l.forget p r).ownersOn n = ((if eraseAll (l.ownersOn r.nodeName) r.deviceIDs = ∅
      then l.deviceOwner.erase r.nodeName
      else l.deviceOwner.insert r.nodeName
        (eraseAll (l.ownersOn r.nodeName) r.deviceIDs)).lookup n).getD ∅ := rfl
  rw [e]
  by_cases h : n = r.nodeName
  · rw [if_pos h, h]
    split_ifs with he
    · rw [lookup_erase_ite, if_pos rfl, he]; rfl
    · rw [lookup_insert_ite, if_pos rfl]; rfl
  · rw [if_neg h]
    split_ifs
    · rw [lookup_erase_ite, if_neg h]; rfl
    · rw [lookup_insert_ite, if_neg h]; rfl

theorem owner_record (r : Reservation) (n d : String) :
    (l.record r).owner n d =
      if n = r.nodeName ∧ d ∈ r.deviceIDs then some r.podKey else l.owner n d := by
  rw [owner_eq, owner_eq, ownersOn_record]
  by_cases h : n = r.nodeName
  · rw [if_pos h, lookup_insertAll]
    simp [h]
  · rw [if_neg h, if_neg (fun hc => h hc.1)]

theorem owner_forget (p : String) (r : Reservation) (n d : String) :
    (l.forget p r).owner n d =
      if n = r.nodeName ∧ d ∈ r.deviceIDs then none else l.owner n d := by
  rw [owner_eq, owner_eq, ownersOn_forget]
  by_cases h : n = r.nodeName
  · rw [if_pos h, lookup_eraseAll]
    simp [h]
  · rw [if_neg h, if_neg (fun hc => h hc.1)]

/-! ### What a call can do -/

theorem checkSelection_eq_none_iff (owners : GoMap String String) (n : String) :
    ∀ (ids seen : List String), checkSelection owners n seen ids = none ↔
      (∀ d ∈ ids, d ≠ "" ∧ d ∉ seen ∧ ∀ o, owners.lookup d = some o → o = "") ∧ ids.Nodup
  | [], seen => by simp [checkSelection]
  | d :: rest, seen => by
      have ih := checkSelection_eq_none_iff owners n rest (d :: seen)
      have hrest : ((∀ x ∈ rest, x ≠ "" ∧ x ∉ d :: seen ∧ ∀ o, owners.lookup x = some o → o = "") ∧
          rest.Nodup) ↔ ((∀ x ∈ rest, x ≠ "" ∧ x ∉ seen ∧ ∀ o, owners.lookup x = some o → o = "") ∧
          (d :: rest).Nodup) := by
        rw [List.nodup_cons]
        constructor
        · rintro ⟨h, hn⟩
          refine ⟨fun x hx => ⟨(h x hx).1, fun hs => (h x hx).2.1 (List.mem_cons_of_mem _ hs),
            (h x hx).2.2⟩, fun hd => (h d hd).2.1 List.mem_cons_self, hn⟩
        · rintro ⟨h, hd, hn⟩
          refine ⟨fun x hx => ⟨(h x hx).1, ?_, (h x hx).2.2⟩, hn⟩
          rintro hs
          rcases List.mem_cons.mp hs with rfl | hs
          · exact hd hx
          · exact (h x hx).2.1 hs
      simp only [checkSelection]
      rw [List.forall_mem_cons, and_assoc, ← hrest, ← ih]
      by_cases h1 : d = ""
      · simp [h1]
      by_cases h2 : d ∈ seen
      · simp [h1, h2]
      cases h3 : owners.lookup d with
      | none => simp [h1, h2]
      | some o =>
          by_cases h4 : o = ""
          · simp [h1, h2, h4]
          · simp [h1, h2, h4]

/-- **Inversion of `Reserve`**: it fails or finds a reservation of the pod on this node and
changes nothing, or it records the devices its selector picked. -/
theorem reserve_cases (podKey nodeName : String) (sel : Option Selector) :
    (∃ e, l.reserve podKey nodeName sel = (.error e, l)) ∨
    (∃ r, l.byPod.lookup podKey = some r ∧ r.nodeName = nodeName ∧
      l.reserve podKey nodeName sel = (.ok r, l)) ∨
    (∃ select, sel = some select ∧ podKey ≠ "" ∧ nodeName ≠ "" ∧ l.byPod.lookup podKey = none ∧
      select (l.ownersOn nodeName).keys ≠ [] ∧
      checkSelection (l.ownersOn nodeName) nodeName [] (select (l.ownersOn nodeName).keys) = none ∧
      l.reserve podKey nodeName sel =
        (.ok ⟨podKey, nodeName, select (l.ownersOn nodeName).keys⟩,
          l.record ⟨podKey, nodeName, select (l.ownersOn nodeName).keys⟩)) := by
  unfold reserve
  by_cases hk : podKey = "" ∨ nodeName = ""
  · exact .inl ⟨.keyRequired, by rw [if_pos hk]⟩
  rw [if_neg hk]
  rw [not_or] at hk
  cases sel with
  | none => exact .inl ⟨.selectorRequired, rfl⟩
  | some select =>
      cases hp : l.byPod.lookup podKey with
      | some existing =>
          by_cases hn : existing.nodeName = nodeName
          · exact .inr (.inl ⟨existing, rfl, hn, by simp [hn]⟩)
          · exact .inl ⟨.reservedElsewhere podKey existing.nodeName, by simp [hn]⟩
      | none =>
          by_cases he : select (l.ownersOn nodeName).keys = []
          · exact .inl ⟨.noAvailableCombination, by simp [he]⟩
          cases hc : checkSelection (l.ownersOn nodeName) nodeName []
              (select (l.ownersOn nodeName).keys) with
          | some e => exact .inl ⟨e, by simp [he, hc]⟩
          | none =>
              exact .inr (.inr ⟨select, rfl, hk.1, hk.2, rfl, he, hc, by simp [he, hc]⟩)

theorem release_cases (podKey : String) :
    (l.byPod.lookup podKey = none ∧ l.release podKey = l) ∨
    (∃ r, l.byPod.lookup podKey = some r ∧ l.release podKey = l.forget podKey r) := by
  unfold release
  cases hp : l.byPod.lookup podKey with
  | none => exact .inl ⟨rfl, rfl⟩
  | some r => exact .inr ⟨r, rfl, rfl⟩

end ReservationLedger

/-! ### The representation invariant -/

/-- What `Reserve` guarantees of the reservation it stores for the pod `p`. -/
structure Reservation.WellFormed (p : String) (r : Reservation) : Prop where
  podKey_eq : r.podKey = p
  podKey_ne : p ≠ ""
  nodeName_ne : r.nodeName ≠ ""
  deviceIDs_ne : r.deviceIDs ≠ []
  nodup : r.deviceIDs.Nodup
  nonblank : ∀ d ∈ r.deviceIDs, d ≠ ""

namespace ReservationLedger

variable {l : ReservationLedger}

/-- The node and device pairs a pod holds. -/
def holds (l : ReservationLedger) (p : String) : Set (String × String) :=
  {x | ∃ r, l.byPod.lookup p = some r ∧ r.nodeName = x.1 ∧ x.2 ∈ r.deviceIDs}

/-- The two maps are inverse to each other, the reservations are well formed and no node
keeps an empty owner map. -/
structure Consistent (l : ReservationLedger) : Prop where
  indexes : Ownership.Indexes (fun x : String × String => l.owner x.1 x.2) l.holds
  wellFormed : ∀ p r, l.byPod.lookup p = some r → r.WellFormed p
  node_ne : ∀ n m, l.deviceOwner.lookup n = some m → m ≠ ∅

theorem consistent_new : newReservationLedger.Consistent where
  indexes := by
    intro x p
    simp [newReservationLedger, owner, lookup₂, holds]
  wellFormed := by
    intro p r h
    simp [newReservationLedger] at h
  node_ne := by
    intro n m h
    simp [newReservationLedger] at h

theorem holds_of_lookup {p : String} {r : Reservation} (h : l.byPod.lookup p = some r) :
    l.holds p = {x | x.1 = r.nodeName ∧ x.2 ∈ r.deviceIDs} := by
  ext x
  simp only [holds, h, Option.some.injEq, Set.mem_ofPred_eq]
  constructor
  · rintro ⟨_, rfl, hn, hd⟩
    exact ⟨hn.symm, hd⟩
  · rintro ⟨hn, hd⟩
    exact ⟨r, rfl, hn.symm, hd⟩

theorem holds_of_lookup_none {p : String} (h : l.byPod.lookup p = none) : l.holds p = ∅ := by
  ext x
  simp [holds, h]

/-- A pod's holdings only depend on its own entry. -/
theorem holds_congr {l' : ReservationLedger} {p : String}
    (h : l'.byPod.lookup p = l.byPod.lookup p) : l'.holds p = l.holds p := by
  unfold holds
  rw [h]

theorem Consistent.record (hl : l.Consistent) {r : Reservation} (hwf : r.WellFormed r.podKey)
    (hnew : l.byPod.lookup r.podKey = none)
    (hfree : ∀ d ∈ r.deviceIDs, l.owner r.nodeName d = none) : (l.record r).Consistent where
  indexes := by
    have hother : ∀ a, a ≠ r.podKey → (l.record r).holds a = l.holds a := fun a ha =>
      holds_congr (by simp only [ReservationLedger.record]; rw [lookup_insert_ite, if_neg ha])
    have hself : (l.record r).holds r.podKey =
        {x : String × String | x.1 = r.nodeName ∧ x.2 ∈ r.deviceIDs} :=
      holds_of_lookup (by simp [ReservationLedger.record])
    refine hl.indexes.acquire (h := r.podKey) ?_ (holds_of_lookup_none hnew) ?_ hself hother
    · rintro ⟨n, d⟩ ⟨hn, hd⟩
      simp only at hn hd ⊢
      rw [hn]
      exact hfree d hd
    · rintro ⟨n, d⟩
      simp only [owner_record]
      exact ⟨fun h => if_pos h, fun h => if_neg h⟩
  wellFormed := by
    intro p s h
    simp only [ReservationLedger.record] at h
    rw [lookup_insert_ite] at h
    split_ifs at h with hp
    · cases h
      rw [hp]
      exact hwf
    · exact hl.wellFormed p s h
  node_ne := by
    intro n m h
    simp only [ReservationLedger.record] at h
    rw [lookup_insert_ite] at h
    split_ifs at h with hn
    · cases h
      intro hempty
      obtain ⟨d, hd⟩ := List.exists_mem_of_ne_nil _ hwf.deviceIDs_ne
      have := lookup_insertAll r.deviceIDs (l.ownersOn r.nodeName) r.podKey d
      rw [hempty, if_pos hd, Finmap.lookup_empty] at this
      cases this
    · exact hl.node_ne n m h

theorem Consistent.forget (hl : l.Consistent) {p : String} {r : Reservation}
    (hr : l.byPod.lookup p = some r) : (l.forget p r).Consistent where
  indexes := by
    have hother : ∀ a, a ≠ p → (l.forget p r).holds a = l.holds a := fun a ha =>
      holds_congr (by simp only [ReservationLedger.forget]; rw [lookup_erase_ite, if_neg ha])
    have hself : (l.forget p r).holds p = ∅ :=
      holds_of_lookup_none (by simp [ReservationLedger.forget])
    refine hl.indexes.release (h := p) ?_ hself hother
    rintro ⟨n, d⟩
    simp only [owner_forget, holds_of_lookup hr]
    exact ⟨fun h => if_pos h, fun h => if_neg h⟩
  wellFormed := by
    intro q s h
    simp only [ReservationLedger.forget] at h
    rw [lookup_erase_ite] at h
    split_ifs at h
    exact hl.wellFormed q s h
  node_ne := by
    intro n m h
    simp only [ReservationLedger.forget] at h
    split_ifs at h with he
    · rw [lookup_erase_ite] at h
      split_ifs at h
      exact hl.node_ne n m h
    · rw [lookup_insert_ite] at h
      split_ifs at h with hn
      · cases h
        exact he
      · exact hl.node_ne n m h

/-- The checks of `Reserve` make the new reservation well formed and its devices free. -/
theorem Consistent.reserve (hl : l.Consistent) (podKey nodeName : String) (sel : Option Selector) :
    (l.reserve podKey nodeName sel).2.Consistent := by
  rcases l.reserve_cases podKey nodeName sel with
    ⟨e, h⟩ | ⟨r, _, _, h⟩ | ⟨select, _, hp, hn, hnew, hne, hc, h⟩
  · rw [h]
    exact hl
  · rw [h]
    exact hl
  · rw [h]
    obtain ⟨hids, hnodup⟩ := (checkSelection_eq_none_iff _ _ _ _).mp hc
    refine hl.record ⟨rfl, hp, hn, hne, hnodup, fun d hd => (hids d hd).1⟩ hnew ?_
    intro d hd
    rw [owner_eq]
    cases ho : (l.ownersOn nodeName).lookup d with
    | none => rfl
    | some o =>
        -- a stored owner is a pod key, and these are never blank
        have hblank := (hids d hd).2.2 o ho
        have hown : l.owner nodeName d = some o := by rw [owner_eq]; exact ho
        obtain ⟨s, hs, _⟩ := (hl.indexes (nodeName, d) o).mp hown
        exact absurd hblank (hl.wellFormed o s hs).podKey_ne

theorem Consistent.release (hl : l.Consistent) (podKey : String) :
    (l.release podKey).Consistent := by
  rcases l.release_cases podKey with ⟨_, h⟩ | ⟨r, hr, h⟩
  · rw [h]
    exact hl
  · rw [h]
    exact hl.forget hr

/-! ### Frames -/

theorem reservedDeviceIDs_congr {l' : ReservationLedger} {n : String}
    (h : l'.ownersOn n = l.ownersOn n) (q : String) :
    l'.reservedDeviceIDs n q = l.reservedDeviceIDs n q := by
  unfold reservedDeviceIDs
  rw [h]

theorem ownersOn_reserve_of_ne (l : ReservationLedger) (podKey : String) {m n : String}
    (sel : Option Selector) (hmn : m ≠ n) : (l.reserve podKey n sel).2.ownersOn m = l.ownersOn m := by
  rcases l.reserve_cases podKey n sel with ⟨e, h⟩ | ⟨r, _, _, h⟩ | ⟨select, _, _, _, _, _, _, h⟩
  · rw [h]
  · rw [h]
  · rw [h]
    simp only [ownersOn_record]
    exact if_neg hmn

theorem ownersOn_release_of_ne {podKey m : String} {r : Reservation}
    (hr : l.byPod.lookup podKey = some r) (hm : m ≠ r.nodeName) :
    (l.release podKey).ownersOn m = l.ownersOn m := by
  rcases l.release_cases podKey with ⟨hnone, _⟩ | ⟨s, hs, h⟩
  · rw [hr] at hnone
    cases hnone
  · rw [hr] at hs
    cases hs
    rw [h, ownersOn_forget]
    exact if_neg hm

/-- `Reserve` only ever touches the entry of its own pod. -/
theorem lookup_reserve_of_ne (l : ReservationLedger) (podKey n : String) (sel : Option Selector)
    {q : String} (hq : q ≠ podKey) :
    (l.reserve podKey n sel).2.byPod.lookup q = l.byPod.lookup q := by
  rcases l.reserve_cases podKey n sel with ⟨e, h⟩ | ⟨r, _, _, h⟩ | ⟨select, _, _, _, _, _, _, h⟩
  · rw [h]
  · rw [h]
  · rw [h]
    simp only [ReservationLedger.record]
    rw [lookup_insert_ite, if_neg hq]

theorem lookup_release (l : ReservationLedger) (podKey q : String) :
    (l.release podKey).byPod.lookup q = if q = podKey then none else l.byPod.lookup q := by
  rcases l.release_cases podKey with ⟨hnone, h⟩ | ⟨s, hs, h⟩
  · rw [h]
    split_ifs with hq
    · rw [hq, hnone]
    · rfl
  · rw [h]
    exact lookup_erase_ite l.byPod podKey q

/-! ### Whole runs -/

/-- One call on the ledger. -/
inductive Op where
  | reserve (podKey nodeName : String) (selectDevices : Option Selector)
  | release (podKey : String)

def step (l : ReservationLedger) : Op → ReservationLedger
  | .reserve podKey nodeName selectDevices => (l.reserve podKey nodeName selectDevices).2
  | .release podKey => l.release podKey

/-- The ledger after a sequence of calls on the empty one. -/
def run (ops : List Op) : ReservationLedger := Runs.run step newReservationLedger ops

theorem Consistent.step (hl : l.Consistent) (op : Op) : (l.step op).Consistent := by
  cases op with
  | reserve podKey nodeName sel => exact hl.reserve podKey nodeName sel
  | release podKey => exact hl.release podKey

theorem consistent_run (ops : List Op) : (run ops).Consistent :=
  Runs.invariant_run Consistent (fun _ op hl _ => hl.step op) ops newReservationLedger
    consistent_new (Runs.along_true ops _)

/-- Two pods never share a device of a node. -/
theorem Consistent.disjoint (hl : l.Consistent) {p q : String} {r s : Reservation}
    (hp : l.byPod.lookup p = some r) (hq : l.byPod.lookup q = some s) (hpq : p ≠ q)
    (hn : r.nodeName = s.nodeName) : ∀ d ∈ r.deviceIDs, d ∉ s.deviceIDs := by
  intro d hr hs
  refine hpq (hl.indexes.exclusive (r := (r.nodeName, d)) ?_ ?_)
  · exact ⟨r, hp, rfl, hr⟩
  · exact ⟨s, hq, hn.symm, hs⟩

/-- **The ledger over whole runs.**  After every sequence of calls, with every selector: the
owner map is the inverse of the reservations; two pods never share a device of a node, every
reservation has devices, all distinct and none blank, and no node has an empty owner map; a
`Reserve` that fails or finds a reservation changes nothing; and no call changes what is
reserved on another node than its own. -/
theorem run_invariant (ops : List Op) :
    (∀ n d p, (run ops).owner n d = some p ↔
      ∃ r, (run ops).byPod.lookup p = some r ∧ r.nodeName = n ∧ d ∈ r.deviceIDs) ∧
    (∀ p q r s, (run ops).byPod.lookup p = some r → (run ops).byPod.lookup q = some s → p ≠ q →
      r.nodeName = s.nodeName → ∀ d ∈ r.deviceIDs, d ∉ s.deviceIDs) ∧
    (∀ p r, (run ops).byPod.lookup p = some r →
      r.deviceIDs ≠ [] ∧ r.deviceIDs.Nodup ∧ ∀ d ∈ r.deviceIDs, d ≠ "") ∧
    (∀ n m, (run ops).deviceOwner.lookup n = some m → m ≠ ∅) ∧
    (∀ podKey nodeName sel,
      ((∃ e, ((run ops).reserve podKey nodeName sel).1 = .error e) ∨
        (∃ r, (run ops).byPod.lookup podKey = some r)) →
      ((run ops).reserve podKey nodeName sel).2 = run ops) ∧
    (∀ podKey n sel m q, m ≠ n →
      ((run ops).reserve podKey n sel).2.reservedDeviceIDs m q =
        (run ops).reservedDeviceIDs m q) ∧
    (∀ podKey r m q, (run ops).byPod.lookup podKey = some r → m ≠ r.nodeName →
      ((run ops).release podKey).reservedDeviceIDs m q = (run ops).reservedDeviceIDs m q) ∧
    (∀ podKey, (run ops).byPod.lookup podKey = none → (run ops).release podKey = run ops) := by
  have hl := consistent_run ops
  generalize run ops = l at hl ⊢
  refine ⟨fun n d p => hl.indexes (n, d) p, fun p q r s hp hq hpq hn => hl.disjoint hp hq hpq hn,
    fun p r hr => ?_, hl.node_ne, ?_, ?_, ?_, ?_⟩
  · have hwf := hl.wellFormed p r hr
    exact ⟨hwf.deviceIDs_ne, hwf.nodup, hwf.nonblank⟩
  · intro podKey nodeName sel hcase
    rcases l.reserve_cases podKey nodeName sel with
      ⟨e, h⟩ | ⟨r, _, _, h⟩ | ⟨select, _, _, _, hnew, _, _, h⟩
    · rw [h]
    · rw [h]
    · rw [h, hnew] at hcase
      rcases hcase with ⟨e, he⟩ | ⟨r, hr⟩
      · cases he
      · cases hr
  · intro podKey n sel m q hmn
    exact reservedDeviceIDs_congr (l.ownersOn_reserve_of_ne podKey sel hmn) q
  · intro podKey r m q hr hm
    exact reservedDeviceIDs_congr (ownersOn_release_of_ne hr hm) q
  · intro podKey hnone
    rcases l.release_cases podKey with ⟨_, h⟩ | ⟨r, hr, _⟩
    · exact h
    · rw [hnone] at hr
      cases hr

end ReservationLedger
end AcceleratorFabric.TopologyFit
