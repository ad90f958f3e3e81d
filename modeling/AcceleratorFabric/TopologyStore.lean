import AcceleratorFabric.Snapshot

/-! # The topology cache

`Store` keeps one result per node name.  `Upsert` indexes an object, marks it Ready when its
Ready condition observes its own generation and puts it in place of the cached one, unless the
spec is invalid or older than the cached entry; `Get` turns an entry whose heartbeat is missing
or too old into a stale one.  `handle` is the informer's event handler over the store.

A rejected object leaves the previous entry in place.  `Superseded.handled_iff` states exactly
what that means for a reader of the cache: `Get` can trust its Ready entries as long as no
object is dropped while a usable entry is cached. -/

namespace AcceleratorFabric.Topology

open GoMap GoText

inductive Availability where
  | ready
  | missing
  | notReady
  | stale
deriving DecidableEq, Repr

def Availability.text : Availability → String
  | ready => "Ready"
  | missing => "Missing"
  | notReady => "NotReady"
  | stale => "Stale"

/-- `cache.Result`; the zero time stands for a heartbeat that was never set. -/
structure Result [Kube] where
  snapshot : Option Snapshot
  availability : Availability
  resourceVersion : String
  objectGeneration : ℤ
  observedGeneration : ℤ
  lastHeartbeatTime : Time

/-- The cache.  Entries are stored under the node name of an accepted spec, which is not
blank, and hold the snapshot that was built from it. -/
structure Store [Kube] where
  entries : GoMap String Result
  keyed : ∀ n r, entries.lookup n = some r → n ≠ "" ∧ r.snapshot.isSome = true

inductive UpsertError where
  | nilObject
  | invalid (error : BuildError)
  | olderGeneration
deriving DecidableEq, Repr

def UpsertError.message [IsPrint] : UpsertError → String
  | nilObject => "topology object is nil"
  | invalid e => e.message
  | olderGeneration => "topology update is older than the cached generation"

section store

variable [Kube]

def newStore : Store := ⟨∅, by intro n r h; simp at h⟩

/-- The object's Ready condition is True and observes the object's own generation. -/
def readyForGeneration (object : AcceleratorTopology) : Bool :=
  match Kube.findStatusCondition object.status.conditions "Ready" with
  | none => false
  | some c =>
      decide (c.status = .conditionTrue) && decide (c.observedGeneration = object.generation)

/-- The entry `Upsert` makes of an object and its snapshot. -/
def resultOf (object : AcceleratorTopology) (snapshot : Snapshot) : Result where
  snapshot := some snapshot
  availability := if readyForGeneration object then .ready else .notReady
  resourceVersion := object.resourceVersion
  objectGeneration := object.generation
  observedGeneration := object.spec.observedGeneration
  lastHeartbeatTime := object.status.lastHeartbeatTime.getD 0

/-- The object is older than the cached entry. -/
def olderThan (object : AcceleratorTopology) (cached : Result) : Prop :=
  object.generation < cached.objectGeneration ∨
    (object.generation = cached.objectGeneration ∧
      object.spec.observedGeneration < cached.observedGeneration)

instance (object : AcceleratorTopology) (cached : Result) : Decidable (olderThan object cached) :=
  inferInstanceAs (Decidable (_ ∨ _))

theorem nodeName_ne_of_build {object : AcceleratorTopology} {snapshot : Snapshot}
    (h : build object.spec = .ok snapshot) : object.spec.nodeName ≠ "" :=
  ((build_eq_ok_iff object.spec snapshot).mp h).1.nodeName_ne

namespace Store

/-- `next.entries[nodeName] = entry`. -/
def put (s : Store) (nodeName : String) (r : Result) (hn : nodeName ≠ "")
    (hr : r.snapshot.isSome = true) : Store where
  entries := s.entries.insert nodeName r
  keyed := by
    intro n r' h
    rw [lookup_insert_ite] at h
    split_ifs at h with hnn
    · cases h
      rw [hnn]
      exact ⟨hn, hr⟩
    · exact s.keyed n r' h

def upsert (s : Store) (object : Option AcceleratorTopology) : Except UpsertError Unit × Store :=
  match object with
  | none => (.error .nilObject, s)
  | some object =>
      match h : build object.spec with
      | .error e => (.error (.invalid e), s)
      | .ok snapshot =>
          if (s.entries.lookup object.spec.nodeName).any (fun cached => olderThan object cached) then
            (.error .olderGeneration, s)
          else (.ok (), s.put object.spec.nodeName (resultOf object snapshot)
            (nodeName_ne_of_build h) rfl)

def delete (s : Store) (nodeName : String) : Store where
  entries := s.entries.erase nodeName
  keyed := by
    intro n r h
    rw [lookup_erase_ite] at h
    split_ifs at h
    exact s.keyed n r h

/-- The entry a reader sees at `now` with the given time to live. -/
def get (s : Store) (nodeName : String) (now : Time) (ttl : Duration) : Result :=
  match s.entries.lookup nodeName with
  | none => ⟨none, .missing, "", 0, 0, 0⟩
  | some result =>
      if result.availability ≠ .ready then result
      else if result.lastHeartbeatTime = 0 ∨
          (0 < ttl ∧ ttl < Time.sub now result.lastHeartbeatTime) then
        { result with availability := .stale }
      else result

end Store

/-! ### The informer's event handler -/

/-- What an informer hands to an event handler: a topology, the tombstone of a deletion that
was missed, or something else. -/
inductive EventObject where
  | topology (object : AcceleratorTopology)
  | tombstone (last : Option AcceleratorTopology)
  | unexpected

inductive Event where
  | add (object : EventObject)
  | update (oldObject newObject : EventObject)
  | delete (object : EventObject)

inductive HandlerError where
  | unexpectedAdd
  | unexpectedUpdate
  | unexpectedDelete
  | unexpectedTombstone
  | cacheTopology (name : String) (error : UpsertError)
  | updateCachedTopology (name : String) (error : UpsertError)
deriving DecidableEq, Repr

def topologyFromDelete : EventObject → Except HandlerError AcceleratorTopology
  | .topology object => .ok object
  | .tombstone (some object) => .ok object
  | .tombstone none => .error .unexpectedTombstone
  | .unexpected => .error .unexpectedDelete

/-- The handlers `ObserveAcceleratorTopologies` registers: the store after the event and the
error passed to `onError`, if any. -/
def handle (s : Store) : Event → Store × Option HandlerError
  | .add (.topology object) =>
      match s.upsert (some object) with
      | (.error e, s') => (s', some (.cacheTopology object.name e))
      | (.ok _, s') => (s', none)
  | .add _ => (s, some .unexpectedAdd)
  | .update _ (.topology object) =>
      match s.upsert (some object) with
      | (.error e, s') => (s', some (.updateCachedTopology object.name e))
      | (.ok _, s') => (s', none)
  | .update _ _ => (s, some .unexpectedUpdate)
  | .delete object =>
      match topologyFromDelete object with
      | .error e => (s, some e)
      | .ok topology => (s.delete topology.spec.nodeName, none)

/-! ### What a call can do -/

/-- **Inversion of `Upsert`**: the object is dropped and nothing changes, because its spec is
invalid or it is older than the cached entry, or it becomes the entry of its node. -/
theorem Store.upsert_cases (s : Store) (o : AcceleratorTopology) :
    ((¬ Accepted o.spec ∨ ∃ r, s.entries.lookup o.spec.nodeName = some r ∧ olderThan o r) ∧
      ∃ e, s.upsert (some o) = (.error e, s)) ∨
    (Accepted o.spec ∧ (∀ r, s.entries.lookup o.spec.nodeName = some r → ¬ olderThan o r) ∧
      ∃ snapshot, build o.spec = .ok snapshot ∧ (s.upsert (some o)).1 = .ok () ∧
        (s.upsert (some o)).2.entries =
          s.entries.insert o.spec.nodeName (resultOf o snapshot)) := by
  unfold upsert
  simp only
  split
  · next e he =>
      refine .inl ⟨.inl ?_, _, rfl⟩
      intro ha
      obtain ⟨snapshot, hs⟩ := (build_isOk_iff o.spec).mpr ha
      rw [hs] at he
      cases he
  · next snapshot hs =>
      have ha := (build_isOk_iff o.spec).mp ⟨snapshot, hs⟩
      split_ifs with hold
      · refine .inl ⟨.inr ?_, _, rfl⟩
        cases hl : s.entries.lookup o.spec.nodeName with
        | none => rw [hl] at hold; simp at hold
        | some r => rw [hl] at hold; exact ⟨r, rfl, by simpa using hold⟩
      · refine .inr ⟨ha, ?_, snapshot, hs, rfl, rfl⟩
        intro r hr hor
        rw [hr] at hold
        exact hold (by simpa using hor)

theorem Store.get_of_lookup {s : Store} {n : String} {r : Result} (h : s.entries.lookup n = some r)
    (now : Time) (ttl : Duration) : (s.get n now ttl).availability = .ready ↔
      r.availability = .ready ∧ r.lastHeartbeatTime ≠ 0 ∧
        ¬ (0 < ttl ∧ ttl < Time.sub now r.lastHeartbeatTime) := by
  unfold get
  rw [h]
  simp only
  by_cases h1 : r.availability = .ready
  · by_cases h2 : r.lastHeartbeatTime = 0 ∨ (0 < ttl ∧ ttl < Time.sub now r.lastHeartbeatTime)
    · rw [if_neg (not_not.mpr h1), if_pos h2]
      simp only [reduceCtorEq, h1, true_and, false_iff]
      tauto
    · rw [if_neg (not_not.mpr h1), if_neg h2]
      rw [not_or] at h2
      simp [h1, h2]
  · rw [if_pos h1]
    simp [h1]

theorem Store.get_of_lookup_none {s : Store} {n : String} (h : s.entries.lookup n = none)
    (now : Time) (ttl : Duration) : (s.get n now ttl).availability = .missing := by
  unfold get
  rw [h]

theorem handle_add (s : Store) (o : AcceleratorTopology) :
    (handle s (.add (.topology o))).1 = (s.upsert (some o)).2 := by
  simp only [handle]
  generalize s.upsert (some o) = res
  obtain ⟨r, s'⟩ := res
  cases r <;> rfl

theorem handle_update (s : Store) (old : EventObject) (o : AcceleratorTopology) :
    (handle s (.update old (.topology o))).1 = (s.upsert (some o)).2 := by
  simp only [handle]
  generalize s.upsert (some o) = res
  obtain ⟨r, s'⟩ := res
  cases r <;> rfl

/-! ### Superseded topologies -/

namespace Superseded

/-- The event that delivers `d.2`: an addition, or an update of the older version `d.1`. -/
def event (d : Option AcceleratorTopology × AcceleratorTopology) : Event :=
  match d.1 with
  | none => .add (.topology d.2)
  | some old => .update (.topology old) (.topology d.2)

/-- The cache after a sequence of deliveries. -/
def deliver (ds : List (Option AcceleratorTopology × AcceleratorTopology)) : Store :=
  ds.foldl (fun s d => (handle s (event d)).1) newStore

/-- Delivering `d` leaves a cache in which `node` is only reported Ready if `d`'s object is
valid and Ready for its own generation. -/
def TrustedAfter (s : Store) (node : String)
    (d : Option AcceleratorTopology × AcceleratorTopology) : Prop :=
  ∀ now ttl, ((handle s (event d)).1.get node now ttl).availability = .ready →
    (∃ snapshot, build d.2.spec = .ok snapshot) ∧ readyForGeneration d.2 = true

/-- No object is dropped while a usable entry of the node is cached: its spec is valid, and it
takes the place of the entry or is itself Ready. -/
def Handled (s : Store) (node : String)
    (d : Option AcceleratorTopology × AcceleratorTopology) : Prop :=
  ∀ r, s.entries.lookup node = some r → r.availability = .ready → r.lastHeartbeatTime ≠ 0 →
    (∃ snapshot, build d.2.spec = .ok snapshot) ∧
      ((d.2.spec.nodeName = node ∧ ¬ olderThan d.2 r) ∨ readyForGeneration d.2 = true)

theorem handle_event (s : Store) (d : Option AcceleratorTopology × AcceleratorTopology) :
    (handle s (event d)).1 = (s.upsert (some d.2)).2 := by
  obtain ⟨old, o⟩ := d
  cases old with
  | none => exact handle_add s o
  | some old => exact handle_update s _ o

/-- Some reader sees the node Ready exactly if a usable entry of it is cached: the reader at
the time of the entry's own heartbeat does. -/
theorem exists_get_ready_iff (s : Store) (node : String) :
    (∃ now ttl, (s.get node now ttl).availability = .ready) ↔
      ∃ r, s.entries.lookup node = some r ∧ r.availability = .ready ∧ r.lastHeartbeatTime ≠ 0 := by
  constructor
  · rintro ⟨now, ttl, hget⟩
    cases hl : s.entries.lookup node with
    | none =>
        rw [Store.get_of_lookup_none hl] at hget
        cases hget
    | some r =>
        obtain ⟨hr, hh, _⟩ := (Store.get_of_lookup hl now ttl).mp hget
        exact ⟨r, rfl, hr, hh⟩
  · rintro ⟨r, hl, hr, hh⟩
    exact ⟨r.lastHeartbeatTime, 0,
      (Store.get_of_lookup hl _ _).mpr ⟨hr, hh, fun h => absurd h.1 (lt_irrefl 0)⟩⟩

/-- The cache can be trusted if every usable entry the delivery leaves speaks for its object. -/
theorem trustedAfter_iff_entry (s : Store) (node : String)
    (d : Option AcceleratorTopology × AcceleratorTopology) :
    TrustedAfter s node d ↔ ∀ r, (s.upsert (some d.2)).2.entries.lookup node = some r →
      r.availability = .ready → r.lastHeartbeatTime ≠ 0 →
        (∃ snapshot, build d.2.spec = .ok snapshot) ∧ readyForGeneration d.2 = true := by
  unfold TrustedAfter
  rw [handle_event]
  constructor
  · intro ht r hl hr hh
    obtain ⟨now, ttl, hget⟩ := (exists_get_ready_iff _ node).mpr ⟨r, hl, hr, hh⟩
    exact ht now ttl hget
  · intro h now ttl hget
    obtain ⟨r, hl, hr, hh⟩ := (exists_get_ready_iff _ node).mp ⟨now, ttl, hget⟩
    exact h r hl hr hh

theorem trustedAfter_iff (s : Store) (node : String)
    (d : Option AcceleratorTopology × AcceleratorTopology) :
    TrustedAfter s node d ↔ Handled s node d := by
  rw [trustedAfter_iff_entry]
  unfold Handled
  rcases s.upsert_cases d.2 with ⟨hdrop, e, h⟩ | ⟨ha, hnew, snapshot, hs, _, he⟩
  · -- the object is dropped, so a usable entry stays in place
    rw [h]
    refine forall₄_congr fun r hl _ _ => and_congr_right fun hb => ?_
    refine ⟨.inr, ?_⟩
    rintro (⟨hname, hold⟩ | hready)
    · rcases hdrop with hbad | ⟨r', hr', hor⟩
      · exact absurd ((build_isOk_iff _).mp hb) hbad
      · rw [hname, hl] at hr'
        cases hr'
        exact absurd hor hold
    · exact hready
  · rw [he, lookup_insert_ite]
    by_cases hname : node = d.2.spec.nodeName
    · -- the object becomes the entry: what is read is its own readiness
      rw [if_pos hname]
      constructor
      · intro _ r hl _ _
        exact ⟨⟨snapshot, hs⟩, .inl ⟨hname.symm, hnew r (hname ▸ hl)⟩⟩
      · rintro _ r hl hr -
        cases hl
        refine ⟨⟨snapshot, hs⟩, ?_⟩
        by_contra hnot
        simp [resultOf, hnot] at hr
    · -- it becomes the entry of another node
      rw [if_neg hname]
      refine forall₄_congr fun r _ _ _ => and_congr_right fun _ => ⟨.inr, ?_⟩
      rintro (⟨hn, _⟩ | hready)
      · exact absurd hn.symm hname
      · exact hready

/-- **When the cache can be trusted.**  Over every sequence of deliveries: after each of them
`Get` reports the node Ready only if the delivered object is valid and Ready for its own
generation, if and only if no delivery drops its object while a usable entry is cached. -/
theorem handled_iff (node : String)
    (ds : List (Option AcceleratorTopology × AcceleratorTopology)) :
    (∀ before d after, ds = before ++ d :: after → TrustedAfter (deliver before) node d) ↔
      ∀ before d after, ds = before ++ d :: after → Handled (deliver before) node d := by
  constructor
  · intro h before d after e
    exact (trustedAfter_iff _ _ _).mp (h before d after e)
  · intro h before d after e
    exact (trustedAfter_iff _ _ _).mpr (h before d after e)

end Superseded

end store

/-- A node's object is delivered in two versions, the second without devices: the cache drops
it and still reports the first one Ready. -/
theorem Superseded.dropped_update_stays_ready :
    ¬ ∀ (_ : Kube) (node : String) (ds : List (Option AcceleratorTopology × AcceleratorTopology)),
      (∀ d ∈ ds, d.2.spec.nodeName = node) → (ds.map (·.2.generation)).Pairwise (· ≤ ·) →
        ∀ before d after, ds = before ++ d :: after → TrustedAfter (deliver before) node d := by
  intro h
  let : Kube := sampleKube
  let v1 := sampleTopology 1 (sampleSpec [sampleDevice "gpu0"] [])
  let v2 := { v1 with generation := 2, spec := sampleSpec [] [] }
  have hready : ((handle (deliver [(none, v1)]) (event (some v1, v2))).1.get
      "worker" 1 120000000000).availability = .ready := by decide
  obtain ⟨⟨snapshot, hs⟩, _⟩ := h sampleKube "worker" [(none, v1), (some v1, v2)] (by decide)
    (by decide) [(none, v1)] (some v1, v2) [] rfl _ _ hready
  exact ((build_isOk_iff _).mp ⟨snapshot, hs⟩).devices_ne rfl

end AcceleratorFabric.Topology
