import AcceleratorFabric.CopyOnWrite
import AcceleratorFabric.TopologyStore

/-! # Concurrent use of the topology store

The store keeps its entries behind an atomic pointer.  `Get` and `Len` load it without a lock;
`Upsert` and `Delete` replace it under the lock by a pointer to an edited copy.  The scheduler
reads while the informer writes.

`store_linearizable`: the callers see what they would see if every call were one step of the
store, so the results about single calls hold for any number of threads. -/

namespace AcceleratorFabric.Topology

open CopyOnWrite GoMap Runs

variable [Kube]

inductive StoreWrite where
  | upsert (object : Option AcceleratorTopology)
  | delete (nodeName : String)

inductive StoreRead where
  | get (nodeName : String) (now : Time) (ttl : Duration)
  | len

inductive StoreAnswer where
  | upserted (result : Except UpsertError Unit)
  | deleted
  | found (result : Result)
  | count (n : ℕ)

def Store.len (s : Store) : ℕ := s.entries.keys.card

/-- A call as one step of the store. -/
def storeEffect : Op StoreWrite StoreRead → Store → StoreAnswer × Store
  | .write (.upsert object), s => (.upserted (s.upsert object).1, (s.upsert object).2)
  | .write (.delete nodeName), s => (.deleted, s.delete nodeName)
  | .read (.get nodeName now ttl), s => (.found (s.get nodeName now ttl), s)
  | .read .len, s => (.count s.len, s)

/-- What `Upsert` decides before it takes the lock. -/
def upsertEarly : Option AcceleratorTopology → Option UpsertError
  | none => some .nilObject
  | some object =>
      match build object.spec with
      | .error e => some (.invalid e)
      | .ok _ => none

theorem isSome_resultOf (object : AcceleratorTopology) (snapshot : Snapshot) :
    (resultOf object snapshot).snapshot.isSome = true := rfl

/-- What `Upsert` decides under the lock on the current entries: the edit of their copy. -/
def upsertPlan (object : AcceleratorTopology) (s : Store) :
    Except UpsertError Unit × Option (Store → Store) :=
  match h : build object.spec with
  | .error e => (.error (.invalid e), none)
  | .ok snapshot =>
      if (s.entries.lookup object.spec.nodeName).any (fun cached => olderThan object cached) then
        (.error .olderGeneration, none)
      else (.ok (), some fun copy => copy.put object.spec.nodeName (resultOf object snapshot)
        (nodeName_ne_of_build h) (isSome_resultOf object snapshot))

/-- The calls in steps. -/
def storeOps : Ops Store StoreWrite StoreRead StoreAnswer where
  early
    | .upsert object => (upsertEarly object).map fun e => .upserted (.error e)
    | .delete _ => none
  plan
    | .upsert none, _ => (.upserted (.error .nilObject), none)
    | .upsert (some object), s =>
        (.upserted (upsertPlan object s).1, (upsertPlan object s).2)
    | .delete nodeName, s =>
        if nodeName ∈ s.entries then (.deleted, some fun copy => copy.delete nodeName)
        else (.deleted, none)
  read
    | .get nodeName now ttl, s => .found (s.get nodeName now ttl)
    | .len, s => .count s.len

theorem Store.delete_of_absent {s : Store} {nodeName : String} (h : nodeName ∉ s.entries) :
    s.delete nodeName = s := by
  obtain ⟨entries, keyed⟩ := s
  rw [delete, Store.mk.injEq]
  exact Finmap.ext_lookup fun n => by
    rw [lookup_erase_ite]
    split_ifs with hn
    · rw [hn]
      exact (Finmap.lookup_eq_none.mpr h).symm
    · rfl

theorem upsert_of_early {object : Option AcceleratorTopology} {e : UpsertError}
    (h : upsertEarly object = some e) (s : Store) : s.upsert object = (.error e, s) := by
  cases object with
  | none =>
      cases h
      rfl
  | some object =>
      rw [upsertEarly] at h
      rw [Store.upsert]
      split at h <;> split
      · next e' hbuild e'' hbuild' =>
          cases h
          rw [Except.error.inj (hbuild.symm.trans hbuild')]
      · next e' hbuild _ hbuild' => cases hbuild.symm.trans hbuild'
      all_goals cases h

theorem upsertPlan_of_build {object : AcceleratorTopology} {snapshot : Snapshot}
    (h : build object.spec = .ok snapshot) (s : Store) : upsertPlan object s =
      if (s.entries.lookup object.spec.nodeName).any (fun cached => olderThan object cached) then
        (.error .olderGeneration, none)
      else (.ok (), some fun copy => copy.put object.spec.nodeName (resultOf object snapshot)
        (nodeName_ne_of_build h) (isSome_resultOf object snapshot)) := by
  rw [upsertPlan]
  split
  · next e hbuild => cases h.symm.trans hbuild
  · next snapshot' hbuild =>
      obtain rfl := Except.ok.inj (h.symm.trans hbuild)
      rfl

theorem upsert_of_plan {object : AcceleratorTopology} (h : upsertEarly (some object) = none)
    (s : Store) : s.upsert (some object) =
      ((upsertPlan object s).1, ((upsertPlan object s).2.map fun edit => edit s).getD s) := by
  rw [upsertEarly] at h
  rw [Store.upsert]
  split at h
  · cases h
  · split
    · next hbuild _ hbuild' => cases hbuild.symm.trans hbuild'
    · next snapshot hbuild =>
        rw [upsertPlan_of_build hbuild]
        split_ifs <;> rfl

theorem apply_storeOps : storeOps.apply = storeEffect := by
  funext op s
  cases op with
  | read q => cases q <;> rfl
  | write w =>
      cases w with
      | upsert object =>
          cases hearly : upsertEarly object with
          | some e => simp [Ops.apply, storeOps, storeEffect, hearly, upsert_of_early hearly]
          | none =>
              cases object with
              | none => cases hearly
              | some object =>
                  simp [Ops.apply, storeOps, storeEffect, hearly, upsert_of_plan hearly]
      | delete nodeName =>
          by_cases h : nodeName ∈ s.entries
          · simp [Ops.apply, storeOps, storeEffect, h]
          · simp [Ops.apply, storeOps, storeEffect, h, Store.delete_of_absent h]

/-- **The store is linearizable.**  In every interleaving of the steps of `Upsert`, `Delete`,
`Get` and `Len` calls of any number of threads, the calls return what they would return if each of
them took effect at one moment between its call and its return, and the entries behind the pointer
are those that result. -/
theorem store_linearizable {T : Type} [DecidableEq T]
    (events : List (CopyOnWrite.Event StoreWrite StoreRead T)) :
    let concrete := traced (step storeOps) (State.start newStore) events
    ∃ atomic, (traced (atomicStep storeEffect) (Atomic.start newStore) atomic).2 = concrete.2 ∧
      (traced (atomicStep storeEffect) (Atomic.start newStore) atomic).1.value =
        concrete.1.heap concrete.1.pointer := by
  rw [← apply_storeOps]
  exact linearizable storeOps newStore events

end AcceleratorFabric.Topology
