import AcceleratorFabric.DraResources
import AcceleratorFabric.InformerHistory

/-! # The DRA publisher

`ObserveTopologies` is the second consumer of the topology informer: on every event about its
node it publishes the devices of a topology that is Ready with a fresh heartbeat, and nothing
otherwise.  `consumers_agree`: over every history of a node's object, the scheduler's cache
reports the node Ready after an event exactly if the publisher's last resources are not empty,
and then both name the same devices.  The two differ at one instant only: a heartbeat set to the
zero time counts as missing for the cache and as a heartbeat for the publisher, which still
takes it for fresh two minutes later. -/

namespace AcceleratorFabric.Dra

open GoMap AcceleratorFabric.Topology

/-- Two minutes. -/
def topologyTTL : Duration := 2 * 60 * 1000000000

inductive PublisherError where
  | convertTopology (name : String) (error : ResourcesError)
  | publishTopology (name error : String)
  | publish (error : String)
  | unexpectedDelete
  | unexpectedTombstone
deriving DecidableEq, Repr

def deletedTopology : EventObject → Except PublisherError AcceleratorTopology
  | .topology object => .ok object
  | .tombstone (some object) => .ok object
  | .tombstone none => .error .unexpectedTombstone
  | .unexpected => .error .unexpectedDelete

/-- What a handler did: the resources it published and the error it passed to `onError`. -/
structure Observed where
  published : Option DriverResources
  error : Option PublisherError
deriving DecidableEq

/-- A handler that returns without a publication. -/
def Observed.nothing : Observed := ⟨none, none⟩

section publisher

variable [Kube] [FloatConversion]

/-- The Ready condition is True for the object's generation, and the heartbeat is set and at most
two minutes old. -/
def topologyReady (object : AcceleratorTopology) (now : Time) : Bool :=
  (match Kube.findStatusCondition object.status.conditions "Ready" with
    | none => false
    | some c =>
        decide (c.status = .conditionTrue) && decide (c.observedGeneration = object.generation)) &&
  (match object.status.lastHeartbeatTime with
    | none => false
    | some heartbeat => decide (Time.sub now heartbeat ≤ topologyTTL))

variable (publish : DriverResources → Option String) (nodeName : String) (now : Time)

/-- One call of `publish`, which returns an error or nothing; `wrap` makes the error's text. -/
def publishObserved (wrap : String → PublisherError) (resources : DriverResources) : Observed :=
  match publish resources with
  | some e => ⟨none, some (wrap e)⟩
  | none => ⟨some resources, none⟩

def publishObject (object : AcceleratorTopology) : Observed :=
  if object.spec.nodeName ≠ nodeName then .nothing
  else if topologyReady object now then
    match resourcesForTopology (some object) with
    | .error e => ⟨none, some (.convertTopology object.name e)⟩
    | .ok resources => publishObserved publish (.publishTopology object.name) resources
  else publishObserved publish (.publishTopology object.name) emptyResources

/-- The object is a topology of the node. -/
def EventObject.atNode : EventObject → Bool
  | .topology object => decide (object.spec.nodeName = nodeName)
  | _ => false

/-- The handlers `ObserveTopologies` registers. -/
def observeTopologies : Topology.Event → Observed
  | .add (.topology object) => publishObject publish nodeName now object
  | .add _ => .nothing
  | .update oldObject newObject =>
      if EventObject.atNode nodeName oldObject && !EventObject.atNode nodeName newObject then
        publishObserved publish .publish emptyResources
      else match newObject with
        | .topology object => publishObject publish nodeName now object
        | _ => .nothing
  | .delete object =>
      match deletedTopology object with
      | .error e => ⟨none, some e⟩
      | .ok topology =>
          if topology.spec.nodeName = nodeName then
            publishObserved publish .publish emptyResources
          else .nothing

end publisher

/-! ### Both consumers of one history -/

namespace Consumers

open Informer (Delivery BuiltFrom lookup_upsert lookup_delete)

/-- A delivery about the node's object, which both consumers handle at the instant `now`. -/
structure Moment where
  now : Time
  delivery : Delivery

/-- The version that is live after the delivery. -/
def Moment.version (m : Moment) : Option AcceleratorTopology :=
  match m.delivery with
  | .added o => some o
  | .updated _ new => some new
  | .deleted _ _ => none

section history

variable [Kube] [FloatConversion]

/-- The live version of the object, the scheduler's cache and what the publisher published last;
every call of `publish` succeeds. -/
structure World where
  live : Option AcceleratorTopology
  store : Store
  last : DriverResources

def World.start : World := ⟨none, newStore, emptyResources⟩

variable (nodeName : String) (specOf : ℤ → AcceleratorTopologySpec)

def World.step (w : World) (m : Moment) : World where
  live := m.version
  store := (handle w.store m.delivery.event).1
  last := (observeTopologies (fun _ => none) nodeName m.now m.delivery.event).published.getD w.last

/-- A version of the node's object: its spec is valid and given by its generation. -/
structure IsVersion (o : AcceleratorTopology) : Prop where
  nodeName_eq : o.spec.nodeName = nodeName
  valid : ∃ snapshot, build o.spec = .ok snapshot
  spec_eq : o.spec = specOf o.generation

/-- What the informer can deliver: generations do not decrease between an addition and the
deletion that matches it. -/
def Valid (w : World) (m : Moment) : Prop :=
  match m.delivery with
  | .added o => w.live = none ∧ IsVersion nodeName specOf o
  | .updated old new => w.live = some old ∧ IsVersion nodeName specOf new ∧
      old.generation ≤ new.generation
  | .deleted o _ => w.live.isSome = true ∧ o.spec.nodeName = nodeName

/-- At least two minutes after the zero time; at that very instant no heartbeat is the zero
time. -/
def Timely (m : Moment) : Prop :=
  topologyTTL ≤ m.now ∧
    ∀ o, m.version = some o → o.status.lastHeartbeatTime = some 0 → m.now ≠ topologyTTL

/-- A device of the name is published in some pool. -/
def IsPublished (resources : DriverResources) (name : String) : Prop :=
  ∃ pool devices, resources.lookup pool = some devices ∧ name ∈ devices.map (·.name)

/-- The cache reports the node Ready exactly if the published resources are not empty, and then
the published names are the IDs of the cached snapshot. -/
def Agrees (now : Time) (w : World) : Prop :=
  ((w.store.get nodeName now topologyTTL).availability = .ready ↔ ∃ x, IsPublished w.last x) ∧
  ((w.store.get nodeName now topologyTTL).availability = .ready →
    ∃ snapshot, (w.store.get nodeName now topologyTTL).snapshot = some snapshot ∧
      ∀ x, IsPublished w.last x ↔ x ∈ snapshot.devices.map (·.id))

/-! ### One version -/

omit [FloatConversion] in
theorem topologyReady_eq (o : AcceleratorTopology) (now : Time) : topologyReady o now = true ↔
    readyForGeneration o = true ∧ ∃ t, o.status.lastHeartbeatTime = some t ∧
      Time.sub now t ≤ topologyTTL := by
  unfold topologyReady
  rw [Bool.and_eq_true]
  refine and_congr Iff.rfl ?_
  cases o.status.lastHeartbeatTime with
  | none => simp
  | some t => simp

omit [Kube] [FloatConversion] in
theorem fresh_iff (age : Duration) :
    ¬ (0 < topologyTTL ∧ topologyTTL < age) ↔ age ≤ topologyTTL := by
  have hpos : (0 : ℤ) < topologyTTL := by decide
  rw [not_and, not_lt]
  exact ⟨fun h => h hpos, fun h _ => h⟩

omit [Kube] [FloatConversion] in
/-- Two minutes after the zero time, the zero time is too old. -/
theorem sub_zero_not_fresh {now : Time} (hnow : topologyTTL < now) :
    ¬ Time.sub now 0 ≤ topologyTTL := by
  have hlt : (120000000000 : ℤ) < now := hnow
  have hsub : (120000000000 : ℤ) < max (-2 ^ 63) (min (2 ^ 63 - 1) (now - 0)) := by omega
  exact not_le.mpr hsub

omit [FloatConversion] in
/-- The cache and the publisher judge a version alike. -/
theorem get_ready_iff {s : Store} {o : AcceleratorTopology} {now : Time}
    (hentry : BuiltFrom o (s.entries.lookup nodeName)) (hnow : topologyTTL ≤ now)
    (hzero : o.status.lastHeartbeatTime = some 0 → now ≠ topologyTTL) :
    (s.get nodeName now topologyTTL).availability = .ready ↔ topologyReady o now = true := by
  obtain ⟨snapshot, _, hlook⟩ := hentry
  rw [Store.get_of_lookup hlook, topologyReady_eq]
  have hready : (resultOf o snapshot).availability = .ready ↔ readyForGeneration o = true := by
    unfold resultOf
    simp only
    split_ifs with h <;> simp [h]
  refine and_congr hready ?_
  have hheart : (resultOf o snapshot).lastHeartbeatTime = o.status.lastHeartbeatTime.getD 0 := rfl
  rw [hheart]
  cases hh : o.status.lastHeartbeatTime with
  | none => simp
  | some t =>
      simp only [Option.getD_some, Option.some.injEq, exists_eq_left']
      by_cases ht : t = 0
      · -- the zero time is no heartbeat for the cache, and too old for the publisher
        subst ht
        have hlater : topologyTTL < now := lt_of_le_of_ne hnow (Ne.symm (hzero hh))
        exact ⟨fun h => absurd rfl h.1, fun h => absurd h (sub_zero_not_fresh hlater)⟩
      · rw [fresh_iff]
        exact ⟨fun h => h.2, fun h => ⟨ht, h⟩⟩

/-! ### What is published -/

/-- The resources that belong to a version at the given instant. -/
def resourcesAt (now : Time) : Option AcceleratorTopology → DriverResources
  | none => emptyResources
  | some o =>
      if topologyReady o now then
        Finmap.singleton o.spec.nodeName (o.spec.devices.map (Dra.publish o.spec))
      else emptyResources

variable {nodeName specOf}

theorem publishObject_published {o : AcceleratorTopology} (ho : IsVersion nodeName specOf o)
    (now : Time) : (publishObject (fun _ => none) nodeName now o).published =
      some (resourcesAt now (some o)) := by
  obtain ⟨snapshot, hs⟩ := ho.valid
  simp only [publishObject, resourcesAt, resourcesForTopology, hs]
  rw [if_neg (not_not.mpr ho.nodeName_eq)]
  split_ifs <;> rfl

/-- After a delivery the published resources are those of the live version. -/
theorem last_step {w : World} {m : Moment} (hv : Valid nodeName specOf w m) :
    (w.step nodeName m).last = resourcesAt m.now m.version := by
  have hpublished : (observeTopologies (fun _ => none) nodeName m.now m.delivery.event).published =
      some (resourcesAt m.now m.version) := by
    unfold Valid at hv
    unfold Moment.version
    cases hd : m.delivery with
    | added o =>
        rw [hd] at hv
        exact publishObject_published hv.2 m.now
    | updated old new =>
        rw [hd] at hv
        have hat : EventObject.atNode nodeName (.topology new) = true :=
          decide_eq_true hv.2.1.nodeName_eq
        simp only [Delivery.event, observeTopologies, hat, Bool.not_true, Bool.and_false]
        exact publishObject_published hv.2.1 m.now
    | deleted o missed =>
        rw [hd] at hv
        cases missed <;> simp [Delivery.event, observeTopologies, deletedTopology, hv.2,
          publishObserved, resourcesAt]
  simp only [World.step, hpublished, Option.getD_some]

omit [Kube] [FloatConversion] in
theorem not_isPublished_empty (x : String) : ¬ IsPublished emptyResources x := by
  rintro ⟨pool, devices, h, _⟩
  simp [emptyResources] at h

omit [Kube] [FloatConversion] in
theorem isPublished_singleton (pool : String) (devices : List Device) (x : String) :
    IsPublished (Finmap.singleton pool devices) x ↔ x ∈ devices.map (·.name) := by
  constructor
  · rintro ⟨pool', devices', h, hx⟩
    by_cases hp : pool' = pool
    · rw [hp, Finmap.lookup_singleton_eq] at h
      cases h
      exact hx
    · have hnone : (Finmap.singleton pool devices : DriverResources).lookup pool' = none := by
        rw [Finmap.lookup_eq_none, Finmap.mem_singleton]
        exact hp
      rw [hnone] at h
      cases h
  · intro hx
    exact ⟨pool, devices, Finmap.lookup_singleton_eq, hx⟩

/-! ### Runs -/

/-- The cache holds the live version, and nothing without one. -/
structure Follows (nodeName : String) (specOf : ℤ → AcceleratorTopologySpec) (w : World) :
    Prop where
  gone : w.live = none → w.store.entries.lookup nodeName = none
  live : ∀ o, w.live = some o → IsVersion nodeName specOf o ∧
    BuiltFrom o (w.store.entries.lookup nodeName)

omit [FloatConversion] in
theorem follows_of_live {w : World} {o : AcceleratorTopology} (hlive : w.live = some o)
    (ho : IsVersion nodeName specOf o) (hbuilt : BuiltFrom o (w.store.entries.lookup nodeName)) :
    Follows nodeName specOf w := by
  constructor
  · intro hgone
    rw [hlive] at hgone
    cases hgone
  · intro o' ho'
    rw [hlive] at ho'
    cases ho'
    exact ⟨ho, hbuilt⟩

theorem Follows.step {w : World} (h : Follows nodeName specOf w) {m : Moment}
    (hv : Valid nodeName specOf w m) : Follows nodeName specOf (w.step nodeName m) := by
  unfold Valid at hv
  cases hd : m.delivery with
  | added o =>
      rw [hd] at hv
      obtain ⟨hnone, ho⟩ := hv
      obtain ⟨snapshot, hs⟩ := ho.valid
      have hlive : (w.step nodeName m).live = some o := by simp [World.step, Moment.version, hd]
      have hstore : (w.step nodeName m).store = (w.store.upsert (some o)).2 := by
        simp only [World.step, hd, Delivery.event]
        exact handle_add _ _
      refine follows_of_live hlive ho ⟨snapshot, hs, ?_⟩
      rw [hstore, lookup_upsert _ hs, if_pos ho.nodeName_eq.symm, h.gone hnone]
      rfl
  | updated old new =>
      rw [hd] at hv
      obtain ⟨hold, hnew, hgen⟩ := hv
      obtain ⟨snapshot, hs⟩ := hnew.valid
      obtain ⟨hversion, sold, _, hentry⟩ := h.live old hold
      have hlive : (w.step nodeName m).live = some new := by simp [World.step, Moment.version, hd]
      have hstore : (w.step nodeName m).store = (w.store.upsert (some new)).2 := by
        simp only [World.step, hd, Delivery.event]
        exact handle_update _ _ _
      -- with equal generations the specs are equal, so the new version is never the older one
      have hle : generations old ≤ generations new := by
        unfold generations
        rw [Prod.Lex.toLex_le_toLex]
        rcases lt_or_eq_of_le hgen with hlt | heq
        · exact .inl hlt
        · refine .inr ⟨heq, ?_⟩
          rw [hversion.spec_eq, hnew.spec_eq, heq]
      refine follows_of_live hlive hnew ⟨snapshot, hs, ?_⟩
      rw [hstore, lookup_upsert _ hs, if_pos hnew.nodeName_eq.symm, hentry, Informer.accept,
        generations_resultOf, generations_resultOf, if_neg (not_lt.mpr hle)]
  | deleted o missed =>
      rw [hd] at hv
      have hlive : (w.step nodeName m).live = none := by simp [World.step, Moment.version, hd]
      have hstore : (w.step nodeName m).store = w.store.delete o.spec.nodeName := by
        simp only [World.step, hd]
        cases missed <;> rfl
      constructor
      · intro _
        rw [hstore, lookup_delete, if_pos hv.2.symm]
      · intro o' ho'
        rw [hlive] at ho'
        cases ho'

omit [FloatConversion] in
/-- A reader gets the snapshot of the entry, fresh or not. -/
theorem get_snapshot {s : Store} {r : Result} (h : s.entries.lookup nodeName = some r)
    (now : Time) (ttl : Duration) : (s.get nodeName now ttl).snapshot = r.snapshot := by
  simp only [Store.get, h]
  split_ifs <;> rfl

/-- After a delivery both consumers agree. -/
theorem Follows.agrees {w : World} (h : Follows nodeName specOf w) {m : Moment}
    (hv : Valid nodeName specOf w m) (ht : Timely m) :
    Agrees nodeName m.now (w.step nodeName m) := by
  have hnext := h.step hv
  have hlast := last_step hv
  have hlive : (w.step nodeName m).live = m.version := rfl
  unfold Agrees
  cases hversion : m.version with
  | none =>
      have hget := Store.get_of_lookup_none (hnext.gone (hlive.trans hversion)) m.now topologyTTL
      rw [hlast, hversion, hget]
      simp [resourcesAt, not_isPublished_empty]
  | some o =>
      obtain ⟨ho, hbuilt⟩ := hnext.live o (hlive.trans hversion)
      have hready := get_ready_iff nodeName hbuilt ht.1 (ht.2 o hversion)
      obtain ⟨snapshot, hs, hentry⟩ := hbuilt
      obtain ⟨ha, hdata⟩ := (build_eq_ok_iff o.spec snapshot).mp hs
      rw [hready, hlast, hversion]
      cases htr : topologyReady o m.now with
      | false => simp [resourcesAt, htr, not_isPublished_empty]
      | true =>
          have hnames : ∀ x, IsPublished (resourcesAt m.now (some o)) x ↔
              x ∈ snapshot.devices.map (·.id) := by
            intro x
            rw [resourcesAt, if_pos htr, isPublished_singleton, List.map_map,
              ((snapshot.devices_perm hdata).map _).mem_iff]
            rfl
          obtain ⟨d, hd⟩ := List.exists_mem_of_ne_nil _ ha.devices_ne
          have hsome : d.id ∈ snapshot.devices.map (·.id) :=
            List.mem_map_of_mem ((snapshot.devices_perm hdata).mem_iff.mpr hd)
          refine ⟨⟨fun _ => ⟨d.id, (hnames d.id).mpr hsome⟩, fun _ => rfl⟩, fun _ => ?_⟩
          exact ⟨snapshot, get_snapshot hentry m.now topologyTTL, hnames⟩

omit [FloatConversion] in
theorem follows_start : Follows nodeName specOf World.start := by
  constructor
  · intro _
    simp [World.start, newStore]
  · intro o ho
    cases ho

/-- **Cache and publisher agree on what is usable.**  Over every history of a node's object with
valid specs that are a function of the generation, and generations that do not decrease: after
each delivery the cache reports the node Ready exactly if the last published resources are not
empty, and then they name the devices of the cached snapshot. -/
theorem consumers_agree (nodeName : String) (specOf : ℤ → AcceleratorTopologySpec)
    (ms : List Moment)
    (hvalid : Runs.Along (World.step nodeName) (Valid nodeName specOf) World.start ms)
    (htimely : ∀ m ∈ ms, Timely m) (before after : List Moment) (m : Moment)
    (hms : ms = before ++ m :: after) :
    Agrees nodeName m.now (Runs.run (World.step nodeName) World.start (before ++ [m])) := by
  obtain ⟨hbefore, hm⟩ := Runs.along_append.mp (hms ▸ hvalid)
  have hfollows := Runs.invariant_run (Follows nodeName specOf)
    (fun _ _ h hv => h.step hv) before World.start follows_start hbefore
  rw [Runs.run_concat]
  exact hfollows.agrees hm.1 (htimely m (by rw [hms]; simp))

end history

/-- A Ready version of the object of `worker` with the given heartbeat. -/
def sampleVersion (heartbeat : Time) : AcceleratorTopology :=
  let o := sampleTopology 1 (sampleSpec [sampleDevice "gpu0"] [])
  { o with status := { o.status with lastHeartbeatTime := some heartbeat } }

/-- What the informer delivers first. -/
def sampleMoment (heartbeat now : Time) : Moment := ⟨now, .added (sampleVersion heartbeat)⟩

theorem valid_sampleMoment (heartbeat now : Time) :
    let : Kube := sampleKube
    let : FloatConversion := amd64
    Runs.Along (World.step "worker") (Valid "worker" (fun _ => (sampleVersion heartbeat).spec))
      World.start [sampleMoment heartbeat now] := by
  intro kube conversion
  exact ⟨⟨rfl, rfl, ⟨_, rfl⟩, rfl⟩, trivial⟩

/-- A heartbeat one nanosecond after the zero time, two minutes after the zero time. -/
theorem consumers_agree_on_fresh_version :
    let : Kube := sampleKube
    let : FloatConversion := amd64
    Agrees "worker" topologyTTL
      (Runs.run (World.step "worker") World.start [sampleMoment 1 topologyTTL]) := by
  intro kube conversion
  refine consumers_agree "worker" (fun _ => (sampleVersion 1).spec) [sampleMoment 1 topologyTTL]
    (valid_sampleMoment 1 topologyTTL) ?_ [] [] (sampleMoment 1 topologyTTL) rfl
  rw [List.forall_mem_singleton]
  refine ⟨le_refl _, ?_⟩
  rintro o ⟨⟩ hzero
  revert hzero
  decide

/-- Two minutes after the zero time, a heartbeat that is the zero time itself is stale for the
cache and fresh for the publisher. -/
theorem zero_heartbeat_disagrees :
    ¬ ∀ (_ : Kube) (_ : FloatConversion) (nodeName : String)
      (specOf : ℤ → AcceleratorTopologySpec) (ms : List Moment),
        Runs.Along (World.step nodeName) (Valid nodeName specOf) World.start ms →
        (∀ m ∈ ms, topologyTTL ≤ m.now) → ∀ before after m, ms = before ++ m :: after →
          Agrees nodeName m.now (Runs.run (World.step nodeName) World.start (before ++ [m])) := by
  intro h
  let : Kube := sampleKube
  let : FloatConversion := amd64
  have hvalid := valid_sampleMoment 0 topologyTTL
  have hagrees := h sampleKube amd64 "worker" _ [sampleMoment 0 topologyTTL] hvalid
    (by simp [sampleMoment]) [] [] (sampleMoment 0 topologyTTL) rfl
  have hstale : ((Runs.run (World.step "worker") World.start
      [sampleMoment 0 topologyTTL]).store.get "worker" topologyTTL topologyTTL).availability =
        .stale := by decide
  have hlast : (Runs.run (World.step "worker") World.start [sampleMoment 0 topologyTTL]).last =
      resourcesAt topologyTTL (some (sampleVersion 0)) := last_step hvalid.1
  have hpublished : IsPublished (resourcesAt topologyTTL (some (sampleVersion 0))) "gpu0" := by
    have hready : topologyReady (sampleVersion 0) topologyTTL = true := by decide
    rw [resourcesAt, if_pos hready, isPublished_singleton]
    decide
  rw [← hlast] at hpublished
  have hready := hstale.symm.trans (hagrees.1.mpr ⟨"gpu0", hpublished⟩)
  cases hready

end Consumers
end AcceleratorFabric.Dra
