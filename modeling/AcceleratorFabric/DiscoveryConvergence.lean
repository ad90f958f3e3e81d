import AcceleratorFabric.ControlPlane

/-! # The scheduler gets to see what was discovered

As long as nobody deletes the object of a node, its generations never go back from one version to
the next, so the cache takes every version that its informer delivers.  A `Reconcile` that returned
without an error left its finding in the object, if its retry loop is as documented, and nobody but
the next one takes it away.

* `scheduler_sees_discovery`: when the agent is done, the controller has nothing to report and the
  informer has delivered the stored version, the scheduler reads the graph that was found last. -/

namespace AcceleratorFabric.ControlPlane

open GoMap ApiServer Discovery Runs AcceleratorFabric.Topology AcceleratorFabric.TopologyFit
open Topology.Informer (Delivery)

/-! ### What a successful `Reconcile` leaves -/

/-- The finding is what is stored. -/
def Stores (f : TopologySpec) (s : Slot TopologyObject) : Prop :=
  ∃ p, s.stored = some p ∧ p.2.spec.content = f.decoded.content

/-- The request neither deletes nor changes the spec. -/
def KeepsSpec {E : Type} : Request TopologyObject E → Prop
  | .update _ change => ∀ old new, change old = .ok new →
      new.spec = old.spec ∧ new.generation = old.generation
  | .delete => False
  | _ => True

/-- The generations of an object, as the cache compares them. -/
def objectGenerations (object : TopologyObject) : ℤ ×ₗ ℤ :=
  toLex (object.generation, object.spec.observedGeneration)

theorem generations_view (p : ℕ × TopologyObject) :
    generations (view p) = objectGenerations p.2 := rfl

section agent

variable {E : Type} {f : TopologySpec} {s : Slot TopologyObject}

theorem Stores.serve (h : Stores f s) {r : Request TopologyObject E} (hr : KeepsSpec r) :
    Stores f (ApiServer.serve s r).slot := by
  obtain ⟨p, hp, hcontent⟩ := h
  have hcarried := carried_serve s r
  generalize (ApiServer.serve s r).slot = s', (ApiServer.serve s r).effects = effects at hcarried ⊢
  cases hcarried with
  | nothing => exact ⟨p, hp, hcontent⟩
  | created hfree =>
      rw [hfree] at hp
      cases hp
  | @updated _ _ old new hcurrent hchanged =>
      rw [hcurrent] at hp
      cases hp
      exact ⟨_, rfl, by rw [(hr old new hchanged).1]; exact hcontent⟩
  | deleted _ => exact hr.elim

theorem raises_of_keepsSpec {r : Request TopologyObject E} (h : KeepsSpec r) :
    Raises objectGenerations r := by
  cases r with
  | update version change =>
      intro old new hnew
      obtain ⟨hspec, hgeneration⟩ := h old new hnew
      unfold objectGenerations
      rw [hspec, hgeneration]
  | get => exact trivial
  | create object => exact trivial
  | delete => exact h.elim

/-- A new spec is a new generation, and the same spec has the same `observedGeneration`. -/
theorem objectGenerations_le_updateObject (new old : TopologyObject) :
    objectGenerations old ≤ objectGenerations (updateObject new old) := by
  unfold objectGenerations updateObject
  rw [Prod.Lex.toLex_le_toLex]
  simp only
  split_ifs with hsame
  · exact .inr ⟨rfl, by rw [hsame]⟩
  · exact .inl (by omega)

/-- The last request of an attempt, if what it stores is the finding. -/
theorem post_send_stores {r : Request TopologyObject E}
    (hr : ∀ s p, (ApiServer.serve s r).answer = .ok p → Stores f (ApiServer.serve s r).slot) :
    (send r).Post (fun result s' _ => result = .ok () → Stores f s') s := by
  intro turn hresult
  cases hanswer : (take turn s r).answer with
  | error e =>
      rw [hanswer] at hresult
      cases hresult
  | ok p =>
      obtain ⟨_, htake⟩ := serve_of_take_ok hanswer
      rw [htake] at hanswer ⊢
      exact hr _ p hanswer

theorem post_attempt_stores (agent : Agent) (f : TopologySpec) (now : String)
    (s : Slot TopologyObject) : (attempt agent f now : TopologyClient E).Post
      (fun result s' _ => result = .ok () → Stores f s') s := by
  intro turn
  cases hanswer : (take turn s (.get : Request TopologyObject E)).answer with
  | error e =>
      cases e with
      | notFound =>
          refine post_send_stores fun s' p hp => ?_
          obtain ⟨hstored, hobject⟩ := stored_after_create hp
          exact ⟨p, hstored, by rw [hobject]; rfl⟩
      | _ =>
          intro hresult
          cases hresult
  | ok p =>
      obtain ⟨version, current⟩ := p
      simp only
      split
      · intro hresult
        cases hresult
      · refine post_send_stores fun s' p hp => ?_
        obtain ⟨hstored, old, hchange⟩ := stored_after_update hp
        refine ⟨p, hstored, ?_⟩
        rw [← Except.ok.inj hchange]
        exact (spec_updateObject agent f now current).1

/-- **A `Reconcile` that returns without an error has stored its finding.** -/
theorem post_reconcile_stores [RetryLoop] [LawfulRetryLoop] (agent : Agent) (f : TopologySpec)
    (now : ℕ → String) (s : Slot TopologyObject) :
    (reconcile agent (.ok f) now : TopologyClient E).Post
      (fun result s' _ => result = .ok () → Stores f s') s := by
  simp only [reconcile]
  split_ifs
  · intro hresult
    cases hresult
  · refine (LawfulRetryLoop.documented _ _).post
      (fun n s => post_attempt_stores agent f (now n) s) ?_ (fun _ _ _ _ _ _ _ _ h => h) s
    -- nil is returned for a success only
    rintro a b s' _ hreturns ha rfl
    cases hreturns
    exact ha rfl

theorem raises_reconcile [RetryLoop] [RetriesConflicts] (agent : Agent)
    (discovered : Except String TopologySpec) (now : ℕ → String) :
    (reconcile agent discovered now : TopologyClient E).Asks (fun _ => True)
      (Raises objectGenerations) := by
  cases discovered with
  | error cause => exact trivial
  | ok f =>
      simp only [reconcile]
      split_ifs
      · exact trivial
      · refine (RetriesConflicts.retries _ _).asks fun n => ?_
        refine ⟨trivial, fun answer _ => ?_⟩
        cases answer with
        | error e =>
            cases e with
            | notFound => exact ⟨trivial, fun _ _ => trivial⟩
            | _ => exact trivial
        | ok p =>
            simp only
            split
            · exact trivial
            · refine ⟨fun old new hnew => ?_, fun _ _ => trivial⟩
              rw [← Except.ok.inj hnew]
              exact objectGenerations_le_updateObject _ old

end agent

/-! ### Lanes without deletions -/

section lanes

variable [Kube] {E : Type} {l : Lane E}

/-- The event does not delete the object. -/
def LaneEvent.Spares : LaneEvent E → Prop
  | .other r => r ≠ .delete
  | _ => True

/-- The agent has returned from the `Reconcile` of the finding without an error. -/
structure Lane.Returned (l : Lane E) (f : TopologySpec) : Prop where
  idle : l.running = none
  last_eq : l.last = some (.ok f, .ok ())

/-- The generations only grow, and a finding stays from the end of its `Reconcile` on. -/
structure Lane.Tracks (l : Lane E) : Prop where
  grows : Grows objectGenerations l.past l.slot
  raises : ∀ discovered client, l.running = some (discovered, client) →
    client.Asks (fun _ => True) (Raises objectGenerations)
  publishes : ∀ f client, l.running = some (.ok f, client) →
    client.Post (fun result s _ => result = .ok () → Stores f s) l.slot
  returned : ∀ f, l.Returned f → Stores f l.slot

omit [Kube] in
theorem Lane.tracks_start : (Lane.start : Lane E).Tracks :=
  ⟨grows_empty _, (fun _ _ h => nomatch h), (fun _ _ h => nomatch h), fun _ h => nomatch h.last_eq⟩

omit [Kube] in
theorem keepsSpec_statusUpdate (version : ℕ) (status : AcceleratorTopologyStatus) :
    KeepsSpec
      (statusRequest (E := E) (.update version (TopologyController.updateStatus status))) := by
  intro old new hnew
  cases hnew
  exact ⟨rfl, rfl⟩

omit [Kube] in
theorem keepsSpec_of_leaves {r : Request TopologyObject E} (h : Lane.Leaves r)
    (hdelete : r ≠ .delete) : KeepsSpec r := by
  cases r with
  | create object => exact h.elim
  | update version change => exact h
  | get => exact trivial
  | delete => exact absurd rfl hdelete

omit [Kube] in
/-- A request of somebody other than the agent. -/
theorem Lane.Tracks.serve (h : l.Tracks) {r : Request TopologyObject E} (hr : KeepsSpec r) :
    (l.write (ApiServer.serve l.slot r).slot).Tracks := by
  refine ⟨h.grows.carried (carried_serve l.slot r) (raises_of_keepsSpec hr), h.raises, ?_, ?_⟩
  · intro f client hrunning
    exact (h.publishes f client hrunning).serve fun _ _ hstores hresult => (hstores hresult).serve hr
  · intro f hreturned
    exact (h.returned f ⟨hreturned.idle, hreturned.last_eq⟩).serve hr

theorem Lane.Tracks.step [RetryLoop] [LawfulRetryLoop] (h : l.Tracks) (agent : Agent)
    {e : LaneEvent E} (hpossible : l.Possible e) (hspares : e.Spares) : (l.step agent e).Tracks := by
  cases e with
  | reconcile discovered now =>
      simp only [Lane.step]
      split
      · exact h
      · refine ⟨h.grows, fun d client hrunning => ?_, fun f client hrunning => ?_,
          fun _ hreturned => by cases hreturned.idle⟩
        · cases hrunning
          exact raises_reconcile agent discovered now
        · cases hrunning
          exact post_reconcile_stores agent f now l.slot
  | proceed lost =>
      simp only [Lane.step]
      split
      · exact h
      · next discovered result hrunning =>
          refine ⟨h.grows, (fun _ _ hnone => by cases hnone), (fun _ _ hnone => by cases hnone), ?_⟩
          intro f hreturned
          cases hreturned.last_eq
          exact h.publishes f _ hrunning rfl
      · next discovered r next hrunning =>
          obtain ⟨hr, hnext⟩ := h.raises discovered _ hrunning
          refine ⟨h.grows.carried (carried_take ⟨[], lost⟩ l.slot r) hr, fun d client hclient => ?_,
            fun f client hclient => ?_, fun _ hreturned => by cases hreturned.idle⟩
          · cases hclient
            exact hnext _ fun _ _ => trivial
          · cases hclient
            exact h.publishes f _ hrunning ⟨[], lost⟩
  | sync version now lost =>
      simp only [Lane.step]
      rcases synced_cases l version now lost with hsame | hserved
      · rw [hsame]
        exact ⟨h.grows.same, h.raises, h.publishes,
          fun f hreturned => h.returned f ⟨hreturned.idle, hreturned.last_eq⟩⟩
      · rw [hserved]
        exact h.serve (keepsSpec_statusUpdate _ _)
  | other r => exact h.serve (keepsSpec_of_leaves hpossible hspares)

end lanes

/-! ### The cache of the scheduler -/

section cluster

variable [Kube] {E : Type} {provider : String → String}

/-- The event does not delete the object of the node. -/
def ClusterEvent.Spares (node : String) : ClusterEvent E → Prop
  | .lane n e => n = node → e.Spares
  | .remove n _ => n ≠ node
  | _ => True

namespace Cluster

variable {c : Cluster E} {node : String}

def lookup (c : Cluster E) (node : String) : Option Result :=
  c.scheduler.plugin.store.entries.lookup node

/-- The entry of the node is not newer than the version that the informer has, and is made of it
if `Build` accepts it. -/
structure Fresh (c : Cluster E) (node : String) : Prop where
  unseen : (c.lane node).seen = none → c.lookup node = none
  bounded : ∀ p r, (c.lane node).seen = some p → c.lookup node = some r →
    ∃ q ∈ (c.lane node).past, q.1 ≤ p.1 ∧ r.generations = objectGenerations q.2
  delivered : ∀ p snapshot, (c.lane node).seen = some p → build (view p).spec = .ok snapshot →
    c.lookup node = some (resultOf (view p) snapshot)

structure Tracks (c : Cluster E) (node : String) : Prop where
  sound : c.Sound
  lane : (c.lane node).Tracks
  fresh : c.Fresh node

theorem tracks_start (lister : PolicyLister) (now : Time) (node : String) :
    (start lister now : Cluster E).Tracks node where
  sound := sound_start lister now
  lane := Lane.tracks_start
  fresh := ⟨fun _ => rfl, (fun _ _ h => nomatch h), fun _ _ h => nomatch h⟩

/-- Nothing happens to the informer and the cache of the node. -/
theorem Fresh.congr {c' : Cluster E} (h : c.Fresh node)
    (hseen : (c'.lane node).seen = (c.lane node).seen)
    (hpast : ∀ p ∈ (c.lane node).past, p ∈ (c'.lane node).past)
    (hlookup : c'.lookup node = c.lookup node) : c'.Fresh node := by
  refine ⟨?_, ?_, ?_⟩
  · rw [hseen, hlookup]
    exact h.unseen
  · rw [hseen, hlookup]
    intro p r hp hr
    obtain ⟨q, hq, hrest⟩ := h.bounded p r hp hr
    exact ⟨q, hpast q hq, hrest⟩
  · rw [hseen, hlookup]
    exact h.delivered

/-- The cache takes the version that is delivered, unless it is invalid. -/
theorem Tracks.lookup_upsert (h : c.Tracks node) {version : ℕ × TopologyObject}
    (hversion : version ∈ (c.lane node).past) (hlater : ∀ p ∈ (c.lane node).seen, p.1 ≤ version.1) :
    let entry := (c.scheduler.plugin.store.upsert (some (view version))).2.entries.lookup node
    (∃ snapshot, build (view version).spec = .ok snapshot ∧
      entry = some (resultOf (view version) snapshot)) ∨
    (∀ snapshot, build (view version).spec ≠ .ok snapshot) ∧ entry = c.lookup node := by
  intro entry
  have hnode := h.sound.nodeName_eq hversion
  rcases c.scheduler.plugin.store.upsert_cases (view version) with
    ⟨hreason, e, hdropped⟩ | ⟨_, _, snapshot, hbuild, _, hentries⟩
  · have hsame : entry = c.lookup node := by
      simp only [entry, hdropped]
      rfl
    rcases hreason with hinvalid | ⟨r, hr, hold⟩
    · exact .inr ⟨fun snapshot hbuild => hinvalid ((build_isOk_iff _).mp ⟨snapshot, hbuild⟩), hsame⟩
    · -- the entry is that of an earlier version, whose generations are not above these
      exfalso
      rw [hnode] at hr
      cases hseen : (c.lane node).seen with
      | none => cases (h.fresh.unseen hseen).symm.trans hr
      | some p =>
          obtain ⟨q, hq, hle, hgenerations⟩ := h.fresh.bounded p r hseen hr
          have horder := h.lane.grows.ordered q hq version hversion (hle.trans (hlater p hseen))
          rw [olderThan_iff, hgenerations, generations_view] at hold
          exact absurd hold (not_lt.mpr horder)
  · refine .inl ⟨snapshot, hbuild, ?_⟩
    simp only [entry, hentries, lookup_insert_ite, hnode, if_true]

/-- A step that leaves the node alone. -/
theorem Tracks.elsewhere {c' : Cluster E} (h : c.Tracks node) (hsound : c'.Sound)
    (hlane : c'.lane node = c.lane node) (hlookup : c'.lookup node = c.lookup node) :
    c'.Tracks node := by
  refine ⟨hsound, ?_, h.fresh.congr ?_ ?_ hlookup⟩ <;> rw [hlane]
  · exact h.lane
  · exact fun _ hp => hp

theorem Tracks.fresh_deliver {c' : Cluster E} (h : c.Tracks node) {version : ℕ × TopologyObject}
    (hversion : version ∈ (c.lane node).past) (hlater : ∀ p ∈ (c.lane node).seen, p.1 ≤ version.1)
    (hseen : (c'.lane node).seen = some version) (hpast : (c'.lane node).past = (c.lane node).past)
    (hlookup : c'.lookup node =
      (c.scheduler.plugin.store.upsert (some (view version))).2.entries.lookup node) :
    c'.Fresh node := by
  have hunseen : (c'.lane node).seen ≠ none := by
    rw [hseen]
    simp
  rcases h.lookup_upsert hversion hlater with ⟨snapshot, hbuild, hentry⟩ | ⟨hbad, hentry⟩
  · rw [← hlookup] at hentry
    refine ⟨fun hnone => absurd hnone hunseen, fun p r hp hr => ?_, fun p snapshot' hp hbuild' => ?_⟩
    · cases hseen.symm.trans hp
      cases hentry.symm.trans hr
      rw [hpast]
      exact ⟨version, hversion, le_rfl, rfl⟩
    · cases hseen.symm.trans hp
      cases hbuild.symm.trans hbuild'
      exact hentry
  · rw [← hlookup] at hentry
    refine ⟨fun hnone => absurd hnone hunseen, fun p r hp hr => ?_, fun p snapshot' hp hbuild' => ?_⟩
    · cases hseen.symm.trans hp
      rw [hentry] at hr
      rw [hpast]
      cases hold : (c.lane node).seen with
      | none => cases (h.fresh.unseen hold).symm.trans hr
      | some p =>
          obtain ⟨q, hq, hle, hgenerations⟩ := h.fresh.bounded p r hold hr
          exact ⟨q, hq, hle.trans (hlater p hold), hgenerations⟩
    · cases hseen.symm.trans hp
      exact absurd hbuild' (hbad snapshot')

/-- A version of another node does not touch the entry. -/
theorem Sound.lookup_upsert_of_ne (h : c.Sound) {n : String} (hn : node ≠ n)
    {version : ℕ × TopologyObject} (hversion : version ∈ (c.lane n).past) :
    (c.scheduler.plugin.store.upsert (some (view version))).2.entries.lookup node =
      c.lookup node := by
  rcases c.scheduler.plugin.store.upsert_cases (view version) with
    ⟨_, e, hdropped⟩ | ⟨_, _, snapshot, _, _, hentries⟩
  · rw [hdropped]
    rfl
  · rw [hentries, lookup_insert_ite, h.nodeName_eq hversion, if_neg hn]
    rfl

theorem Tracks.step [RetryLoop] [LawfulRetryLoop] (h : c.Tracks node) {e : ClusterEvent E}
    (hpossible : c.Possible e) (hspares : e.Spares node) : (c.step provider e).Tracks node := by
  have hsound : (c.step provider e).Sound := h.sound.step hpossible
  cases e with
  | lane n e =>
      by_cases hn : node = n
      · subst hn
        have hlane : ((c.step provider (.lane node e)).lane node) =
            (c.lane node).step ⟨node, provider node⟩ e := Function.update_self _ _ _
        refine ⟨hsound, ?_, h.fresh.congr ?_ ?_ rfl⟩
        · rw [hlane]
          exact h.lane.step _ hpossible (hspares rfl)
        · rw [hlane, Lane.seen_step]
        · rw [hlane]
          exact fun p hp => Lane.past_step _ _ e hp
      · exact h.elsewhere hsound (Function.update_of_ne hn _ _) rfl
  | deliver n version =>
      have hstore : (c.step provider (.deliver n version)).lookup node =
          (c.scheduler.plugin.store.upsert (some (view version))).2.entries.lookup node := by
        simp only [Cluster.step, Cluster.lookup, World.step, upsert_of_delivery]
      by_cases hn : node = n
      · subst hn
        have hlane : ((c.step provider (.deliver node version)).lane node) =
            { c.lane node with seen := some version } := Function.update_self _ _ _
        refine ⟨hsound, ?_, h.fresh_deliver hpossible.1 hpossible.2 ?_ ?_ hstore⟩ <;> rw [hlane]
        exact ⟨h.lane.grows, h.lane.raises, h.lane.publishes,
          fun f hreturned => h.lane.returned f ⟨hreturned.idle, hreturned.last_eq⟩⟩
      · exact h.elsewhere hsound (Function.update_of_ne hn _ _)
          (hstore.trans (h.sound.lookup_upsert_of_ne hn hpossible.1))
  | remove n missed =>
      have hn : node ≠ n := Ne.symm hspares
      cases hlast : (c.lane n).seen with
      | none =>
          have hsame : c.step provider (.remove n missed) = c := by
            simp only [Cluster.step, hlast]
          rw [hsame]
          exact h
      | some last =>
          have hname := h.sound.nodeName_eq ((h.sound.lane n).seen last hlast)
          refine h.elsewhere hsound ?_ ?_
          · simp only [Cluster.step, hlast]
            exact Function.update_of_ne hn _ _
          · simp only [Cluster.step, hlast, Cluster.lookup, World.step, delete_of_removal]
            rw [Informer.lookup_delete, hname, if_neg hn]
  | schedule e =>
      refine h.elsewhere hsound rfl ?_
      simp only [Cluster.step, Cluster.lookup, store_step hpossible.1]

theorem tracks_run [RetryLoop] [LawfulRetryLoop] (lister : PolicyLister) (now : Time)
    {events : List (ClusterEvent E)}
    (hpossible : Along (step provider) Possible (start lister now) events)
    (hspares : ∀ e ∈ events, e.Spares node) :
    (after provider lister now events).Tracks node :=
  Runs.invariant_run (fun c => c.Tracks node) (fun _ _ hc he => hc.step he.1 he.2) events _
    (tracks_start lister now node) (along_and hpossible (along_of_forall events _ hspares))

end Cluster

/-! ### A quiet control plane -/

omit [Kube] in
/-- A heartbeat that the controller does not renew yet is not stale. -/
theorem usable_of_recent {now heartbeat : ℤ} (hclock : TopologyController.heartbeatInterval ≤ now)
    (hrecent : Time.sub now heartbeat < TopologyController.heartbeatInterval) :
    heartbeat ≠ 0 ∧ ¬ (0 < defaultCacheTTL ∧ defaultCacheTTL < Time.sub now heartbeat) := by
  have hclock : (30000000000 : ℤ) ≤ now := hclock
  have hrecent : max (-2 ^ 63) (min (2 ^ 63 - 1) (now - heartbeat)) < (30000000000 : ℤ) := hrecent
  refine ⟨by rintro rfl; omega, ?_⟩
  show ¬ ((0 : ℤ) < 120000000000 ∧
    (120000000000 : ℤ) < max (-2 ^ 63) (min (2 ^ 63 - 1) (now - heartbeat)))
  omega

/-- A valid topology that the controller has nothing to report about can be used. -/
theorem readTopology_of_upToDate {store : Store} {node : String} {object : AcceleratorTopology}
    {snapshot : Snapshot} {now : ℤ} (hbuild : build object.spec = .ok snapshot)
    (hlookup : store.entries.lookup node = some (resultOf object snapshot))
    (hjudged : TopologyController.upToDate object (TopologyController.verdict object) now = true)
    (hclock : TopologyController.heartbeatInterval ≤ now) :
    readTopology store node now defaultCacheTTL = .ok snapshot := by
  unfold TopologyController.upToDate at hjudged
  split at hjudged
  · next condition heartbeat hcondition hheartbeat =>
      obtain ⟨hstatus, _, _, hgeneration, hrecent⟩ := of_decide_eq_true hjudged
      have hverdict : (TopologyController.verdict object).status = .conditionTrue := by
        unfold TopologyController.verdict
        rw [hbuild]
      have hready : readyForGeneration object = true := by
        unfold readyForGeneration
        rw [hcondition]
        simp [hstatus, hverdict, hgeneration]
      have hbeat : (resultOf object snapshot).lastHeartbeatTime = heartbeat := by
        simp [resultOf, hheartbeat]
      obtain ⟨hnonzero, hfresh⟩ := usable_of_recent hclock hrecent
      rw [← hbeat] at hnonzero hfresh
      have hget := (Store.get_of_lookup hlookup now defaultCacheTTL).mpr
        ⟨by simp [resultOf, hready], hnonzero, hfresh⟩
      obtain ⟨snapshot', hread⟩ := (readTopology_isOk_iff _ _ _ _).mpr hget
      obtain ⟨r, hr, hsnapshot⟩ := lookup_of_readTopology hread
      cases hlookup.symm.trans hr
      cases hsnapshot
      exact hread
  · cases hjudged

/-- **The scheduler sees what was discovered.**  However the parties are interleaved, as long as
nobody deletes the object of the node: when its agent has returned from a `Reconcile` without an
error, the informer has delivered the stored version and the controller has nothing to report about
it, the scheduler reads the graph that was found, if `Build` accepts it. -/
theorem scheduler_sees_discovery [RetryLoop] [LawfulRetryLoop] (provider : String → String)
    (lister : PolicyLister) (opened : Time) (events : List (ClusterEvent E))
    (hpossible : Along (Cluster.step provider) Cluster.Possible (Cluster.start lister opened) events)
    (node : String) (hspares : ∀ e ∈ events, e.Spares node) (f : TopologySpec)
    (hreturned : ((Cluster.after provider lister opened events).lane node).Returned f)
    (hseen : ((Cluster.after provider lister opened events).lane node).seen =
      ((Cluster.after provider lister opened events).lane node).slot.stored) (now : ℤ)
    (hclock : TopologyController.heartbeatInterval ≤ now)
    (hjudged : ∀ p ∈ ((Cluster.after provider lister opened events).lane node).slot.stored,
      TopologyController.upToDate (view p) (TopologyController.verdict (view p)) now = true)
    (haccepted : Accepted { f.read with observedGeneration := 1 }) :
    ∃ g snapshot, build { f.read with observedGeneration := g } = .ok snapshot ∧
      readTopology (Cluster.after provider lister opened events).scheduler.plugin.store node now
        defaultCacheTTL = .ok snapshot := by
  have htracks : (Cluster.after provider lister opened events).Tracks node :=
    Cluster.tracks_run lister opened hpossible hspares
  obtain ⟨p, hp, hcontent⟩ := htracks.lane.returned f hreturned
  have hread := read_of_content hcontent
  have hpos := ((htracks.sound.lane node).records.stored hp).1
  obtain ⟨snapshot, hbuild⟩ : ∃ snapshot, build (view p).spec = .ok snapshot := by
    refine (build_isOk_iff _).mpr ?_
    rw [show (view p).spec = _ from hread]
    exact { haccepted with generation_pos := hpos }
  refine ⟨p.2.spec.observedGeneration, snapshot, by rw [← hread]; exact hbuild, ?_⟩
  exact readTopology_of_upToDate hbuild
    (htracks.fresh.delivered p snapshot (hseen.trans hp) hbuild) (hjudged p hp) hclock

end cluster

theorem scheduler_sees_discovery_on_worker :
    let : Kube := sampleKube
    let : RetryLoop := sampleRetry
    ∃ (g : ℤ) (snapshot : Snapshot),
      build { sampleFinding.read with observedGeneration := g } = .ok snapshot ∧
        readTopology (Cluster.after (fun _ => "nvidia") (fun _ _ => .error "") 60000000000
          samplePublication).scheduler.plugin.store "worker" 60000000000 defaultCacheTTL =
            .ok snapshot := by
  intro kube retry
  have hpossible : Along (Cluster.step fun _ => "nvidia") Cluster.Possible
      (Cluster.start (fun _ _ => .error "") 60000000000) samplePublication := by
    refine ⟨trivial, trivial, trivial, trivial, ?_, ?_, trivial⟩
    · rw [Cluster.Possible, Lane.Possible]
      decide +kernel
    · rw [Cluster.Possible]
      decide +kernel
  refine scheduler_sees_discovery (fun _ => "nvidia") _ _ _ hpossible "worker" ?_ sampleFinding ?_
    (by decide +kernel) 60000000000 (by decide +kernel) (by decide +kernel)
    ((build_isOk_iff _).mp ⟨_, rfl⟩)
  · simp [samplePublication, ClusterEvent.Spares, LaneEvent.Spares]
  · exact ⟨Option.isNone_iff_eq_none.mp (by decide +kernel), rfl⟩

end AcceleratorFabric.ControlPlane
