import AcceleratorFabric.DraOwnership

/-! # Recovery of the DRA driver

A restarted driver rebuilds its maps from the state file.  `load` takes a device only if it has no
owner at all, while `prepareClaim` also takes one that the same claim lists twice; so a claim
whose results name a device twice is prepared and stored, and then no driver starts any more
(`Node.start_rejects_own_state`).

* `newDriver_recovers`: from the state file of a driver without such a claim, a start rebuilds
  exactly its maps.
* `Node.recovers_of_distinct`: in every run without such a claim, and wherever an operation is
  interrupted, a start rebuilds the maps of before or after the operation. -/

namespace AcceleratorFabric.Dra

open GoMap FaultyDisk

variable {C : Type} {cfg : Config} [Json C]

/-! ### A start without faults -/

omit [Json C] in
theorem atomicWrite_run_nil (path : String) (content : C) (disk : Disk String C) :
    ∃ disk', (atomicWrite path content).run [] disk = (.ok (), disk') := by
  have hlook : (disk.insert (temporary path) content).lookup (temporary path) = some content := by
    rw [lookup_insert_ite, if_pos rfl]
  simp [atomicWrite, Prog.request, Prog.bind, Prog.run, serve, hlook]

theorem writeCDI_run_nil (cfg : Config) (prepared : PreparedClaim) (disk : Disk String C) :
    ∃ disk', (writeCDI cfg prepared).run [] disk = (.ok (), disk') := by
  obtain ⟨disk', h⟩ := atomicWrite_run_nil prepared.cdiFile
    (Json.encodeSpec (cdiSpec cfg prepared)) disk
  refine ⟨disk', ?_⟩
  unfold writeCDI
  rw [Prog.bind_eq, Prog.run_bind_nil, h]
  rfl

namespace Driver

variable {g : Driver cfg}

/-- Claims of one consistent driver, none with a device twice, are all accepted. -/
theorem Consistent.loadClaims_run_nil (hg : g.Consistent) (hdistinct : g.DistinctKeys) :
    ∀ (entries : List (String × PreparedClaim)) (d : Driver cfg) (disk : Disk String C),
      (entries.map Prod.fst).Nodup → (∀ e ∈ entries, g.prepared.lookup e.1 = some e.2) →
      (∀ e ∈ entries, ∀ key ∈ e.2.keys, d.owners.lookup key = none) →
        ∃ d' disk', (d.loadClaims entries).run [] disk = (.ok d', disk')
  | [], d, disk, _, _, _ => ⟨d, disk, rfl⟩
  | (uid, p) :: entries, d, disk, hnodup, hentries, hfree => by
      rw [List.map_cons, List.nodup_cons] at hnodup
      rw [List.forall_mem_cons] at hentries hfree
      obtain ⟨hpuid, huid⟩ := hg.own uid p hentries.1
      subst hpuid
      have hadopt : adoptDevices p.uid d.owners p.keys = .ok (insertAll d.owners p.keys p.uid) := by
        refine (adoptDevices_eq_ok_iff huid _ _ _).mpr ⟨hdistinct _ _ hentries.1, ?_, rfl⟩
        intro key hk
        rw [hfree.1 key hk]
        rfl
      have hrest : ∀ e ∈ entries, ∀ key ∈ e.2.keys,
          (insertAll d.owners p.keys p.uid).lookup key = none := by
        intro e he key hk
        rw [lookup_insertAll, if_neg]
        · exact hfree.2 e he key hk
        · intro hkp
          have hsame : e.1 = p.uid := hg.index.exclusive
            ⟨e.2, hentries.2 e he, hk⟩ ⟨p, hentries.1, hkp⟩
          have hmem : e.1 ∈ entries.map Prod.fst := List.mem_map_of_mem he
          exact hnodup.1 (hsame ▸ hmem)
      obtain ⟨disk', hwrite⟩ := writeCDI_run_nil cfg p disk
      obtain ⟨d', disk'', hrun⟩ := hg.loadClaims_run_nil hdistinct entries
        ⟨d.prepared.insert p.uid p, insertAll d.owners p.keys p.uid⟩ disk' hnodup.2 hentries.2 hrest
      refine ⟨d', disk'', ?_⟩
      rw [loadClaims, if_neg (by simp [huid]), hadopt]
      simp only [Prog.bind_eq]
      rw [Prog.run_bind_nil, hwrite]
      exact hrun

/-- Consistent maps are determined by the prepared claims. -/
theorem Consistent.eq_of_prepared (hg : g.Consistent) {d : Driver cfg} (hd : d.Consistent)
    (h : d.prepared = g.prepared) : d = g := by
  have howners : d.owners = g.owners := by
    apply Finmap.ext_lookup
    intro key
    apply Option.ext
    intro uid
    have hholds : d.holds uid = g.holds uid := holds_congr (by rw [h])
    change d.owners.lookup key = some uid ↔ g.owners.lookup key = some uid
    rw [hd.index key uid, hg.index key uid, hholds]
  cases d
  cases g
  simp only at h howners
  rw [h, howners]

end Driver

variable {g : Driver cfg} {disk : Disk String C} (order : Iteration String PreparedClaim)

theorem load_run_nil (hg : g.Consistent) (hdistinct : g.DistinctKeys)
    (hstored : Stored cfg g.prepared disk) :
    ∃ d disk', ((Driver.mk ∅ ∅ : Driver cfg).load order).run [] disk = (.ok d, disk') := by
  unfold Stored at hstored
  unfold Driver.load
  rw [Prog.bind_eq, Prog.run_bind_nil]
  cases hfile : disk.lookup cfg.statePath with
  | none => simp [Prog.request, Prog.run, serve, hfile]
  | some content =>
      rw [hfile] at hstored
      simp only at hstored
      have hentries : ∀ e ∈ order.list g.prepared, g.prepared.lookup e.1 = some e.2 :=
        fun e he => (order.mem_iff _ _ _).mp he
      obtain ⟨d, disk', hrun⟩ := hg.loadClaims_run_nil hdistinct (order.list g.prepared)
        (Driver.mk ∅ ∅) disk (order.nodup _) hentries (by simp)
      refine ⟨d, disk', ?_⟩
      simpa [Prog.request, Prog.run, serve, hfile, hstored] using hrun

/-- **A start rebuilds the maps** of a driver whose claims have no device twice from its state
file. -/
theorem newDriver_recovers (hcfg : ¬ cfg.Incomplete) (hg : g.Sound disk)
    (hdistinct : g.DistinctKeys) : ∃ disk', (newDriver cfg order).run [] disk = (.ok g, disk') := by
  obtain ⟨d, disk', hload⟩ := load_run_nil order hg.consistent hdistinct hg.stored
  have hrun : (newDriver cfg order).run [] disk = (.ok d, disk') := by
    unfold newDriver
    rw [if_neg hcfg]
    exact hload
  have hsame := Prog.post_run (newDriver_spares order hg.recordedApart.spare).post []
  obtain ⟨hd, _⟩ := Prog.post_run (newDriver_post order hg.recordedApart) [] d (by rw [hrun])
  have hprepared := hd.stored.unique (hg.stored.congr hsame)
  refine ⟨disk', ?_⟩
  rw [hrun, hg.consistent.eq_of_prepared hd.consistent hprepared]

/-! ### Claims without repeated devices -/

/-- The results of the claim for this driver name every device once. -/
def DistinctDevices (cfg : Config) (claim : Option ResourceClaim) : Prop :=
  ∀ c results, claim = some c → c.allocation = some results →
    ((results.filter (fun r => r.driver = cfg.driverName)).map (·.device)).Nodup

omit [Json C] in
theorem DistinctDevices.keys_nodup [SortSlice] {claim : Option ResourceClaim}
    (h : DistinctDevices cfg claim) {p : PreparedClaim}
    (hp : preparedClaimFor cfg claim = .ok p) : p.keys.Nodup := by
  obtain ⟨c, results, devices, hclaim, hallocation, hdevices, _, _, _, hperm⟩ :=
    preparedClaimFor_cases hp
  obtain ⟨hpools, rfl⟩ := allocatedDevices_eq_ok_iff.mp hdevices
  have hkeys : ((results.filter (fun r => r.driver = cfg.driverName)).map
      AllocationResult.allocated).map deviceKey =
        ((results.filter (fun r => r.driver = cfg.driverName)).map (·.device)).map
          (fun name => cfg.nodeName ++ "/" ++ name) := by
    rw [List.map_map, List.map_map]
    apply List.map_congr_left
    intro r hr
    obtain ⟨hmem, hdriver⟩ := List.mem_filter.mp hr
    have hpool := hpools r hmem (of_decide_eq_true hdriver)
    show r.pool ++ "/" ++ r.device = cfg.nodeName ++ "/" ++ r.device
    rw [hpool]
  have hinjective : Function.Injective (fun name => cfg.nodeName ++ "/" ++ name) := by
    intro a b hab
    exact (String.append_right_inj (cfg.nodeName ++ "/")).mp hab
  unfold PreparedClaim.keys
  rw [(hperm.map deviceKey).nodup_iff, hkeys]
  exact (h c results hclaim hallocation).map hinjective

def Operation.Distinct (cfg : Config) : Operation → Prop
  | prepareClaim claim => DistinctDevices cfg claim
  | unprepareClaim _ => True
  | newDriver _ => True

/-! ### Runs -/

namespace Driver

variable {d d' : Driver cfg} {disk' : Disk String C}

theorem DistinctKeys.of_prepares [SortSlice] (h : d.DistinctKeys) {claim : Option ResourceClaim}
    (hclaim : DistinctDevices cfg claim) (hprepares : d.Prepares claim d' disk') :
    d'.DistinctKeys := by
  obtain ⟨p, hp, _, _, rfl, _⟩ := hprepares
  intro uid q hq
  rw [record, lookup_insert_ite] at hq
  split_ifs at hq
  · cases hq
    exact hclaim.keys_nodup hp
  · exact h uid q hq

theorem DistinctKeys.of_unprepares (h : d.DistinctKeys) {uid : String}
    (hunprepares : d.Unprepares uid d' disk') : d'.DistinctKeys := by
  obtain ⟨p, _, rfl, _⟩ := hunprepares
  intro u q hq
  rw [forget, lookup_erase_ite] at hq
  split_ifs at hq
  exact h u q hq

end Driver

namespace Node

variable [SortSlice]

/-- The invariant of the runs from whose states a driver always starts. -/
structure Recoverable (n : Node cfg C) : Prop extends n.Invariant where
  distinct : ∀ d, n.driver = some d → d.DistinctKeys
  complete : ∀ d, n.driver = some d → ¬ cfg.Incomplete

theorem Recoverable.program_post {n : Node cfg C} (h : n.Recoverable) {op : Operation}
    (hapart : op.Apart cfg) (hop : op.Distinct cfg) :
    (op.program n.driver).Post (fun driver disk' => (Node.mk disk' driver).Recoverable) n.disk := by
  have hall : (op.program n.driver).Post (fun driver _ => ∀ d : Driver cfg, driver = some d →
      d.DistinctKeys ∧ ¬ cfg.Incomplete) n.disk := by
    obtain ⟨disk, driver⟩ := n
    cases op with
    | prepareClaim claim =>
        cases driver with
        | none => rintro d ⟨⟩
        | some d =>
            have hd := h.distinct d rfl
            refine Prog.post_bind (Prog.post_mono ?_ ((h.sound d rfl).prepareClaim_post hapart))
            rintro result disk' (⟨hsame, _⟩ | ⟨hprepares, _⟩) d' ⟨⟩
            · exact ⟨hsame ▸ hd, h.complete d rfl⟩
            · exact ⟨hd.of_prepares hop hprepares, h.complete d rfl⟩
    | unprepareClaim uid =>
        cases driver with
        | none => rintro d ⟨⟩
        | some d =>
            have hd := h.distinct d rfl
            refine Prog.post_bind (Prog.post_mono ?_ ((h.sound d rfl).unprepareClaim_post uid))
            rintro result disk' (⟨hsame, _⟩ | ⟨hunprepares, _⟩) d' ⟨⟩
            · exact ⟨hsame ▸ hd, h.complete d rfl⟩
            · exact ⟨hd.of_unprepares hunprepares, h.complete d rfl⟩
    | newDriver order =>
        refine Prog.post_bind (Prog.post_mono ?_ (newDriver_post order h.recorded))
        intro result disk' hstart
        cases result with
        | error e => rintro d ⟨⟩
        | ok d =>
            rintro d' ⟨⟩
            exact (hstart d rfl).2
  refine Prog.post_mono ?_ (Prog.post_and (h.toInvariant.program_post hapart) hall)
  rintro driver disk' ⟨hinv, hd⟩
  exact ⟨hinv, fun d hdriver => (hd d hdriver).1, fun d hdriver => (hd d hdriver).2⟩

theorem Recoverable.step {n : Node cfg C} (h : n.Recoverable) {e : Event C}
    (hapart : e.operation.Apart cfg) (hop : e.operation.Distinct cfg) :
    (n.step e).Recoverable := by
  have hinv := h.toInvariant.step hapart
  have hpost := Prog.post_run (h.program_post hapart hop) e.faults
  unfold Node.step at hinv ⊢
  cases hcrash : e.crash with
  | none => exact hpost
  | some k =>
      rw [hcrash] at hinv
      exact ⟨hinv, by rintro d ⟨⟩, by rintro d ⟨⟩⟩

theorem recoverable_run {disk : Disk String C} (hdisk : RecordedApart cfg disk)
    {es : List (Event C)} (hes : ∀ e ∈ es, e.operation.Apart cfg ∧ e.operation.Distinct cfg) :
    (run cfg disk es).Recoverable := by
  have hstep : ∀ (n : Node cfg C) (e : Event C), n.Recoverable →
      e.operation.Apart cfg ∧ e.operation.Distinct cfg → (n.step e).Recoverable :=
    fun n e h he => h.step he.1 he.2
  apply Runs.invariant_run Recoverable hstep es ⟨disk, none⟩
  · exact ⟨⟨hdisk, by rintro d ⟨⟩⟩, by rintro d ⟨⟩, by rintro d ⟨⟩⟩
  · exact Runs.along_of_forall es _ hes

omit [SortSlice] in
/-- A node whose driver runs is rebuilt by a start. -/
theorem Recoverable.newDriver {n : Node cfg C} (h : n.Recoverable) {d : Driver cfg}
    (hd : n.driver = some d) {disk : Disk String C}
    (hfile : disk.lookup cfg.statePath = n.disk.lookup cfg.statePath)
    (order : Iteration String PreparedClaim) :
    ∃ disk', (Dra.newDriver cfg order).run [] disk = (.ok d, disk') :=
  newDriver_recovers order (h.complete d hd) ((h.sound d hd).congr hfile) (h.distinct d hd)

/-- A call leaves a running driver. -/
theorem program_running (d : Driver cfg) {op : Operation}
    (hcall : ∀ order, op ≠ .newDriver order) (disk : Disk String C) :
    (op.program (some d)).Post (fun driver _ => ∃ d', driver = some d') disk := by
  cases op with
  | prepareClaim claim =>
      refine Prog.post_bind (Prog.post_mono ?_ (Prog.post_true _ disk))
      exact fun result _ _ => ⟨result.2, rfl⟩
  | unprepareClaim uid =>
      refine Prog.post_bind (Prog.post_mono ?_ (Prog.post_true _ disk))
      exact fun result _ _ => ⟨result.2, rfl⟩
  | newDriver order => exact absurd rfl (hcall order)

/-- **Recovery.**  In every run whose claims name no device twice and have their CDI files apart
from the state file: wherever a call to the running driver is interrupted, whatever failed before,
a start without faults rebuilds exactly the driver before the call or the driver that the
completed call leaves. -/
theorem recovers_of_distinct (cfg : Config) (disk : Disk String C) (es : List (Event C))
    (hdisk : RecordedApart cfg disk)
    (hes : ∀ e ∈ es, e.operation.Apart cfg ∧ e.operation.Distinct cfg) (d : Driver cfg)
    (hd : (run cfg disk es).driver = some d) (op : Operation)
    (hcall : ∀ order, op ≠ .newDriver order) (hapart : op.Apart cfg) (hop : op.Distinct cfg)
    (faults : List (Option (Fault C String))) (k : ℕ) (order : Iteration String PreparedClaim) :
    ∃ d' disk', (Dra.newDriver cfg order).run []
        ((op.program (some d)).crashAfter k faults (run cfg disk es).disk) = (.ok d', disk') ∧
      (d' = d ∨ ((op.program (some d)).run faults (run cfg disk es).disk).1 = some d') := by
  have h := recoverable_run hdisk hes
  have hafter := Prog.post_run (h.program_post hapart hop) faults
  have hswitch := (h.toInvariant.program_switches hapart).crashAfter k faults
  rw [hd] at hafter hswitch
  rcases hswitch with hold | hfinal
  · obtain ⟨disk', hrun⟩ := h.newDriver hd hold order
    exact ⟨d, disk', hrun, .inl rfl⟩
  · obtain ⟨d', hd'⟩ := Prog.post_run (program_running d hcall (run cfg disk es).disk) faults
    obtain ⟨disk', hrun⟩ := hafter.newDriver hd' hfinal order
    exact ⟨d', disk', hrun, .inr hd'⟩

end Node

theorem Node.recovers_between_writes :
    let : Json (PersistedState ⊕ CdiSpec) := sampleJson
    let : SortSlice := sampleSort
    let n := run sampleConfig ∅ (sampleEvents (sampleClaim "uid-one" [("accelerators", "gpu0")]))
    let call := Operation.prepareClaim (some (sampleClaim "uid-two" [("accelerators", "gpu1")]))
    ∃ d, n.driver = some d ∧ ∃ d' disk', (newDriver sampleConfig sampleOrder).run []
        ((call.program (some d)).crashAfter 3 [] n.disk) = (.ok d', disk') ∧
      (d' = d ∨ ((call.program (some d)).run [] n.disk).1 = some d') := by
  intro json sort n call
  have hrunning : n.driver.isSome = true := by decide +kernel
  obtain ⟨d, hd⟩ := Option.isSome_iff_exists.mp hrunning
  have hdistinct : ∀ (uid device : String), DistinctDevices sampleConfig
      (some (sampleClaim uid [("accelerators", device)])) := by
    rintro uid device c results ⟨⟩ ⟨⟩
    simp [sampleConfig, mainConfig]
  have hes : ∀ e ∈ sampleEvents (sampleClaim "uid-one" [("accelerators", "gpu0")]),
      e.operation.Apart sampleConfig ∧ e.operation.Distinct sampleConfig := by
    intro e he
    refine ⟨apart_sampleEvents (by decide) e he, ?_⟩
    simp only [sampleEvents, List.mem_cons, List.not_mem_nil, or_false] at he
    rcases he with rfl | rfl
    · trivial
    · exact hdistinct _ _
  have hapart : call.Apart sampleConfig := by
    rintro c ⟨⟩
    exact apart_mainConfig "worker" "/state" "/cdi" (by decide)
  exact ⟨d, hd, recovers_of_distinct sampleConfig ∅ _ recordedApart_empty hes d hd call
    (fun _ => by simp [call]) hapart (hdistinct _ _) [] 3 sampleOrder⟩

/-- A claim that has one device under two requests is prepared and stored, and then every start
fails. -/
theorem Node.start_rejects_own_state :
    ¬ ∀ (C : Type) (_ : Json C) (_ : SortSlice) (cfg : Config) (disk : Disk String C)
      (es : List (Event C)) (d : Driver cfg) (op : Operation)
      (faults : List (Option (Fault C String))) (k : ℕ) (order : Iteration String PreparedClaim),
        RecordedApart cfg disk → (∀ e ∈ es, e.operation.Apart cfg) →
        (run cfg disk es).driver = some d → (∀ order, op ≠ .newDriver order) → op.Apart cfg →
          ∃ d' disk', (newDriver cfg order).run []
              ((op.program (some d)).crashAfter k faults (run cfg disk es).disk) =
                (.ok d', disk') ∧
            (d' = d ∨ ((op.program (some d)).run faults (run cfg disk es).disk).1 = some d') := by
  intro h
  let : Json (PersistedState ⊕ CdiSpec) := sampleJson
  let : SortSlice := sampleSort
  let es := sampleEvents (sampleClaim "uid-one" [("first", "gpu0"), ("second", "gpu0")])
  have hrunning : (run sampleConfig ∅ es).driver.isSome = true := by decide +kernel
  have hfails : ((newDriver sampleConfig sampleOrder).run []
      (run sampleConfig ∅ es).disk).1.toOption = none := by decide +kernel
  obtain ⟨d, hd⟩ := Option.isSome_iff_exists.mp hrunning
  obtain ⟨d', disk', hstart, _⟩ := h _ sampleJson sampleSort sampleConfig ∅ es d
    (.unprepareClaim "uid-one") [] 0 sampleOrder recordedApart_empty
    (apart_sampleEvents (by decide)) hd (fun _ => by simp) trivial
  rw [show Prog.crashAfter 0 _ _ _ = (run sampleConfig ∅ es).disk from rfl] at hstart
  rw [hstart] at hfails
  cases hfails

end AcceleratorFabric.Dra
