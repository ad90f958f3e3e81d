import AcceleratorFabric.DraOwnership

/-! # Failed calls of the DRA driver

A call that returns an error leaves the maps and the state file as they were, at whichever file
request it failed.  If `unprepareClaim` could not persist but wrote the CDI file again, the file
holds what the preparation of the claim wrote.

* `Driver.AtomicOnError` says this of one state of a driver; `Node.atomic_on_error` proves it for
  every state of every run, as long as no CDI file is the state file itself.
* `Node.PreparedSince` follows a claim from its preparation through later calls, faults, crashes
  and restarts: its entry in the maps and in the state file stays the same (`Node.Keeps`). -/

namespace AcceleratorFabric.Dra

open GoMap FaultyDisk

variable {C : Type} {cfg : Config} [Json C]

/-! ### CDI files -/

/-- CDI files end in `.json`, temporary files in `.tmp`. -/
theorem cdiFile_ne_temporary (cfg : Config) (uid path : String) :
    cdiFile cfg uid ≠ temporary path := by
  have hname : GoPath.lastElement ("accelerator-" ++ uid ++ ".json").toList =
      GoPath.lastElement ("accelerator-" ++ uid).toList ++ ".json".toList := by
    rw [String.toList_append, GoPath.lastElement_append _ (by decide)]
  have hfile : GoPath.IsFileName (GoPath.lastElement ("accelerator-" ++ uid ++ ".json").toList) := by
    refine ⟨GoPath.not_mem_lastElement _, ?_, ?_, ?_⟩
    all_goals
      rw [hname]
      intro h
      have hlast := congrArg List.getLast? h
      simp at hlast
  have htmp : GoPath.lastElement (temporary path).toList =
      GoPath.lastElement path.toList ++ ".tmp".toList := by
    unfold temporary
    rw [String.toList_append, GoPath.lastElement_append _ (by decide)]
  intro h
  have hjoin := GoPath.lastElement_join_of_last cfg.cdiDir hfile
  unfold cdiFile at h
  rw [h, htmp, hname] at hjoin
  have hlast := congrArg List.getLast? hjoin
  simp at hlast

/-- The CDI file of the claim holds its specification. -/
def HasCDI (cfg : Config) (p : PreparedClaim) (disk : Disk String C) : Prop :=
  disk.lookup p.cdiFile = some (Json.encodeSpec (cdiSpec cfg p))

theorem writeCDI_post (p : PreparedClaim) (disk : Disk String C) :
    (writeCDI cfg p).Post (fun result disk' => ∀ u, result = .ok u → HasCDI cfg p disk') disk := by
  refine Prog.post_bind (Prog.post_mono ?_ (atomicWrite_post p.cdiFile _ disk))
  intro result disk' h
  cases result with
  | error e => rintro u ⟨⟩
  | ok _ => exact fun _ _ => h

namespace Driver

theorem persist_spares (d : Driver cfg) {file : String} (hfile : file ≠ cfg.statePath)
    (htmp : file ≠ temporary cfg.statePath) (disk : Disk String C) :
    (d.persist : Program C _).Spares file disk := by
  refine (atomicWrite_spares hfile htmp _ disk).bind ?_
  intro result _ _
  cases result <;> trivial

/-! ### Successful preparations -/

/-- The claim is prepared with the devices it asks for, its CDI file is written, and the call
returns these devices. -/
def Serves [SortSlice] (claim : Option ResourceClaim) (devices : List KubeletDevice)
    (d : Driver cfg) (disk : Disk String C) : Prop :=
  ∃ asked p, preparedClaimFor cfg claim = .ok asked ∧ d.prepared.lookup asked.uid = some p ∧
    p.devices = asked.devices ∧ devices = kubeletDevices p ∧ HasCDI cfg p disk

theorem prepareNew_serves (d : Driver cfg) (disk : Disk String C) {p : PreparedClaim}
    (hfile : p.cdiFile ≠ cfg.statePath) (htmp : p.cdiFile ≠ temporary cfg.statePath) :
    (d.prepareNew p).Post (fun result disk' => ∀ devices, result.1 = .ok devices →
      result.2.prepared.lookup p.uid = some p ∧ devices = kubeletDevices p ∧
        HasCDI cfg p disk') disk := by
  refine Prog.post_bind (Prog.post_mono ?_ (writeCDI_post p disk))
  intro result disk' hwritten
  cases result with
  | error e => rintro devices ⟨⟩
  | ok u =>
      -- persisting leaves the CDI file alone
      refine ((d.record p.uid p).persist_spares hfile htmp disk').post_bind ?_
      intro result disk'' hsame
      cases result with
      | error e =>
          refine Prog.post_bind (Prog.post_mono ?_ (Prog.post_true _ disk''))
          rintro _ _ _ devices ⟨⟩
      | ok _ =>
          rintro devices ⟨⟩
          have hentry : (d.record p.uid p).prepared.lookup p.uid = some p := by
            rw [record, lookup_insert_ite, if_pos rfl]
          exact ⟨hentry, rfl, hsame.trans (hwritten u rfl)⟩

theorem prepareAgain_serves (d : Driver cfg) (disk : Disk String C) (existing : PreparedClaim) :
    (d.prepareAgain existing).Post (fun result disk' => ∀ devices, result.1 = .ok devices →
      result.2 = d ∧ devices = kubeletDevices existing ∧ HasCDI cfg existing disk') disk := by
  refine Prog.post_bind (Prog.post_mono ?_ (writeCDI_post existing disk))
  intro result disk' hwritten
  cases result with
  | error e => rintro devices ⟨⟩
  | ok u =>
      rintro devices ⟨⟩
      exact ⟨rfl, rfl, hwritten u rfl⟩

theorem prepareClaim_serves [SortSlice] (d : Driver cfg) (disk : Disk String C)
    {claim : Option ResourceClaim} (hclaim : ClaimApart cfg claim) :
    (d.prepareClaim claim).Post (fun result disk' => ∀ devices, result.1 = .ok devices →
      Serves claim devices result.2 disk') disk := by
  rcases d.prepareClaim_cases (C := C) claim with ⟨e, hcall⟩ |
    ⟨asked, existing, hasked, hlook, hdevices, hcall⟩ | ⟨p, hp, _, _, hcall⟩
  · rw [hcall]
    rintro devices ⟨⟩
  · rw [hcall]
    refine Prog.post_mono ?_ (d.prepareAgain_serves disk existing)
    intro result disk' hserves devices hresult
    obtain ⟨hsame, hreturned, hcdi⟩ := hserves devices hresult
    rw [hsame]
    exact ⟨asked, existing, hasked, hlook, hdevices, hreturned, hcdi⟩
  · rw [hcall]
    obtain ⟨c, _, _, _, _, _, _, _, hfile, _⟩ := preparedClaimFor_cases hp
    have htmp : p.cdiFile ≠ temporary cfg.statePath := by
      rw [hfile]
      exact cdiFile_ne_temporary cfg _ _
    refine Prog.post_mono ?_ (d.prepareNew_serves disk (hclaim.file hp).1.symm htmp)
    intro result disk' hserves devices hresult
    obtain ⟨hentry, hreturned, hcdi⟩ := hserves devices hresult
    exact ⟨p, p, hp, hentry, rfl, hreturned, hcdi⟩

/-! ### Failed calls -/

/-- If persisting failed and the CDI file was written again, it is the one of the claim. -/
theorem dropClaim_restores (d : Driver cfg) (disk : Disk String C) (uid : String)
    (p : PreparedClaim) :
    (d.dropClaim uid p).Post (fun result disk' => ∀ cause, result.1 = some (.persist cause) →
      HasCDI cfg p disk') disk := by
  refine Prog.post_bind (Prog.post_mono ?_ (Prog.post_true _ disk))
  intro result disk' _
  cases result with
  | error e =>
      refine Prog.post_bind (Prog.post_mono ?_ (writeCDI_post p disk'))
      intro result disk'' hwritten
      cases result with
      | error e => rintro cause ⟨⟩
      | ok u => exact fun _ _ => hwritten u rfl
  | ok _ => rintro cause ⟨⟩

theorem unprepareClaim_restores (d : Driver cfg) (disk : Disk String C) {uid : String}
    {p : PreparedClaim} (hp : d.prepared.lookup uid = some p) :
    (d.unprepareClaim uid).Post (fun result disk' => ∀ cause, result.1 = some (.persist cause) →
      HasCDI cfg p disk') disk := by
  unfold Driver.unprepareClaim
  rw [hp]
  refine Prog.post_bind (Prog.post_mono ?_ (Prog.post_true _ disk))
  intro answer disk' _
  cases answer with
  | ok _ => exact d.dropClaim_restores disk' uid p
  | error e =>
      cases e with
      | notExist => exact d.dropClaim_restores disk' uid p
      | failed e => rintro cause ⟨⟩

/-- Calls that fail change neither the maps nor the state file, and an `unprepareClaim` that could
only not persist leaves the CDI file as the preparation wrote it. -/
structure AtomicOnError [SortSlice] (d : Driver cfg) (disk : Disk String C) : Prop where
  prepare : ∀ claim, ClaimApart cfg claim → ∀ faults e,
    ((d.prepareClaim claim).run faults disk).1.1 = .error e →
      Unchanged d disk ((d.prepareClaim claim).run faults disk).1.2
        ((d.prepareClaim claim).run faults disk).2
  unprepare : ∀ uid faults e, ((d.unprepareClaim uid).run faults disk).1.1 = some e →
    Unchanged d disk ((d.unprepareClaim uid).run faults disk).1.2
      ((d.unprepareClaim uid).run faults disk).2
  restored : ∀ uid p, d.prepared.lookup uid = some p → ∀ faults cause,
    ((d.unprepareClaim uid).run faults disk).1.1 = some (.persist cause) →
      HasCDI cfg p ((d.unprepareClaim uid).run faults disk).2

theorem Sound.atomicOnError [SortSlice] {d : Driver cfg} {disk : Disk String C}
    (h : d.Sound disk) : d.AtomicOnError disk where
  prepare := by
    intro claim hclaim faults e herror
    rcases Prog.post_run (h.prepareClaim_post hclaim) faults with hsame | ⟨_, devices, hok⟩
    · exact hsame
    · rw [herror] at hok
      cases hok
  unprepare := by
    intro uid faults e herror
    rcases Prog.post_run (h.unprepareClaim_post uid) faults with hsame | ⟨_, hnone⟩
    · exact hsame
    · rw [herror] at hnone
      cases hnone
  restored := fun _ _ hp faults => Prog.post_run (d.unprepareClaim_restores disk hp) faults

end Driver

/-! ### Following a claim -/

namespace Node

/-- The claim is stored as `p`, and a running driver has it as `p`. -/
structure Keeps (uid : String) (p : PreparedClaim) (n : Node cfg C) : Prop where
  stored : ∃ claims, Stored cfg claims n.disk ∧ claims.lookup uid = some p
  running : ∀ d, n.driver = some d → d.prepared.lookup uid = some p

variable {uid : String} {p : PreparedClaim}

theorem keeps_stopped {claims : GoMap String PreparedClaim} {disk : Disk String C}
    (hstored : Stored cfg claims disk) (hp : claims.lookup uid = some p) :
    Keeps uid p (⟨disk, none⟩ : Node cfg C) :=
  ⟨⟨claims, hstored, hp⟩, by rintro d ⟨⟩⟩

theorem keeps_running {d : Driver cfg} {disk : Disk String C}
    (hstored : Stored cfg d.prepared disk) (hp : d.prepared.lookup uid = some p) :
    Keeps uid p ⟨disk, some d⟩ := by
  refine ⟨⟨d.prepared, hstored, hp⟩, ?_⟩
  rintro d' ⟨⟩
  exact hp

theorem Keeps.of_unchanged {d d' : Driver cfg} {disk disk' : Disk String C}
    (h : Keeps uid p ⟨disk, some d⟩) (hsame : d.Unchanged disk d' disk') :
    Keeps uid p ⟨disk', some d'⟩ := by
  obtain ⟨rfl, hfile⟩ := hsame
  obtain ⟨claims, hstored, hp⟩ := h.stored
  exact ⟨⟨claims, hstored.congr hfile, hp⟩, h.running⟩

variable [SortSlice]

/-- No operation but the claim's own `unprepareClaim` touches its entry. -/
theorem Keeps.program_post {n : Node cfg C} (h : n.Keeps uid p) (hinv : n.Invariant)
    {op : Operation} (hapart : op.Apart cfg) (hop : op ≠ .unprepareClaim uid) :
    (op.program n.driver).Post (fun driver disk' => Keeps uid p ⟨disk', driver⟩) n.disk := by
  obtain ⟨disk, driver⟩ := n
  cases op with
  | prepareClaim claim =>
      cases driver with
      | none => exact h
      | some d =>
          refine Prog.post_bind (Prog.post_mono ?_ ((hinv.sound d rfl).prepareClaim_post hapart))
          rintro result disk' (hsame | ⟨⟨q, _, hnew, _, hrecord, hstored⟩, _⟩)
          · exact h.of_unchanged hsame
          · refine keeps_running hstored ?_
            have hp := h.running d rfl
            have hne : uid ≠ q.uid := by
              rintro rfl
              rw [hnew] at hp
              cases hp
            rw [hrecord, Driver.record, lookup_insert_ite, if_neg hne]
            exact hp
  | unprepareClaim u =>
      cases driver with
      | none => exact h
      | some d =>
          refine Prog.post_bind (Prog.post_mono ?_ ((hinv.sound d rfl).unprepareClaim_post u))
          rintro result disk' (hsame | ⟨⟨q, _, hforget, hstored⟩, _⟩)
          · exact h.of_unchanged hsame
          · refine keeps_running hstored ?_
            have hne : uid ≠ u := by
              rintro rfl
              exact hop rfl
            rw [hforget, Driver.forget, lookup_erase_ite, if_neg hne]
            exact h.running d rfl
  | newDriver order =>
      obtain ⟨claims, hstored, hp⟩ := h.stored
      refine Prog.post_bind (Prog.post_mono ?_ (Prog.post_and (newDriver_post order hinv.recorded)
        (newDriver_spares order hinv.recorded.spare).post))
      rintro result disk' ⟨hstart, hsame⟩
      cases result with
      | error e => exact keeps_stopped (hstored.congr hsame) hp
      | ok d =>
          have hd := (hstart d rfl).1.stored
          refine keeps_running hd ?_
          rw [hd.unique (hstored.congr hsame)]
          exact hp

theorem prepareClaim_run (d : Driver cfg) (claim : Option ResourceClaim)
    (faults : List (Option (Fault C String))) (disk : Disk String C) :
    (Operation.program (some d) (.prepareClaim claim)).run faults disk =
      (some ((d.prepareClaim claim).run faults disk).1.2, ((d.prepareClaim claim).run faults disk).2) :=
  Prog.run_bind_done (fun result : Except DriverError (List KubeletDevice) × Driver cfg =>
    some result.2) (d.prepareClaim claim) faults disk

theorem unprepareClaim_run (d : Driver cfg) (uid : String)
    (faults : List (Option (Fault C String))) (disk : Disk String C) :
    (Operation.program (some d) (.unprepareClaim uid)).run faults disk =
      (some ((d.unprepareClaim uid).run faults disk).1.2, ((d.unprepareClaim uid).run faults disk).2) :=
  Prog.run_bind_done (fun result : Option DriverError × Driver cfg => some result.2)
    (d.unprepareClaim uid) faults disk

/-- The event does not unprepare the claim: it is no `unprepareClaim` of it, or one that fails. -/
def Undisturbed (uid : String) (n : Node cfg C) (e : Event C) : Prop :=
  e.operation = .unprepareClaim uid → e.crash = none ∧
    ∀ d, n.driver = some d → ((d.unprepareClaim uid).run e.faults n.disk).1.1 ≠ none

theorem Keeps.step {n : Node cfg C} (h : n.Keeps uid p) (hinv : n.Invariant) {e : Event C}
    (hapart : e.operation.Apart cfg) (he : Undisturbed uid n e) : (n.step e).Keeps uid p := by
  by_cases hop : e.operation = .unprepareClaim uid
  · -- a failed call changes nothing
    obtain ⟨hcrash, hfails⟩ := he hop
    unfold Node.step
    rw [hcrash, hop]
    obtain ⟨disk, driver⟩ := n
    cases driver with
    | none => exact h
    | some d =>
        obtain ⟨error, herror⟩ := Option.ne_none_iff_exists'.mp (hfails d rfl)
        have hsame := (hinv.sound d rfl).atomicOnError.unprepare uid e.faults error herror
        simp only [unprepareClaim_run]
        exact h.of_unchanged hsame
  · have hpost := h.program_post hinv hapart hop
    unfold Node.step
    cases e.crash with
    | none => exact Prog.post_run hpost e.faults
    | some k =>
        rcases (hinv.program_switches hapart).crashAfter k e.faults with hold | hfinal
        · obtain ⟨claims, hstored, hp⟩ := h.stored
          exact keeps_stopped (hstored.congr hold) hp
        · obtain ⟨claims, hstored, hp⟩ := (Prog.post_run hpost e.faults).stored
          exact keeps_stopped (hstored.congr hfinal) hp

theorem Keeps.run {n : Node cfg C} (h : n.Keeps uid p) (hinv : n.Invariant) {es : List (Event C)}
    (hapart : ∀ e ∈ es, e.operation.Apart cfg) (hes : Runs.Along Node.step (Undisturbed uid) n es) :
    (Runs.run Node.step n es).Keeps uid p := by
  have hstep : ∀ (n : Node cfg C) (e : Event C), n.Invariant ∧ n.Keeps uid p →
      e.operation.Apart cfg ∧ Undisturbed uid n e →
        (n.step e).Invariant ∧ (n.step e).Keeps uid p :=
    fun n e hn he => ⟨hn.1.step he.1, hn.2.step hn.1 he.1 he.2⟩
  have halong := Runs.along_and (Runs.along_of_forall es n hapart) hes
  exact (Runs.invariant_run _ hstep es n ⟨hinv, h⟩ halong).2

theorem run_append (cfg : Config) (disk : Disk String C) (es es' : List (Event C)) :
    Node.run cfg disk (es ++ es') = Runs.run Node.step (Node.run cfg disk es) es' :=
  List.foldl_append

theorem step_prepareClaim {n : Node cfg C} {d : Driver cfg} (hd : n.driver = some d) {e : Event C}
    {claim : Option ResourceClaim} (hop : e.operation = .prepareClaim claim) (hcrash : e.crash = none) :
    n.step e = ⟨((d.prepareClaim claim).run e.faults n.disk).2,
      some ((d.prepareClaim claim).run e.faults n.disk).1.2⟩ := by
  unfold Node.step
  simp only [hcrash, hop, hd, prepareClaim_run]

/-- A call that succeeds leaves the claim stored with the devices it asks for. -/
theorem Invariant.keeps_prepared {n : Node cfg C} (hinv : n.Invariant) {d : Driver cfg}
    (hd : n.driver = some d) {e : Event C} {claim : ResourceClaim}
    (hop : e.operation = .prepareClaim (some claim)) (hcrash : e.crash = none)
    (hapart : e.operation.Apart cfg) {devices : List KubeletDevice}
    (hok : ((d.prepareClaim (some claim)).run e.faults n.disk).1.1 = .ok devices) :
    ∃ asked p, preparedClaimFor cfg (some claim) = .ok asked ∧ p.devices = asked.devices ∧
      devices = kubeletDevices p ∧ HasCDI cfg p (n.step e).disk ∧ (n.step e).Keeps claim.uid p := by
  have hsound := (hinv.step hapart).sound
  rw [hop] at hapart
  rw [step_prepareClaim hd hop hcrash] at hsound ⊢
  obtain ⟨asked, p, hasked, hentry, hdevices, hreturned, hcdi⟩ :=
    Prog.post_run (d.prepareClaim_serves n.disk hapart) e.faults devices hok
  have huid : asked.uid = claim.uid := by
    obtain ⟨_, _, _, _, _, _, rfl⟩ := preparedClaimFor_eq_ok_iff.mp hasked
    rfl
  rw [huid] at hentry
  exact ⟨asked, p, hasked, hdevices, hreturned, hcdi,
    keeps_running (hsound _ rfl).stored hentry⟩

/-- The event `e` prepared the claim successfully, and no later event unprepared it. -/
structure PreparedSince (cfg : Config) (disk : Disk String C) (claim : ResourceClaim)
    (devices : List KubeletDevice) (before : List (Event C)) (e : Event C)
    (after : List (Event C)) : Prop where
  operation_eq : e.operation = .prepareClaim (some claim)
  completed : e.crash = none
  succeeded : ∃ d, (Node.run cfg disk before).driver = some d ∧
    ((d.prepareClaim (some claim)).run e.faults (Node.run cfg disk before).disk).1.1 = .ok devices
  undisturbed : Runs.Along Node.step (Undisturbed claim.uid) (Node.run cfg disk (before ++ [e])) after

/-- **A prepared claim keeps its entry** through all later events, with the devices it asked for
and what the call returned; its CDI file was written. -/
theorem PreparedSince.keeps {disk : Disk String C} {claim : ResourceClaim}
    {devices : List KubeletDevice} {before after : List (Event C)} {e : Event C}
    (h : PreparedSince cfg disk claim devices before e after) (hdisk : RecordedApart cfg disk)
    (hes : ∀ x ∈ before ++ e :: after, x.operation.Apart cfg) :
    ∃ asked p, preparedClaimFor cfg (some claim) = .ok asked ∧ p.devices = asked.devices ∧
      devices = kubeletDevices p ∧ HasCDI cfg p (Node.run cfg disk (before ++ [e])).disk ∧
      (Node.run cfg disk (before ++ e :: after)).Keeps claim.uid p := by
  rw [List.forall_mem_append, List.forall_mem_cons] at hes
  obtain ⟨hbefore, hnow, hafter⟩ := hes
  have hinv := invariant_run hdisk hbefore
  have hnext : Node.run cfg disk (before ++ [e]) = (Node.run cfg disk before).step e :=
    run_append cfg disk before [e]
  obtain ⟨d, hd, hok⟩ := h.succeeded
  obtain ⟨asked, p, hasked, hdevices, hreturned, hcdi, hkeeps⟩ :=
    hinv.keeps_prepared hd h.operation_eq h.completed hnow hok
  have hlater := h.undisturbed
  rw [hnext] at hlater ⊢
  refine ⟨asked, p, hasked, hdevices, hreturned, hcdi, ?_⟩
  rw [List.append_cons, run_append, hnext]
  exact hkeeps.run (hinv.step hnow) hafter hlater

/-- A preparation without faults that succeeds, and nothing since. -/
theorem exists_preparedSince {disk : Disk String C} {before : List (Event C)} {claim : ResourceClaim}
    (h : ((Node.run cfg disk before).driver.bind fun d => ((d.prepareClaim (some claim)).run []
      (Node.run cfg disk before).disk).1.1.toOption).isSome = true) :
    ∃ devices, PreparedSince cfg disk claim devices before
      ⟨.prepareClaim (some claim), [], none⟩ [] := by
  obtain ⟨devices, hdevices⟩ := Option.isSome_iff_exists.mp h
  obtain ⟨d, hd, hresult⟩ := Option.bind_eq_some_iff.mp hdevices
  refine ⟨devices, rfl, rfl, ⟨d, hd, ?_⟩, trivial⟩
  generalize ((d.prepareClaim (some claim)).run [] (Node.run cfg disk before).disk).1.1 = result
    at hresult
  cases result with
  | error e => cases hresult
  | ok devices' =>
      cases hresult
      rfl

end Node

/-- **Calls are atomic on error.**  In every state of every run, as long as no CDI file is the
state file: a call that returns an error changed neither the maps nor the state file; and if
`unprepareClaim` failed to persist but wrote the CDI file again, the file is what the preparation
of the claim left, for the claims that were prepared in the run too. -/
theorem Node.atomic_on_error [SortSlice] (cfg : Config) (disk : Disk String C) (es : List (Event C))
    (hdisk : RecordedApart cfg disk) (hes : ∀ e ∈ es, e.operation.Apart cfg) (d : Driver cfg)
    (hd : (run cfg disk es).driver = some d) :
    d.AtomicOnError (run cfg disk es).disk ∧
      ∀ claim devices before e after, es = before ++ e :: after →
        PreparedSince cfg disk claim devices before e after →
          ∃ p, d.prepared.lookup claim.uid = some p ∧
            HasCDI cfg p (run cfg disk (before ++ [e])).disk := by
  refine ⟨((invariant_run hdisk hes).sound d hd).atomicOnError, ?_⟩
  rintro claim devices before e after rfl hsince
  obtain ⟨_, p, _, _, _, hcdi, hkeeps⟩ := hsince.keeps hdisk hes
  exact ⟨p, hkeeps.running d hd, hcdi⟩

/-- The first start of a driver. -/
def sampleStart : List (Event (PersistedState ⊕ CdiSpec)) := [⟨.newDriver sampleOrder, [], none⟩]

/-- A claim for two devices. -/
def samplePair : ResourceClaim :=
  sampleClaim "uid-one" [("accelerators", "gpu0"), ("accelerators", "gpu1")]

theorem Node.atomic_on_error_after_prepare :
    let : Json (PersistedState ⊕ CdiSpec) := sampleJson
    let : SortSlice := sampleSort
    let es := sampleEvents samplePair
    ∃ d, (run sampleConfig ∅ es).driver = some d ∧ d.AtomicOnError (run sampleConfig ∅ es).disk ∧
      ∃ p, d.prepared.lookup "uid-one" = some p ∧
        HasCDI sampleConfig p (run sampleConfig ∅ es).disk := by
  intro json sort es
  have hrunning : (run sampleConfig ∅ es).driver.isSome = true := by decide +kernel
  obtain ⟨d, hd⟩ := Option.isSome_iff_exists.mp hrunning
  obtain ⟨hatomic, hprepared⟩ := atomic_on_error sampleConfig ∅ es recordedApart_empty
    (apart_sampleEvents (by decide)) d hd
  obtain ⟨devices, hsince⟩ : ∃ devices, PreparedSince sampleConfig ∅ samplePair devices sampleStart
      ⟨.prepareClaim (some samplePair), [], none⟩ [] := exists_preparedSince (by decide +kernel)
  exact ⟨d, hd, hatomic, hprepared _ devices _ _ [] rfl hsince⟩

/-- The CDI file of the UID `/../../state/prepared` is the state file: a preparation that cannot
persist removes it. -/
theorem Node.failed_prepare_removes_state :
    ¬ ∀ (C : Type) (_ : Json C) (_ : SortSlice) (cfg : Config) (disk : Disk String C)
      (es : List (Event C)) (d : Driver cfg) (claim : Option ResourceClaim)
      (faults : List (Option (Fault C String))) (e : DriverError),
        RecordedApart cfg disk → (∀ x ∈ es, x.operation.Apart cfg) →
        (run cfg disk es).driver = some d →
        ((d.prepareClaim claim).run faults (run cfg disk es).disk).1.1 = .error e →
          Driver.Unchanged d (run cfg disk es).disk
            ((d.prepareClaim claim).run faults (run cfg disk es).disk).1.2
            ((d.prepareClaim claim).run faults (run cfg disk es).disk).2 := by
  intro h
  let : Json (PersistedState ⊕ CdiSpec) := sampleJson
  let : SortSlice := sampleSort
  let es := sampleEvents (sampleClaim "uid-one" [("accelerators", "gpu0")])
  let claim := sampleClaim "/../../state/prepared" [("accelerators", "gpu1")]
  let faults : List (Option (Fault (PersistedState ⊕ CdiSpec) String)) :=
    [none, none, some ⟨"no space left on device", none⟩]
  have hrunning : (run sampleConfig ∅ es).driver.isSome = true := by decide +kernel
  obtain ⟨d, hd⟩ := Option.isSome_iff_exists.mp hrunning
  have hafter : ((run sampleConfig ∅ es).driver.map fun d =>
      ((d.prepareClaim (some claim)).run faults (run sampleConfig ∅ es).disk).1.1.toOption) =
        some none := by decide +kernel
  have hremoved : ((run sampleConfig ∅ es).driver.map fun d =>
      ((d.prepareClaim (some claim)).run faults (run sampleConfig ∅ es).disk).2.lookup
        sampleConfig.statePath) = some none := by decide +kernel
  have hbefore : ((run sampleConfig ∅ es).disk.lookup sampleConfig.statePath).isSome = true := by
    decide +kernel
  rw [hd, Option.map_some, Option.some.injEq] at hafter hremoved
  cases herror : ((d.prepareClaim (some claim)).run faults (run sampleConfig ∅ es).disk).1.1 with
  | ok devices =>
      rw [herror] at hafter
      cases hafter
  | error e =>
      have hsame := (h _ sampleJson sampleSort sampleConfig ∅ es d (some claim) faults e
        recordedApart_empty (apart_sampleEvents (by decide)) hd herror).2
      rw [← hsame, hremoved] at hbefore
      cases hbefore

end AcceleratorFabric.Dra
