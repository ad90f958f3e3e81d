import AcceleratorFabric.DraPreparation

/-! # Leftover CDI files

`prepareClaim` writes the CDI file of a claim before it records the claim, and `unprepareClaim` only
looks at the record.  If the process stops between the two, or if neither the record can be stored
nor the file removed again, a CDI file is left that no `unprepareClaim` removes.

* `Leftover`: the CDI file exists and the state file does not record the claim.
* `Gone`: neither exists; it stays so until the claim is prepared again (`Node.gone_run`).
* `Node.Abandons` and `Node.Settles`: the preparations that make a leftover and that end one, told
  by the fate of their file requests (`Node.leftover_step_iff`, `Node.leftover_run_iff`).
* `Node.unprepare_cleans_iff`: `unprepareClaim` leaves no CDI file behind exactly if every abandoned
  preparation of the claim has been settled. -/

namespace AcceleratorFabric.Dra

open GoMap FaultyDisk

variable {C : Type} {cfg : Config} [Json C]

/-! ### Whose file it is -/

/-- Of the recorded claims this one has the CDI file of the UID, and no other has. -/
def OwnFiles (cfg : Config) (uid : String) (claims : GoMap String PreparedClaim) : Prop :=
  ∀ u p, claims.lookup u = some p → (p.cdiFile = cdiFile cfg uid ↔ u = uid)

section own

variable {uid : String} {claims : GoMap String PreparedClaim}

theorem OwnFiles.insert (h : OwnFiles cfg uid claims) {p : PreparedClaim}
    (hp : p.cdiFile = cdiFile cfg uid ↔ p.uid = uid) :
    OwnFiles cfg uid (claims.insert p.uid p) := by
  intro u q hq
  rw [lookup_insert_ite] at hq
  split_ifs at hq with hu
  · cases hq
    rw [hu]
    exact hp
  · exact h u q hq

theorem OwnFiles.erase (h : OwnFiles cfg uid claims) (u : String) :
    OwnFiles cfg uid (claims.erase u) := by
  intro v q hq
  rw [lookup_erase_ite] at hq
  split_ifs at hq
  exact h v q hq

end own

/-- The operation prepares the claim. -/
def Operation.Prepares (uid : String) (op : Operation) : Prop :=
  ∃ claim : ResourceClaim, op = .prepareClaim (some claim) ∧ claim.uid = uid

/-- The CDI file of a claim to prepare is apart from the state file, and not that of another
claim. -/
structure Operation.Proper (cfg : Config) (uid : String) (op : Operation) : Prop where
  apart : op.Apart cfg
  own : ∀ claim, op = .prepareClaim (some claim) → cdiFile cfg claim.uid = cdiFile cfg uid →
    claim.uid = uid

theorem Operation.Proper.own_iff [SortSlice] {uid : String} {claim : Option ResourceClaim}
    (h : (Operation.prepareClaim claim).Proper cfg uid) {p : PreparedClaim}
    (hp : preparedClaimFor cfg claim = .ok p) : p.cdiFile = cdiFile cfg uid ↔ p.uid = uid := by
  obtain ⟨c, _, _, rfl, _, _, _, hpuid, hpfile, _⟩ := preparedClaimFor_cases hp
  rw [hpuid, hpfile]
  exact ⟨h.own c rfl, fun heq => by rw [heq]⟩

omit [Json C] in
/-- UIDs without a slash have different CDI files. -/
theorem cdiFile_injective (cfg : Config) {uid uid' : String} (huid : '/' ∉ uid.toList)
    (huid' : '/' ∉ uid'.toList) (h : cdiFile cfg uid = cdiFile cfg uid') : uid = uid' := by
  have hlast := lastElement_cdiFile cfg huid
  rw [h, lastElement_cdiFile cfg huid'] at hlast
  exact String.toList_inj.mp (List.append_cancel_left (List.append_cancel_right hlast)).symm

omit [Json C] in
/-- In the deployed configuration all operations are proper, since Kubernetes UIDs have no slash. -/
theorem Operation.proper_mainConfig (nodeName stateRoot cdiDir : String) {uid : String}
    (huid : '/' ∉ uid.toList) {op : Operation}
    (hop : ∀ claim, op = .prepareClaim (some claim) → '/' ∉ claim.uid.toList) :
    op.Proper (mainConfig nodeName stateRoot cdiDir) uid := by
  refine ⟨?_, fun claim hclaim => cdiFile_injective _ (hop claim hclaim) huid⟩
  cases op with
  | prepareClaim claim =>
      rintro c rfl
      exact apart_mainConfig nodeName stateRoot cdiDir (hop c rfl)
  | unprepareClaim u => trivial
  | newDriver order => trivial

/-! ### Calls that spare the file -/

namespace Driver

variable {d : Driver cfg} {disk : Disk String C} {uid : String}

/-- Writing the CDI file of another claim. -/
theorem clear_of_ne {p : PreparedClaim} (h : p.cdiFile ≠ cdiFile cfg uid) :
    cdiFile cfg uid ≠ p.cdiFile ∧ cdiFile cfg uid ≠ temporary p.cdiFile :=
  ⟨h.symm, cdiFile_ne_temporary cfg uid _⟩

theorem persist_spares_cdi (hfile : Apart cfg (cdiFile cfg uid)) (d : Driver cfg)
    (disk : Disk String C) : (d.persist : Program C _).Spares (cdiFile cfg uid) disk :=
  d.persist_spares hfile.1.symm (cdiFile_ne_temporary cfg uid _) disk

theorem prepareClaim_spares_cdi [SortSlice] (hfile : Apart cfg (cdiFile cfg uid))
    (hown : OwnFiles cfg uid d.prepared) {claim : Option ResourceClaim}
    (hop : (Operation.prepareClaim claim).Proper cfg uid)
    (hnot : ¬ (Operation.prepareClaim claim).Prepares uid) :
    (d.prepareClaim claim : Program C _).Spares (cdiFile cfg uid) disk := by
  have hother : ∀ p, preparedClaimFor cfg claim = .ok p → p.uid ≠ uid := by
    intro p hp heq
    obtain ⟨c, _, _, rfl, _, _, _, hpuid, _, _⟩ := preparedClaimFor_cases hp
    exact hnot ⟨c, rfl, hpuid ▸ heq⟩
  rcases d.prepareClaim_cases (C := C) claim with ⟨e, hcall⟩ |
    ⟨asked, existing, hasked, hlook, _, hcall⟩ | ⟨p, hp, _, _, hcall⟩
  · rw [hcall]
    trivial
  · rw [hcall]
    have hne : existing.cdiFile ≠ cdiFile cfg uid := fun h =>
      hother asked hasked ((hown _ _ hlook).mp h)
    refine (writeCDI_spares (clear_of_ne hne) disk).bind ?_
    intro result _ _
    cases result <;> trivial
  · rw [hcall]
    have hne : p.cdiFile ≠ cdiFile cfg uid := fun h => hother p hp ((hop.own_iff hp).mp h)
    refine (writeCDI_spares (clear_of_ne hne) disk).bind ?_
    intro result disk' _
    cases result with
    | error e => trivial
    | ok _ =>
        refine (persist_spares_cdi hfile (d.record p.uid p) disk').bind ?_
        intro result disk'' _
        cases result with
        | error e =>
            refine (remove_spares hne.symm disk'').bind ?_
            intro _ _ _
            trivial
        | ok _ => trivial

theorem unprepareClaim_spares_cdi (hfile : Apart cfg (cdiFile cfg uid))
    (hown : OwnFiles cfg uid d.prepared) {u : String} (hu : u ≠ uid) :
    (d.unprepareClaim u : Program C _).Spares (cdiFile cfg uid) disk := by
  unfold Driver.unprepareClaim
  cases hp : d.prepared.lookup u with
  | none => trivial
  | some p =>
      have hne : p.cdiFile ≠ cdiFile cfg uid := fun h => hu ((hown u p hp).mp h)
      have hdrop : ∀ disk' : Disk String C,
          (d.dropClaim u p : Program C _).Spares (cdiFile cfg uid) disk' := by
        intro disk'
        refine (persist_spares_cdi hfile (d.forget u p) disk').bind ?_
        intro result disk'' _
        cases result with
        | error e =>
            refine (writeCDI_spares (clear_of_ne hne) disk'').bind ?_
            intro result _ _
            cases result <;> trivial
        | ok _ => trivial
      refine (remove_spares hne.symm disk).bind ?_
      intro answer disk' _
      cases answer with
      | ok _ => exact hdrop disk'
      | error e =>
          cases e with
          | notExist => exact hdrop disk'
          | failed e => trivial

/-! ### Unpreparing the claim itself -/

theorem unprepareClaim_of_unrecorded (h : d.prepared.lookup uid = none) :
    (d.unprepareClaim uid : Program C _) = pure (none, d) := by
  unfold Driver.unprepareClaim
  rw [h]

/-- At every moment the state file is the one of the given disk or there is no CDI file; and if the
call succeeds, there is no CDI file and the claim is not recorded any more. -/
def CleansUp (d : Driver cfg) (uid : String) (old : Disk String C)
    (p : Program C (Option DriverError × Driver cfg)) (disk : Disk String C) : Prop :=
  p.Always (fun disk' => disk'.lookup cfg.statePath = old.lookup cfg.statePath ∨
    disk'.lookup (cdiFile cfg uid) = none) disk ∧
  p.Post (fun result disk' => result.1 = none →
    disk'.lookup (cdiFile cfg uid) = none ∧ Stored cfg (d.prepared.erase uid) disk') disk

theorem dropClaim_cleansUp (hfile : Apart cfg (cdiFile cfg uid)) (d : Driver cfg)
    {p : PreparedClaim} (hp : Apart cfg p.cdiFile) {old : Disk String C}
    (hsame : disk.lookup cfg.statePath = old.lookup cfg.statePath)
    (habsent : disk.lookup (cdiFile cfg uid) = none) :
    d.CleansUp uid old (d.dropClaim uid p) disk := by
  have hspares := persist_spares_cdi hfile (d.forget uid p) disk
  have hpersisted := Prog.post_and ((d.forget uid p).persist_post disk) hspares.post
  constructor
  · refine (hspares.always fun disk' hcdi => .inr (hcdi.trans habsent)).bind ?_
    refine Prog.post_mono ?_ hpersisted
    rintro result disk' ⟨hpersist, hcdi⟩
    cases result with
    | ok _ => exact .inr (hcdi.trans habsent)
    | error e =>
        -- the claim is still recorded, and its CDI file is written again
        refine Prog.Spares.always (x := cfg.statePath) ?_ fun disk'' hlast =>
          .inl (hlast.trans (hpersist.trans hsame))
        refine (writeCDI_spares hp disk').bind ?_
        intro result _ _
        cases result <;> trivial
  · refine Prog.post_bind (Prog.post_mono ?_ hpersisted)
    rintro result disk' ⟨hpersist, hcdi⟩
    cases result with
    | ok _ => exact fun _ => ⟨hcdi.trans habsent, hpersist⟩
    | error e =>
        refine Prog.post_bind (Prog.post_mono ?_ (Prog.post_true _ disk'))
        intro result _ _
        cases result with
        | error e => rintro ⟨⟩
        | ok _ => rintro ⟨⟩

/-- A request before a program that cleans up. -/
theorem cleansUp_call {r : Request String C}
    {next : Except (FileError String) r.Answer → Program C (Option DriverError × Driver cfg)}
    (hnext : ∀ fault : Option (Fault C String),
      d.CleansUp uid disk (next (serve fault disk r).1) (serve fault disk r).2) :
    d.CleansUp uid disk (.call r next) disk :=
  ⟨⟨.inl rfl, fun fault => (hnext fault).1⟩, fun fault => (hnext fault).2⟩

theorem unprepareClaim_cleansUp (hfile : Apart cfg (cdiFile cfg uid)) {p : PreparedClaim}
    (hp : d.prepared.lookup uid = some p) (hown : p.cdiFile = cdiFile cfg uid)
    (disk : Disk String C) : d.CleansUp uid disk (d.unprepareClaim uid) disk := by
  have hapart : Apart cfg p.cdiFile := hown ▸ hfile
  unfold Driver.unprepareClaim
  rw [hp]
  apply cleansUp_call
  intro fault
  rcases serve_remove_cases fault disk p.cdiFile with ⟨e, hserve⟩ | ⟨hnone, hserve⟩ | hserve
  · rw [hserve]
    exact ⟨.inl rfl, by rintro ⟨⟩⟩
  · rw [hserve]
    exact dropClaim_cleansUp hfile d hapart rfl (hown ▸ hnone)
  · rw [hserve]
    refine dropClaim_cleansUp hfile d hapart ?_ ?_
    · rw [lookup_erase_ite, if_neg hapart.1]
    · rw [lookup_erase_ite, if_pos hown.symm]

end Driver

/-! ### Leftovers -/

/-- The CDI file of the claim exists, and the state file does not record the claim. -/
def Leftover (cfg : Config) (uid : String) (disk : Disk String C) : Prop :=
  disk.lookup (cdiFile cfg uid) ≠ none ∧ ∃ claims, Stored cfg claims disk ∧ claims.lookup uid = none

/-- The state file does not record the claim. -/
def Unrecorded (cfg : Config) (uid : String) (disk : Disk String C) : Prop :=
  ∀ claims, Stored cfg claims disk → claims.lookup uid = none

/-- There is no CDI file of the claim, and the state file does not record it. -/
structure Gone (cfg : Config) (uid : String) (disk : Disk String C) : Prop where
  absent : disk.lookup (cdiFile cfg uid) = none
  unrecorded : Unrecorded cfg uid disk

/-- The recorded claims have their own CDI files. -/
def RecordedOwn (cfg : Config) (uid : String) (disk : Disk String C) : Prop :=
  ∀ claims, Stored cfg claims disk → OwnFiles cfg uid claims

section leftovers

variable {uid : String} {disk disk' : Disk String C}

theorem Gone.not_leftover (h : Gone cfg uid disk) : ¬ Leftover cfg uid disk :=
  fun hleft => hleft.1 h.absent

theorem not_leftover_of_recorded {claims : GoMap String PreparedClaim} {p : PreparedClaim}
    (hstored : Stored cfg claims disk) (hp : claims.lookup uid = some p) :
    ¬ Leftover cfg uid disk := by
  rintro ⟨_, claims', hstored', hnone⟩
  rw [hstored.unique hstored', hnone] at hp
  cases hp

theorem Leftover.unrecorded (h : Leftover cfg uid disk) : Unrecorded cfg uid disk := by
  obtain ⟨_, claims, hstored, hnone⟩ := h
  intro claims' hstored'
  rw [hstored'.unique hstored, hnone]

theorem Leftover.congr (h : Leftover cfg uid disk)
    (hfile : disk'.lookup (cdiFile cfg uid) = disk.lookup (cdiFile cfg uid))
    (hstate : disk'.lookup cfg.statePath = disk.lookup cfg.statePath) :
    Leftover cfg uid disk' := by
  obtain ⟨hexists, claims, hstored, hnone⟩ := h
  exact ⟨hfile ▸ hexists, claims, hstored.congr hstate, hnone⟩

theorem Node.Keeps.not_leftover {p : PreparedClaim} {n : Node cfg C} (h : n.Keeps uid p) :
    ¬ Leftover cfg uid n.disk := by
  obtain ⟨claims, hstored, hp⟩ := h.stored
  exact not_leftover_of_recorded hstored hp

end leftovers

namespace Node

variable [SortSlice]

/-- What an operation can store instead of the claims of the driver. -/
def Changes (d : Driver cfg) (claims : GoMap String PreparedClaim) : Operation → Prop
  | .prepareClaim claim => ∃ p, preparedClaimFor cfg claim = .ok p ∧
      claims = d.prepared.insert p.uid p
  | .unprepareClaim u => claims = d.prepared.erase u
  | .newDriver _ => False

theorem Invariant.program_changes {n : Node cfg C} (h : n.Invariant) {op : Operation}
    (hop : op.Apart cfg) :
    (op.program n.driver).Post (fun _ disk' =>
      disk'.lookup cfg.statePath = n.disk.lookup cfg.statePath ∨
        ∃ d claims, n.driver = some d ∧ Stored cfg claims disk' ∧ Changes d claims op) n.disk := by
  obtain ⟨disk, driver⟩ := n
  cases op with
  | prepareClaim claim =>
      cases driver with
      | none => exact .inl rfl
      | some d =>
          refine Prog.post_bind (Prog.post_mono ?_ ((h.sound d rfl).prepareClaim_post hop))
          rintro result disk' (⟨_, hsame⟩ | ⟨⟨p, hp, _, _, hrecord, hstored⟩, _⟩)
          · exact .inl hsame
          · rw [hrecord] at hstored
            exact .inr ⟨d, _, rfl, hstored, p, hp, rfl⟩
  | unprepareClaim u =>
      cases driver with
      | none => exact .inl rfl
      | some d =>
          refine Prog.post_bind (Prog.post_mono ?_ ((h.sound d rfl).unprepareClaim_post u))
          rintro result disk' (⟨_, hsame⟩ | ⟨⟨p, _, hforget, hstored⟩, _⟩)
          · exact .inl hsame
          · rw [hforget] at hstored
            exact .inr ⟨d, _, rfl, hstored, rfl⟩
  | newDriver order =>
      refine Prog.post_bind (Prog.post_mono ?_ (newDriver_spares order h.recorded.spare).post)
      intro result disk' hsame
      cases result with
      | error e => exact .inl hsame
      | ok d => exact .inl hsame

/-- **What an event does to the recorded claims**: nothing, or the change of its operation. -/
theorem Invariant.step_changes {n : Node cfg C} (h : n.Invariant) {e : Event C}
    (he : e.operation.Apart cfg) :
    (n.step e).disk.lookup cfg.statePath = n.disk.lookup cfg.statePath ∨
      ∃ d claims, n.driver = some d ∧ Stored cfg claims (n.step e).disk ∧
        Changes d claims e.operation := by
  have hrun := Prog.post_run (h.program_changes he) e.faults
  unfold Node.step
  cases e.crash with
  | none => exact hrun
  | some k =>
      rcases (h.program_switches he).crashAfter k e.faults with hold | hfinal
      · exact .inl hold
      · rcases hrun with hsame | ⟨d, claims, hd, hstored, hchanges⟩
        · exact .inl (hfinal.trans hsame)
        · exact .inr ⟨d, claims, hd, hstored.congr hfinal, hchanges⟩

variable {uid : String} {n : Node cfg C} {e : Event C}

theorem recordedOwn_step (h : RecordedOwn cfg uid n.disk) (hinv : n.Invariant)
    (he : e.operation.Proper cfg uid) : RecordedOwn cfg uid (n.step e).disk := by
  intro claims hclaims
  rcases hinv.step_changes he.apart with hsame | ⟨d, claims', hd, hstored, hchanges⟩
  · exact h claims (hclaims.congr hsame.symm)
  · have hown := h _ (hinv.sound d hd).stored
    rw [hclaims.unique hstored]
    cases hop : e.operation with
    | prepareClaim claim =>
        rw [hop] at hchanges he
        obtain ⟨p, hp, rfl⟩ := hchanges
        exact hown.insert (he.own_iff hp)
    | unprepareClaim u =>
        rw [hop] at hchanges
        rw [show claims' = _ from hchanges]
        exact hown.erase u
    | newDriver order =>
        rw [hop] at hchanges
        cases hchanges

theorem invariant_own_step (n : Node cfg C) (e : Event C)
    (h : n.Invariant ∧ RecordedOwn cfg uid n.disk) (he : e.operation.Proper cfg uid) :
    (n.step e).Invariant ∧ RecordedOwn cfg uid (n.step e).disk :=
  ⟨h.1.step he.apart, recordedOwn_step h.2 h.1 he⟩

theorem step_disk (n : Node cfg C) (e : Event C) : (n.step e).disk =
    (e.operation.program n.driver).stop e.crash e.faults 0 n.disk := by
  unfold Node.step
  cases e.crash <;> rfl

/-! ### A claim that is not recorded -/

/-- Without a record of the claim, only its own preparation touches its CDI file. -/
theorem spares_of_unrecorded (h : Unrecorded cfg uid n.disk) (hinv : n.Invariant)
    (hown : RecordedOwn cfg uid n.disk) (hfile : Apart cfg (cdiFile cfg uid)) {op : Operation}
    (hop : op.Proper cfg uid) (hnot : ¬ op.Prepares uid) :
    (op.program n.driver : Program C _).Spares (cdiFile cfg uid) n.disk := by
  obtain ⟨disk, driver⟩ := n
  cases op with
  | prepareClaim claim =>
      cases driver with
      | none => trivial
      | some d =>
          have hd := hown _ (hinv.sound d rfl).stored
          exact (Driver.prepareClaim_spares_cdi hfile hd hop hnot).bind fun _ _ _ => trivial
  | unprepareClaim u =>
      cases driver with
      | none => trivial
      | some d =>
          by_cases hu : u = uid
          · subst hu
            have hcall := Driver.unprepareClaim_of_unrecorded (C := C)
              (h _ (hinv.sound d rfl).stored)
            have hspares : (d.unprepareClaim u : Program C _).Spares (cdiFile cfg u) disk := by
              rw [hcall]
              trivial
            exact hspares.bind fun _ _ _ => trivial
          · have hd := hown _ (hinv.sound d rfl).stored
            exact (Driver.unprepareClaim_spares_cdi hfile hd hu).bind fun _ _ _ => trivial
  | newDriver order =>
      refine (newDriver_spares order ?_).bind ?_
      · intro claims hclaims u p hp
        have hu : u ≠ uid := by
          rintro rfl
          rw [h claims hclaims] at hp
          cases hp
        exact Driver.clear_of_ne fun heq => hu ((hown claims hclaims u p hp).mp heq)
      · intro result _ _
        cases result <;> trivial

theorem unrecorded_step (h : Unrecorded cfg uid n.disk) (hinv : n.Invariant)
    (he : e.operation.Apart cfg) (hnot : ¬ e.operation.Prepares uid) :
    Unrecorded cfg uid (n.step e).disk := by
  intro claims hclaims
  rcases hinv.step_changes he with hsame | ⟨d, claims', hd, hstored, hchanges⟩
  · exact h claims (hclaims.congr hsame.symm)
  have hnone := h _ (hinv.sound d hd).stored
  rw [hclaims.unique hstored]
  cases hop : e.operation with
  | prepareClaim claim =>
      rw [hop] at hchanges hnot
      obtain ⟨p, hp, rfl⟩ := hchanges
      obtain ⟨c, _, _, rfl, _, _, _, hpuid, _, _⟩ := preparedClaimFor_cases hp
      have hne : uid ≠ p.uid := fun heq => hnot ⟨c, rfl, by rw [heq, hpuid]⟩
      rw [lookup_insert_ite, if_neg hne]
      exact hnone
  | unprepareClaim u =>
      rw [hop] at hchanges
      rw [show claims' = _ from hchanges, lookup_erase_ite, hnone, ite_self]
  | newDriver order =>
      rw [hop] at hchanges
      cases hchanges

theorem gone_step (h : Gone cfg uid n.disk) (hinv : n.Invariant) (hown : RecordedOwn cfg uid n.disk)
    (hfile : Apart cfg (cdiFile cfg uid)) (he : e.operation.Proper cfg uid)
    (hnot : ¬ e.operation.Prepares uid) : Gone cfg uid (n.step e).disk := by
  have hspares := spares_of_unrecorded h.unrecorded hinv hown hfile he hnot
  refine ⟨?_, unrecorded_step h.unrecorded hinv he.apart hnot⟩
  rw [step_disk, hspares.stop]
  exact h.absent

/-- **A claim that is gone stays gone** until it is prepared again. -/
theorem gone_run (h : Gone cfg uid n.disk) (hinv : n.Invariant) (hown : RecordedOwn cfg uid n.disk)
    (hfile : Apart cfg (cdiFile cfg uid)) {es : List (Event C)}
    (hes : ∀ e ∈ es, e.operation.Proper cfg uid ∧ ¬ e.operation.Prepares uid) :
    Gone cfg uid (Runs.run Node.step n es).disk := by
  have hstep : ∀ (n : Node cfg C) (e : Event C),
      n.Invariant ∧ RecordedOwn cfg uid n.disk ∧ Gone cfg uid n.disk →
      e.operation.Proper cfg uid ∧ ¬ e.operation.Prepares uid →
        (n.step e).Invariant ∧ RecordedOwn cfg uid (n.step e).disk ∧ Gone cfg uid (n.step e).disk :=
    fun n e hn he => ⟨hn.1.step he.1.apart, recordedOwn_step hn.2.1 hn.1 he.1,
      gone_step hn.2.2 hn.1 hn.2.1 hfile he.1 he.2⟩
  exact (Runs.invariant_run _ hstep es n ⟨hinv, hown, h⟩ (Runs.along_of_forall es n hes)).2.2

/-! ### How leftovers come about -/

/-- The running driver takes the claim up: it has not prepared it, and no other claim owns one of
its devices. -/
def TakesUp (uid : String) (n : Node cfg C) (e : Event C) : Prop :=
  ∃ d claim p, n.driver = some d ∧ e.operation = .prepareClaim claim ∧
    preparedClaimFor cfg claim = .ok p ∧ p.uid = uid ∧ d.prepared.lookup uid = none ∧
    d.conflict uid p.keys = none

/-- A preparation of the claim puts its CDI file in place and ends before the record is stored or
the CDI file removed again: the process stops between the two renames, or on the way from a failed
write of the record to the removal, or that fails too. -/
structure Abandons (uid : String) (n : Node cfg C) (e : Event C) : Prop where
  takesUp : n.TakesUp uid e
  placed : e.CdiPlaced
  not_stored : ¬ e.RecordStored
  not_removed : ¬ e.CdiRemoved

/-- A preparation of the claim puts its CDI file in place, and then stores the record or removes
the CDI file again. -/
structure Settles (uid : String) (n : Node cfg C) (e : Event C) : Prop where
  takesUp : n.TakesUp uid e
  placed : e.CdiPlaced
  settled : e.RecordStored ∨ e.CdiRemoved

omit [SortSlice] in
/-- Without a leftover the claim is gone or recorded, or the state file cannot be read. -/
theorem Invariant.cases_of_not_leftover (hinv : n.Invariant) (h : ¬ Leftover cfg uid n.disk) :
    Gone cfg uid n.disk ∨ (∃ p, n.Keeps uid p) ∨
      n.driver = none ∧ ∀ claims, ¬ Stored cfg claims n.disk := by
  by_cases hstored : ∃ claims, Stored cfg claims n.disk
  · obtain ⟨claims, hclaims⟩ := hstored
    cases hp : claims.lookup uid with
    | none =>
        left
        refine ⟨?_, fun claims' hclaims' => by rw [hclaims'.unique hclaims, hp]⟩
        by_contra hexists
        exact h ⟨hexists, claims, hclaims, hp⟩
    | some p =>
        right
        left
        refine ⟨p, ⟨claims, hclaims, hp⟩, fun d hd => ?_⟩
        rw [(hinv.sound d hd).stored.unique hclaims, hp]
  · right
    right
    refine ⟨?_, fun claims hclaims => hstored ⟨claims, hclaims⟩⟩
    cases hd : n.driver with
    | none => rfl
    | some d => exact absurd ⟨d.prepared, (hinv.sound d hd).stored⟩ hstored

/-- Unpreparing a recorded claim leaves no leftover, wherever it stops. -/
theorem Keeps.not_leftover_unprepareClaim {p : PreparedClaim} (h : n.Keeps uid p)
    (hown : RecordedOwn cfg uid n.disk) (hfile : Apart cfg (cdiFile cfg uid))
    (hop : e.operation = .unprepareClaim uid) : ¬ Leftover cfg uid (n.step e).disk := by
  obtain ⟨claims, hclaims, hp⟩ := h.stored
  have hcdi : p.cdiFile = cdiFile cfg uid := (hown claims hclaims uid p hp).mpr rfl
  have hmoment : ∀ disk' : Disk String C,
      (disk'.lookup cfg.statePath = n.disk.lookup cfg.statePath ∨
        disk'.lookup (cdiFile cfg uid) = none) → ¬ Leftover cfg uid disk' := by
    rintro disk' (hsame | habsent)
    · exact not_leftover_of_recorded (hclaims.congr hsame) hp
    · exact fun hleft => hleft.1 habsent
  have halways : (e.operation.program n.driver : Program C _).Always (fun disk' =>
      disk'.lookup cfg.statePath = n.disk.lookup cfg.statePath ∨
        disk'.lookup (cdiFile cfg uid) = none) n.disk := by
    rw [hop]
    unfold Operation.program
    cases hd : n.driver with
    | none => exact .inl rfl
    | some d =>
        have hclean := (Driver.unprepareClaim_cleansUp hfile (h.running d hd) hcdi n.disk).1
        exact hclean.bind hclean.post
  rw [step_disk]
  exact hmoment _ halways.stop

/-- Other events neither make a leftover nor remove one. -/
theorem leftover_step_of_not_prepares (hinv : n.Invariant) (hown : RecordedOwn cfg uid n.disk)
    (hfile : Apart cfg (cdiFile cfg uid)) (he : e.operation.Proper cfg uid)
    (hnot : ¬ e.operation.Prepares uid) :
    Leftover cfg uid (n.step e).disk ↔ Leftover cfg uid n.disk := by
  constructor
  · intro hafter
    by_contra h
    revert hafter
    rcases hinv.cases_of_not_leftover h with hgone | ⟨p, hkeeps⟩ | ⟨hdriver, hbroken⟩
    · exact (gone_step hgone hinv hown hfile he hnot).not_leftover
    · by_cases hop : e.operation = .unprepareClaim uid
      · exact hkeeps.not_leftover_unprepareClaim hown hfile hop
      · exact (hkeeps.step hinv he.apart fun heq => absurd heq hop).not_leftover
    · rintro ⟨_, claims, hclaims, _⟩
      rcases hinv.step_changes he.apart with hsame | ⟨d, _, hd, _⟩
      · exact hbroken claims (hclaims.congr hsame.symm)
      · rw [hdriver] at hd
        cases hd
  · intro h
    have hspares := spares_of_unrecorded h.unrecorded hinv hown hfile he hnot
    have hunrecorded := unrecorded_step h.unrecorded hinv he.apart hnot
    obtain ⟨hexists, claims, hstored, _⟩ := h
    refine ⟨by rw [step_disk, hspares.stop]; exact hexists, ?_⟩
    rcases hinv.step_changes he.apart with hsame | ⟨d, claims', _, hstored', _⟩
    · exact ⟨claims, hstored.congr hsame, hunrecorded _ (hstored.congr hsame)⟩
    · exact ⟨claims', hstored', hunrecorded _ hstored'⟩

theorem step_disk_prepareClaim {d : Driver cfg} {claim : Option ResourceClaim}
    (hd : n.driver = some d) (hop : e.operation = .prepareClaim claim) :
    (n.step e).disk = (d.prepareClaim claim).stop e.crash e.faults 0 n.disk := by
  rw [step_disk, hop, hd]
  exact Prog.stop_bind_done _ _

/-- A preparation that is not taken up makes no difference: the driver refuses it, or the claim is
recorded. -/
theorem leftover_step_of_not_takesUp (hinv : n.Invariant) (hprepares : e.operation.Prepares uid)
    (hnot : ¬ n.TakesUp uid e) :
    Leftover cfg uid (n.step e).disk ↔ Leftover cfg uid n.disk := by
  obtain ⟨claim, hop, rfl⟩ := hprepares
  cases hd : n.driver with
  | none =>
      rw [step_disk, hop, hd]
      exact iff_of_eq (congrArg _ (Prog.stop_done _))
  | some d =>
      have hsound := hinv.sound d hd
      have huid : ∀ p, preparedClaimFor cfg (some claim) = .ok p → p.uid = claim.uid := by
        intro p hp
        obtain ⟨c, _, _, ⟨⟩, _, _, _, hpuid, _⟩ := preparedClaimFor_cases hp
        exact hpuid
      rw [step_disk_prepareClaim hd hop]
      rcases d.prepareClaim_cases (C := C) (some claim) with ⟨cause, hcall⟩ |
        ⟨asked, existing, hasked, hlook, _, hcall⟩ | ⟨p, hp, hlook, hconflict, hcall⟩
      · rw [hcall, Prog.pure_eq, Prog.stop_done]
      · have hspares : (d.prepareAgain existing : Program C _).Spares cfg.statePath n.disk := by
          refine (writeCDI_spares (hsound.apart _ _ hlook) n.disk).bind ?_
          intro result _ _
          cases result <;> trivial
        rw [huid asked hasked] at hlook
        rw [hcall]
        exact iff_of_false (not_leftover_of_recorded (hsound.stored.congr hspares.stop) hlook)
          (not_leftover_of_recorded hsound.stored hlook)
      · rw [huid p hp] at hlook hconflict
        exact absurd ⟨d, some claim, p, hd, hop, hp, huid p hp, hlook, hconflict⟩ hnot

/-- What a preparation that is taken up does, by the fate of its requests. -/
theorem leftover_step_of_takesUp (hinv : n.Invariant) (he : e.operation.Apart cfg)
    (h : n.TakesUp uid e) : Leftover cfg uid (n.step e).disk ↔
      (e.CdiPlaced ∧ ¬ e.RecordStored ∧ ¬ e.CdiRemoved) ∨
        (Leftover cfg uid n.disk ∧ ¬ e.CdiPlaced) := by
  obtain ⟨d, claim, p, hd, hop, hp, rfl, hnone, hfree⟩ := h
  have hstored := (hinv.sound d hd).stored
  have hcdi : p.cdiFile = cdiFile cfg p.uid := by
    obtain ⟨c, _, _, _, _, _, _, hpuid, hpfile, _⟩ := preparedClaimFor_cases hp
    rw [hpfile, hpuid]
  have hapart : Apart cfg p.cdiFile := by
    rw [hop] at he
    exact Driver.ClaimApart.file he hp
  have hcall : (d.prepareClaim claim : Program C _) = d.prepareNew p := by
    unfold Driver.prepareClaim
    simp only [hp, hnone, hfree]
  rw [step_disk_prepareClaim hd hop, hcall]
  rcases d.prepareNew_stop hcdi hapart e n.disk with ⟨hplaced, hfile, hstate⟩ |
    ⟨hplaced, hrecorded, hnew⟩ | ⟨hplaced, hrecorded, hfile, hstate⟩
  · rw [hcdi] at hfile
    simp only [hplaced, false_and, false_or, not_false_eq_true, and_true]
    exact ⟨fun h => h.congr hfile.symm hstate.symm, fun h => h.congr hfile hstate⟩
  · have hentry : (d.record p.uid p).prepared.lookup p.uid = some p := by
      rw [Driver.record, lookup_insert_ite, if_pos rfl]
    simp only [hplaced, hrecorded, not_true_eq_false, false_and, and_false, or_false, iff_false]
    exact not_leftover_of_recorded hnew hentry
  · rw [hcdi] at hfile
    simp only [hplaced, hrecorded, not_false_eq_true, not_true_eq_false, true_and, and_false,
      or_false]
    rw [← hfile]
    exact ⟨fun h => h.1, fun h => ⟨h, d.prepared, hstored.congr hstate, hnone⟩⟩

/-- **How an event changes whether there is a leftover.** -/
theorem leftover_step_iff (hinv : n.Invariant) (hown : RecordedOwn cfg uid n.disk)
    (hfile : Apart cfg (cdiFile cfg uid)) (he : e.operation.Proper cfg uid) :
    Leftover cfg uid (n.step e).disk ↔
      n.Abandons uid e ∨ Leftover cfg uid n.disk ∧ ¬ n.Settles uid e := by
  by_cases htakes : n.TakesUp uid e
  · rw [leftover_step_of_takesUp hinv he.apart htakes]
    constructor
    · rintro (⟨hplaced, hstored, hremoved⟩ | ⟨hleft, hplaced⟩)
      · exact .inl ⟨htakes, hplaced, hstored, hremoved⟩
      · exact .inr ⟨hleft, fun h => hplaced h.placed⟩
    · rintro (h | ⟨hleft, hsettles⟩)
      · exact .inl ⟨h.placed, h.not_stored, h.not_removed⟩
      · by_cases hplaced : e.CdiPlaced
        · exact .inl ⟨hplaced, fun h => hsettles ⟨htakes, hplaced, .inl h⟩,
            fun h => hsettles ⟨htakes, hplaced, .inr h⟩⟩
        · exact .inr ⟨hleft, hplaced⟩
  · have hsame : Leftover cfg uid (n.step e).disk ↔ Leftover cfg uid n.disk := by
      by_cases hprepares : e.operation.Prepares uid
      · exact leftover_step_of_not_takesUp hinv hprepares htakes
      · exact leftover_step_of_not_prepares hinv hown hfile he hprepares
    rw [hsame]
    refine ⟨fun h => .inr ⟨h, fun hsettles => htakes hsettles.takesUp⟩, ?_⟩
    rintro (h | h)
    · exact absurd h.takesUp htakes
    · exact h.1

/-- **Leftovers of a run**: a preparation abandons the CDI file, and none settles it since. -/
theorem leftover_run_iff {disk : Disk String C} (hdisk : RecordedApart cfg disk)
    (hown : RecordedOwn cfg uid disk) (hfile : Apart cfg (cdiFile cfg uid)) {es : List (Event C)}
    (hes : ∀ e ∈ es, e.operation.Proper cfg uid) (hclean : ¬ Leftover cfg uid disk) :
    Leftover cfg uid (run cfg disk es).disk ↔
      ∃ before e after, es = before ++ e :: after ∧ (run cfg disk before).Abandons uid e ∧
        Runs.Along Node.step (fun (n : Node cfg C) e => ¬ n.Settles uid e)
          (run cfg disk (before ++ [e])) after := by
  refine (Runs.holds_run_iff _ (fun n : Node cfg C => Leftover cfg uid n.disk) invariant_own_step
    (fun n e hn he => leftover_step_iff hn.1 hn.2 hfile he) es ⟨disk, none⟩
    ⟨invariant_start hdisk, hown⟩ hes).trans ⟨?_, .inr⟩
  rintro (h | h)
  · exact absurd h.1 hclean
  · exact h

theorem recordedOwn_run {disk : Disk String C} (hdisk : RecordedApart cfg disk)
    (hown : RecordedOwn cfg uid disk) {es : List (Event C)}
    (hes : ∀ e ∈ es, e.operation.Proper cfg uid) : RecordedOwn cfg uid (run cfg disk es).disk :=
  (Runs.invariant_run _ invariant_own_step es ⟨disk, none⟩ ⟨invariant_start hdisk, hown⟩
    (Runs.along_of_forall es _ hes)).2

/-! ### Unpreparing -/

/-- The event is an `unprepareClaim` of the claim that returns nil. -/
structure ReturnsNil (uid : String) (n : Node cfg C) (e : Event C) : Prop where
  operation_eq : e.operation = .unprepareClaim uid
  completed : e.crash = none
  returned : ∃ d, n.driver = some d ∧ ((d.unprepareClaim uid).run e.faults n.disk).1.1 = none

theorem step_unprepareClaim {d : Driver cfg} (hd : n.driver = some d)
    (hop : e.operation = .unprepareClaim uid) (hcrash : e.crash = none) :
    n.step e = ⟨((d.unprepareClaim uid).run e.faults n.disk).2,
      some ((d.unprepareClaim uid).run e.faults n.disk).1.2⟩ := by
  unfold Node.step
  simp only [hcrash, hop, hd, unprepareClaim_run]

theorem gone_of_returnsNil (h : ¬ Leftover cfg uid n.disk) (hinv : n.Invariant)
    (hown : RecordedOwn cfg uid n.disk) (hfile : Apart cfg (cdiFile cfg uid))
    (he : n.ReturnsNil uid e) : Gone cfg uid (n.step e).disk := by
  obtain ⟨d, hd, hnil⟩ := he.returned
  have hstored := (hinv.sound d hd).stored
  rw [step_unprepareClaim hd he.operation_eq he.completed]
  cases hp : d.prepared.lookup uid with
  | none =>
      rw [Driver.unprepareClaim_of_unrecorded hp]
      refine ⟨?_, fun claims hclaims => by rw [hclaims.unique hstored, hp]⟩
      by_contra hexists
      exact h ⟨hexists, d.prepared, hstored, hp⟩
  | some p =>
      have hcdi : p.cdiFile = cdiFile cfg uid := (hown _ hstored uid p hp).mpr rfl
      have hclean := (Driver.unprepareClaim_cleansUp hfile hp hcdi n.disk).2
      obtain ⟨habsent, herased⟩ := Prog.post_run hclean e.faults hnil
      refine ⟨habsent, fun claims hclaims => ?_⟩
      rw [hclaims.unique herased, lookup_erase_ite, if_pos rfl]

end Node

/-! ### The result -/

theorem Operation.proper_unprepareClaim (cfg : Config) (uid u : String) :
    (Operation.unprepareClaim u).Proper cfg uid :=
  ⟨trivial, by rintro claim ⟨⟩⟩

/-- `unprepareClaim` leaves no CDI file behind, from the moment it returns nil until the claim is
prepared again, exactly if no CDI file of the claim is left over without a record. -/
theorem Node.unprepare_cleans_iff_not_leftover [SortSlice] {disk : Disk String C} {uid : String}
    {es : List (Event C)} (hdisk : RecordedApart cfg disk) (hown : RecordedOwn cfg uid disk)
    (hfile : Apart cfg (cdiFile cfg uid)) (hes : ∀ e ∈ es, e.operation.Proper cfg uid)
    {d : Driver cfg} (hd : (run cfg disk es).driver = some d) :
    (∀ e after, (run cfg disk es).ReturnsNil uid e →
      (∀ x ∈ after, x.operation.Proper cfg uid ∧ ¬ x.operation.Prepares uid) →
        (run cfg disk (es ++ e :: after)).disk.lookup (cdiFile cfg uid) = none) ↔
      ¬ Leftover cfg uid (run cfg disk es).disk := by
  have hinv : (run cfg disk es).Invariant := invariant_run hdisk fun e he => (hes e he).apart
  constructor
  · rintro hcleans ⟨hexists, claims, hclaims, hunrecorded⟩
    -- the claim is not recorded, so the call does nothing
    have hlookup : d.prepared.lookup uid = none := by
      rw [(hinv.sound d hd).stored.unique hclaims, hunrecorded]
    have hcall := Driver.unprepareClaim_of_unrecorded (C := C) hlookup
    have hreturns : (run cfg disk es).ReturnsNil uid ⟨.unprepareClaim uid, [], none⟩ :=
      ⟨rfl, rfl, d, hd, by rw [hcall]; rfl⟩
    have habsent := hcleans _ [] hreturns (by simp)
    rw [run_append] at habsent
    change ((run cfg disk es).step ⟨.unprepareClaim uid, [], none⟩).disk.lookup _ = none at habsent
    rw [step_unprepareClaim hd rfl rfl, hcall] at habsent
    exact hexists habsent
  · intro hnone e after he hafter
    have hrecorded := recordedOwn_run hdisk hown hes
    have hproper : e.operation.Proper cfg uid := by
      rw [he.operation_eq]
      exact Operation.proper_unprepareClaim cfg uid uid
    have hgone := gone_of_returnsNil hnone hinv hrecorded hfile he
    rw [run_append]
    exact (gone_run hgone (hinv.step hproper.apart) (recordedOwn_step hrecorded hinv hproper) hfile
      hafter).absent

/-- **`unprepareClaim` leaves no CDI file behind**, after a run and from the moment it returns nil
until the claim is prepared again, if and only if every preparation that abandoned the CDI file was
followed by one that settled it. -/
theorem Node.unprepare_cleans_iff [SortSlice] (cfg : Config) (disk : Disk String C) (uid : String)
    (es : List (Event C)) (hdisk : RecordedApart cfg disk) (hown : RecordedOwn cfg uid disk)
    (hclean : ¬ Leftover cfg uid disk) (hfile : Apart cfg (cdiFile cfg uid))
    (hes : ∀ e ∈ es, e.operation.Proper cfg uid) (d : Driver cfg)
    (hd : (run cfg disk es).driver = some d) :
    (∀ e after, (run cfg disk es).ReturnsNil uid e →
      (∀ x ∈ after, x.operation.Proper cfg uid ∧ ¬ x.operation.Prepares uid) →
        (run cfg disk (es ++ e :: after)).disk.lookup (cdiFile cfg uid) = none) ↔
      ∀ before e after, es = before ++ e :: after → (run cfg disk before).Abandons uid e →
        ¬ Runs.Along Node.step (fun (n : Node cfg C) x => ¬ n.Settles uid x)
          (run cfg disk (before ++ [e])) after := by
  rw [unprepare_cleans_iff_not_leftover hdisk hown hfile hes hd,
    leftover_run_iff hdisk hown hfile hes hclean]
  constructor
  · exact fun h before e after heq habandons halong => h ⟨before, e, after, heq, habandons, halong⟩
  · rintro h ⟨before, e, after, heq, habandons, halong⟩
    exact h before e after heq habandons halong

/-! ### Concrete runs -/

theorem recordedOwn_empty {uid : String} : RecordedOwn cfg uid (∅ : Disk String C) := by
  intro claims hclaims u p hp
  rw [show claims = ∅ from hclaims] at hp
  simp at hp

theorem not_leftover_empty {uid : String} : ¬ Leftover cfg uid (∅ : Disk String C) :=
  fun h => h.1 (by simp)

/-- The only claim of the runs below. -/
def sampleSingle : ResourceClaim := sampleClaim "uid-one" [("accelerators", "gpu0")]

theorem proper_sample {op : Operation}
    (h : ∀ claim, op = .prepareClaim (some claim) → claim = sampleSingle) :
    op.Proper sampleConfig "uid-one" := by
  refine Operation.proper_mainConfig "worker" "/state" "/cdi" (by decide) fun claim hclaim => ?_
  rw [h claim hclaim]
  decide

/-- The process stops after the preparation of the claim has put the CDI file in place and before
it has stored the record; then a new driver starts. -/
def interruptedEvents {C : Type} : List (Event C) :=
  [⟨.newDriver sampleOrder, [], none⟩, ⟨.prepareClaim (some sampleSingle), [], some 2⟩,
    ⟨.newDriver sampleOrder, [], none⟩]

theorem proper_interruptedEvents {C : Type} : ∀ e ∈ (interruptedEvents : List (Event C)),
    e.operation.Proper sampleConfig "uid-one" := by
  simp only [interruptedEvents, List.forall_mem_cons]
  refine ⟨proper_sample (by rintro claim ⟨⟩), proper_sample ?_, proper_sample (by rintro claim ⟨⟩),
    by simp⟩
  rintro claim ⟨⟩
  rfl

/-- The kubelet asks again, and the second preparation settles what the first one abandoned. -/
theorem Node.unprepare_cleans_after_retry :
    let : Json (PersistedState ⊕ CdiSpec) := sampleJson
    let : SortSlice := sampleSort
    let es : List (Event (PersistedState ⊕ CdiSpec)) :=
      interruptedEvents ++ [⟨.prepareClaim (some sampleSingle), [], none⟩]
    (run sampleConfig ∅ es).disk.lookup (cdiFile sampleConfig "uid-one") ≠ none ∧
      (run sampleConfig ∅ (es ++ [⟨.unprepareClaim "uid-one", [], none⟩])).disk.lookup
        (cdiFile sampleConfig "uid-one") = none := by
  intro json sort es
  have hproper : ∀ e ∈ es, e.operation.Proper sampleConfig "uid-one" := by
    simp only [es, List.forall_mem_append, List.forall_mem_singleton]
    refine ⟨proper_interruptedEvents, proper_sample ?_⟩
    rintro claim ⟨⟩
    rfl
  have hapart : Apart sampleConfig (cdiFile sampleConfig "uid-one") :=
    apart_mainConfig "worker" "/state" "/cdi" (by decide)
  have hrecorded : ((run sampleConfig ∅ es).driver.bind fun d =>
      d.prepared.lookup "uid-one").isSome = true := by decide +kernel
  obtain ⟨p, hp⟩ := Option.isSome_iff_exists.mp hrecorded
  obtain ⟨d, hd, hp⟩ := Option.bind_eq_some_iff.mp hp
  have hinv := invariant_run recordedApart_empty fun e he => (hproper e he).apart
  have hnil : ((run sampleConfig ∅ es).driver.map fun d =>
      ((d.unprepareClaim "uid-one").run [] (run sampleConfig ∅ es).disk).1.1) = some none := by
    decide +kernel
  rw [hd] at hnil
  refine ⟨by decide +kernel, ?_⟩
  refine (unprepare_cleans_iff sampleConfig ∅ "uid-one" es recordedApart_empty recordedOwn_empty
    not_leftover_empty hapart hproper d hd).mpr ?_ _ [] ⟨rfl, rfl, d, hd, Option.some.inj hnil⟩
    (by simp)
  intro before e after heq habandons halong
  exact not_leftover_of_recorded (hinv.sound d hd).stored hp
    ((leftover_run_iff recordedApart_empty recordedOwn_empty hapart hproper
      not_leftover_empty).mpr ⟨before, e, after, heq, habandons, halong⟩)

/-- The new driver does not know the claim, so `unprepareClaim` returns nil and leaves the CDI
file. -/
theorem Node.interrupted_preparation_leaves_file :
    ¬ ∀ (C : Type) (_ : Json C) (_ : SortSlice) (cfg : Config) (disk : Disk String C) (uid : String)
      (es : List (Event C)) (e : Event C) (after : List (Event C)), RecordedApart cfg disk →
      RecordedOwn cfg uid disk → ¬ Leftover cfg uid disk → Apart cfg (cdiFile cfg uid) →
      (∀ x ∈ es ++ e :: after, x.operation.Proper cfg uid) → (run cfg disk es).ReturnsNil uid e →
      (∀ x ∈ after, ¬ x.operation.Prepares uid) →
        (run cfg disk (es ++ e :: after)).disk.lookup (cdiFile cfg uid) = none := by
  intro h
  let : Json (PersistedState ⊕ CdiSpec) := sampleJson
  let : SortSlice := sampleSort
  let es : List (Event (PersistedState ⊕ CdiSpec)) := interruptedEvents
  let e : Event (PersistedState ⊕ CdiSpec) := ⟨.unprepareClaim "uid-one", [], none⟩
  have hproper : ∀ x ∈ es ++ [e], x.operation.Proper sampleConfig "uid-one" := by
    simp only [es, e, List.forall_mem_append, List.forall_mem_singleton]
    exact ⟨proper_interruptedEvents, proper_sample (by rintro claim ⟨⟩)⟩
  have hnil : ((run sampleConfig ∅ es).driver.map fun d =>
      ((d.unprepareClaim "uid-one").run [] (run sampleConfig ∅ es).disk).1.1) = some none := by
    decide +kernel
  obtain ⟨d, hd, hreturned⟩ := Option.map_eq_some_iff.mp hnil
  have hexists : (run sampleConfig ∅ (es ++ [e])).disk.lookup (cdiFile sampleConfig "uid-one") ≠
      none := by decide +kernel
  exact hexists (h _ _ _ sampleConfig ∅ "uid-one" es e [] recordedApart_empty recordedOwn_empty
    not_leftover_empty (apart_mainConfig "worker" "/state" "/cdi" (by decide)) hproper
    ⟨rfl, rfl, d, hd, hreturned⟩ (by simp))

end AcceleratorFabric.Dra
