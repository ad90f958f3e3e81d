import AcceleratorFabric.DraConsumers
import AcceleratorFabric.DraLeftovers
import AcceleratorFabric.DraRecovery

/-! # Batches of claims

The kubelet hands the driver lists of claims.  `PrepareResourceClaims` and
`UnprepareResourceClaims` run through such a list and note the result of every claim under its UID;
they take the lock for each claim anew and go on after an error.

* `Node.batch_independent`: claims that share neither UID nor device do not affect each other's
  results in a batch, also if file operations fail on the way.
* `Node.batch_round_trip`: unpreparing a batch leaves the driver as it was before the batch was
  prepared, whichever of its claims failed. -/

namespace AcceleratorFabric.Dra

open GoMap FaultyDisk

variable {C : Type} {cfg : Config}

/-! ### The two calls -/

/-- A claim as the kubelet names it. -/
structure NamespacedObject where
  namespaceName : String
  name : String
  uid : String
deriving DecidableEq, Repr

namespace Driver

/-- The loop of both calls: the driver serves one item after the other, and the result of each is
entered under its UID. -/
def serveAll {I R : Type} (uidOf : I → String)
    (call : Driver cfg → I → Program C (R × Driver cfg)) (d : Driver cfg) (results : GoMap String R) :
    List I → Program C (GoMap String R × Driver cfg)
  | [] => pure (results, d)
  | item :: items => do
      let answer ← call d item
      serveAll uidOf call answer.2 (results.insert (uidOf item) answer.1) items

/-- A result is the returned devices, or the error. -/
def prepareResourceClaims [Json C] [SortSlice] (d : Driver cfg) (claims : List ResourceClaim) :
    Program C (GoMap String (Except DriverError (List KubeletDevice)) × Driver cfg) :=
  serveAll (·.uid) (fun d claim => d.prepareClaim (some claim)) d ∅ claims

/-- A result is the error, if there is one. -/
def unprepareResourceClaims [Json C] (d : Driver cfg) (claims : List NamespacedObject) :
    Program C (GoMap String (Option DriverError) × Driver cfg) :=
  serveAll (·.uid) (fun d claim => d.unprepareClaim claim.uid) d ∅ claims

/-! ### Rules for the loop -/

section loop

variable {I R : Type} (uidOf : I → String) (call : Driver cfg → I → Program C (R × Driver cfg))
  (Inv : List I → GoMap String R → Driver cfg → Disk String C → Prop)

/-- What every call keeps, whatever fails, holds at the end. -/
theorem serveAll_post
    (hcall : ∀ item items results d disk, Inv (item :: items) results d disk →
      (call d item).Post
        (fun answer disk' => Inv items (results.insert (uidOf item) answer.1) answer.2 disk') disk) :
    ∀ (items : List I) (results : GoMap String R) (d : Driver cfg) (disk : Disk String C),
      Inv items results d disk →
        (serveAll uidOf call d results items).Post (fun out disk' => Inv [] out.1 out.2 disk') disk
  | [], _, _, _, h => h
  | item :: items, results, d, disk, h =>
      Prog.post_bind (Prog.post_mono (fun answer disk' h' =>
        serveAll_post hcall items (results.insert (uidOf item) answer.1) answer.2 disk' h')
        (hcall item items results d disk h))

/-- What every call without faults keeps holds at the end of a loop without faults. -/
theorem serveAll_run_nil
    (hcall : ∀ item items results d disk, Inv (item :: items) results d disk →
      Inv items (results.insert (uidOf item) ((call d item).run [] disk).1.1)
        ((call d item).run [] disk).1.2 ((call d item).run [] disk).2) :
    ∀ (items : List I) (results : GoMap String R) (d : Driver cfg) (disk : Disk String C),
      Inv items results d disk →
        let out := (serveAll uidOf call d results items).run [] disk
        Inv [] out.1.1 out.1.2 out.2
  | [], _, _, _, h => h
  | item :: items, results, d, disk, h => by
      rw [serveAll, Prog.bind_eq, Prog.run_bind_nil]
      exact serveAll_run_nil hcall items _ _ _ (hcall item items results d disk h)

end loop

/-! ### The result of a claim -/

variable [SortSlice]

/-- What `prepareClaim` returns if no file operation fails. -/
def verdict (d : Driver cfg) (claim : ResourceClaim) : Except DriverError (List KubeletDevice) :=
  match preparedClaimFor cfg (some claim) with
  | .error e => .error e
  | .ok prepared =>
      match d.prepared.lookup prepared.uid with
      | some existing =>
          if existing.devices ≠ prepared.devices then .error (.allocationChanged prepared.uid)
          else .ok (kubeletDevices existing)
      | none =>
          match d.conflict prepared.uid prepared.keys with
          | some e => .error e
          | none => .ok (kubeletDevices prepared)

/-- The keys of the devices that a claim has from this driver. -/
def claimKeys (cfg : Config) (claim : ResourceClaim) : List String :=
  (driverResults cfg claim).map fun r => deviceKey r.allocated

/-- As far as the claim is concerned, both drivers have recorded the same. -/
structure Agrees (d d' : Driver cfg) (claim : ResourceClaim) : Prop where
  prepared_eq : d'.prepared.lookup claim.uid = d.prepared.lookup claim.uid
  owners_eq : ∀ key ∈ claimKeys cfg claim, d'.owners.lookup key = d.owners.lookup key

omit [SortSlice] in
theorem Agrees.trans {d d' d'' : Driver cfg} {claim : ResourceClaim} (h : d.Agrees d' claim)
    (h' : d'.Agrees d'' claim) : d.Agrees d'' claim where
  prepared_eq := h'.prepared_eq.trans h.prepared_eq
  owners_eq key hkey := (h'.owners_eq key hkey).trans (h.owners_eq key hkey)

omit [SortSlice] in
theorem conflict_congr {d d' : Driver cfg} (uid : String) : ∀ {keys : List String},
    (∀ key ∈ keys, d'.owners.lookup key = d.owners.lookup key) →
      d'.conflict uid keys = d.conflict uid keys
  | [], _ => rfl
  | key :: keys, h => by
      rw [List.forall_mem_cons] at h
      rw [conflict, conflict, h.1, conflict_congr uid h.2]

theorem mem_claimKeys {claim : ResourceClaim} {p : PreparedClaim}
    (hp : preparedClaimFor cfg (some claim) = .ok p) {key : String} :
    key ∈ p.keys ↔ key ∈ claimKeys cfg claim := by
  obtain ⟨_, results, devices, hallocation, hdevices, _, rfl⟩ := preparedClaimFor_eq_ok_iff.mp hp
  obtain ⟨_, rfl⟩ := allocatedDevices_eq_ok_iff.mp hdevices
  have hperm := (SortSlice.perm deviceLess ((results.filter fun r => r.driver = cfg.driverName).map
    AllocationResult.allocated)).map deviceKey
  rw [List.map_map] at hperm
  rw [claimKeys, driverResults, hallocation]
  exact hperm.mem_iff

theorem uid_of_preparedClaimFor {claim : ResourceClaim} {p : PreparedClaim}
    (hp : preparedClaimFor cfg (some claim) = .ok p) : p.uid = claim.uid := by
  obtain ⟨_, _, _, _, _, _, rfl⟩ := preparedClaimFor_eq_ok_iff.mp hp
  rfl

theorem Agrees.verdict_eq {d d' : Driver cfg} {claim : ResourceClaim} (h : d.Agrees d' claim) :
    d'.verdict claim = d.verdict claim := by
  unfold verdict
  cases hp : preparedClaimFor cfg (some claim) with
  | error e => rfl
  | ok p =>
      have hprepared : d'.prepared.lookup p.uid = d.prepared.lookup p.uid := by
        rw [uid_of_preparedClaimFor hp]
        exact h.prepared_eq
      have hconflict : d'.conflict p.uid p.keys = d.conflict p.uid p.keys :=
        conflict_congr p.uid fun key hkey => h.owners_eq key ((mem_claimKeys hp).mp hkey)
      simp only [hprepared, hconflict]

/-- The claims share neither UID nor device. -/
structure Separate (cfg : Config) (a b : ResourceClaim) : Prop where
  uid_ne : a.uid ≠ b.uid
  keys_disjoint : List.Disjoint (claimKeys cfg a) (claimKeys cfg b)

/-- Recording one claim changes nothing for a separate one. -/
theorem agrees_record {d : Driver cfg} {a b : ResourceClaim} (h : Separate cfg a b)
    {p : PreparedClaim} (hp : preparedClaimFor cfg (some a) = .ok p) :
    d.Agrees (d.record p.uid p) b where
  prepared_eq := by
    have hne : b.uid ≠ p.uid := by
      rw [uid_of_preparedClaimFor hp]
      exact h.uid_ne.symm
    rw [Driver.record, lookup_insert_ite, if_neg hne]
  owners_eq key hkey := by
    have hnot : key ∉ p.keys := fun hmem => h.keys_disjoint ((mem_claimKeys hp).mp hmem) hkey
    rw [Driver.record, lookup_insertAll, if_neg hnot]

variable [Json C]

/-! ### One call -/

/-- The error of a file operation of `prepareClaim`. -/
def FileFailed (result : Except DriverError (List KubeletDevice)) : Prop :=
  ∃ cause, result = .error (.writeCDI cause) ∨ result = .error (.persist cause)

omit [SortSlice] [Json C] in
/-- A write whose error is wrapped. -/
theorem post_wrapped {wrap : FileError String → DriverError}
    {f : Except (FileError String) Unit → Program C (Except DriverError Unit)}
    (herror : ∀ cause, f (.error cause) = .done (.error (wrap cause)))
    (hok : f (.ok ()) = .done (.ok ())) (p : Program C (Except (FileError String) Unit))
    (disk : Disk String C) :
    (p.bind f).Post (fun result _ => ∀ e, result = .error e → ∃ cause, e = wrap cause) disk := by
  refine Prog.post_bind (Prog.post_mono ?_ (Prog.post_true _ disk))
  intro result _ _
  cases result with
  | error cause =>
      rw [herror]
      rintro e ⟨⟩
      exact ⟨cause, rfl⟩
  | ok _ =>
      rw [hok]
      rintro e ⟨⟩

omit [SortSlice] in
theorem writeCDI_error_cause (p : PreparedClaim) (disk : Disk String C) :
    (writeCDI cfg p).Post (fun result _ => ∀ e, result = .error e → ∃ cause, e = .writeCDI cause)
      disk :=
  post_wrapped (fun _ => rfl) rfl _ disk

omit [SortSlice] in
theorem persist_error_cause (d : Driver cfg) (disk : Disk String C) :
    (d.persist : Program C _).Post (fun result _ => ∀ e, result = .error e →
      ∃ cause, e = .persist cause) disk :=
  post_wrapped (fun _ => rfl) rfl _ disk

omit [SortSlice] in
theorem prepareAgain_result (d : Driver cfg) (p : PreparedClaim) (disk : Disk String C) :
    (d.prepareAgain p).Post
      (fun answer _ => answer.1 = .ok (kubeletDevices p) ∨ FileFailed answer.1) disk := by
  refine Prog.post_bind (Prog.post_mono ?_ (writeCDI_error_cause p disk))
  intro result disk' herror
  cases result with
  | error e =>
      obtain ⟨cause, rfl⟩ := herror e rfl
      exact .inr ⟨cause, .inl rfl⟩
  | ok _ => exact .inl rfl

omit [SortSlice] in
theorem prepareNew_result (d : Driver cfg) (p : PreparedClaim) (disk : Disk String C) :
    (d.prepareNew p).Post
      (fun answer _ => answer.1 = .ok (kubeletDevices p) ∨ FileFailed answer.1) disk := by
  refine Prog.post_bind (Prog.post_mono ?_ (writeCDI_error_cause p disk))
  intro result disk' herror
  cases result with
  | error e =>
      obtain ⟨cause, rfl⟩ := herror e rfl
      exact .inr ⟨cause, .inl rfl⟩
  | ok _ =>
      refine Prog.post_bind (Prog.post_mono ?_ (persist_error_cause (d.record p.uid p) disk'))
      intro result disk'' herror'
      cases result with
      | error e =>
          obtain ⟨cause, rfl⟩ := herror' e rfl
          exact Prog.post_bind (Prog.post_mono (fun _ _ _ => .inr ⟨cause, .inr rfl⟩)
            (Prog.post_true _ disk''))
      | ok _ => exact .inl rfl

/-- Errors apart from those of file operations do not depend on the disk. -/
theorem prepareClaim_result (d : Driver cfg) (claim : ResourceClaim) (disk : Disk String C) :
    (d.prepareClaim (some claim) : Program C _).Post
      (fun answer _ => answer.1 = d.verdict claim ∨ FileFailed answer.1) disk := by
  unfold prepareClaim verdict
  cases preparedClaimFor cfg (some claim) with
  | error e => exact .inl rfl
  | ok p =>
      simp only
      cases d.prepared.lookup p.uid with
      | some existing =>
          simp only
          split_ifs
          · exact .inl rfl
          · exact prepareAgain_result d existing disk
      | none =>
          simp only
          cases d.conflict p.uid p.keys with
          | some e => exact .inl rfl
          | none => exact prepareNew_result d p disk

omit [SortSlice] in
theorem persist_run_nil (d : Driver cfg) (disk : Disk String C) :
    ∃ disk', (d.persist : Program C _).run [] disk = (.ok (), disk') := by
  obtain ⟨disk', h⟩ := atomicWrite_run_nil cfg.statePath
    (Json.encodeState ⟨stateVersion, d.prepared⟩) disk
  refine ⟨disk', ?_⟩
  unfold persist
  rw [Prog.bind_eq, Prog.run_bind_nil, h]
  rfl

theorem prepareClaim_run_nil (d : Driver cfg) (claim : ResourceClaim) (disk : Disk String C) :
    ((d.prepareClaim (some claim) : Program C _).run [] disk).1.1 = d.verdict claim := by
  unfold prepareClaim verdict
  cases preparedClaimFor cfg (some claim) with
  | error e => rfl
  | ok p =>
      simp only
      cases d.prepared.lookup p.uid with
      | some existing =>
          simp only
          split_ifs
          · rfl
          · obtain ⟨disk', hwrite⟩ := writeCDI_run_nil cfg existing disk
            rw [prepareAgain, Prog.bind_eq, Prog.run_bind_nil, hwrite]
            rfl
      | none =>
          simp only
          cases d.conflict p.uid p.keys with
          | some e => rfl
          | none =>
              obtain ⟨disk', hwrite⟩ := writeCDI_run_nil cfg p disk
              obtain ⟨disk'', hpersist⟩ := (d.record p.uid p).persist_run_nil disk'
              rw [prepareNew, Prog.bind_eq, Prog.run_bind_nil, hwrite]
              simp only [Prog.bind_eq]
              rw [Prog.run_bind_nil, hpersist]
              rfl

/-- A call for one claim changes nothing for a separate one, whatever fails. -/
theorem Sound.prepareClaim_agrees {d : Driver cfg} {disk : Disk String C} (h : d.Sound disk)
    {a : ResourceClaim} (ha : ClaimApart cfg (some a)) :
    (d.prepareClaim (some a)).Post (fun answer _ => ∀ b, Separate cfg a b → d.Agrees answer.2 b)
      disk := by
  refine Prog.post_mono ?_ (h.prepareClaim_post ha)
  rintro answer disk' (⟨hsame, _⟩ | ⟨⟨p, hp, _, _, hrecord, _⟩, _⟩) b hseparate
  · rw [hsame]
    exact ⟨rfl, fun _ _ => rfl⟩
  · rw [hrecord]
    exact agrees_record hseparate hp

/-! ### Unpreparing without faults -/

omit [SortSlice] in
theorem dropClaim_run_nil (d : Driver cfg) (uid : String) (p : PreparedClaim)
    (disk : Disk String C) :
    ((d.dropClaim uid p : Program C _).run [] disk).1 = (none, d.forget uid p) := by
  obtain ⟨disk', hpersist⟩ := (d.forget uid p).persist_run_nil disk
  rw [dropClaim, Prog.bind_eq, Prog.run_bind_nil, hpersist]
  rfl

omit [SortSlice] in
/-- Without faults the claim is forgotten, if it was recorded at all. -/
theorem unprepareClaim_run_nil (d : Driver cfg) (uid : String) (disk : Disk String C) :
    ((d.unprepareClaim uid : Program C _).run [] disk).1.1 = none ∧
      ∀ u, ((d.unprepareClaim uid : Program C _).run [] disk).1.2.prepared.lookup u =
        if u = uid then none else d.prepared.lookup u := by
  unfold unprepareClaim
  cases hp : d.prepared.lookup uid with
  | none =>
      refine ⟨rfl, fun u => ?_⟩
      split_ifs with hu
      · rw [hu]
        exact hp
      · rfl
  | some p =>
      have hforget : ∀ u, (d.forget uid p).prepared.lookup u =
          if u = uid then none else d.prepared.lookup u :=
        fun u => lookup_erase_ite d.prepared uid u
      simp only [Prog.request, Prog.bind_eq, Prog.bind, Prog.run, List.headD_nil, List.tail_nil]
      rcases serve_remove_none (E := String) disk p.cdiFile with hserve | hserve
      · simp only [hserve, dropClaim_run_nil]
        exact ⟨trivial, hforget⟩
      · simp only [hserve, dropClaim_run_nil]
        exact ⟨trivial, hforget⟩

/-! ### Batches -/

section batch

variable {d : Driver cfg} {claims : List ResourceClaim}

/-- In the middle of a batch: `claims` are those that are still to come. -/
structure Midway (d₀ : Driver cfg) (batch : List ResourceClaim)
    (fits : ResourceClaim → Except DriverError (List KubeletDevice) → Prop)
    (claims : List ResourceClaim) (results : GoMap String (Except DriverError (List KubeletDevice)))
    (d : Driver cfg) (disk : Disk String C) : Prop where
  sound : d.Sound disk
  left : claims ⊆ batch
  separate : claims.Pairwise (Separate cfg)
  agrees : ∀ claim ∈ claims, d₀.Agrees d claim
  served : ∀ claim ∈ batch, claim ∈ claims ∨
    ∃ result, results.lookup claim.uid = some result ∧ fits claim result

variable {d₀ : Driver cfg} {batch : List ResourceClaim}
  {fits : ResourceClaim → Except DriverError (List KubeletDevice) → Prop}
  {results : GoMap String (Except DriverError (List KubeletDevice))} {claim : ResourceClaim}
  {disk disk' : Disk String C} {answer : Except DriverError (List KubeletDevice) × Driver cfg}

omit [SortSlice] in
theorem Midway.next (h : Midway d₀ batch fits (claim :: claims) results d disk)
    (huids : (batch.map (·.uid)).Nodup) (hsound : answer.2.Sound disk')
    (hagrees : ∀ b, Separate cfg claim b → d.Agrees answer.2 b) (hfits : fits claim answer.1) :
    Midway d₀ batch fits claims (results.insert claim.uid answer.1) answer.2 disk' := by
  obtain ⟨hhead, hseparate⟩ := List.pairwise_cons.mp h.separate
  refine ⟨hsound, fun c hc => h.left (List.mem_cons_of_mem _ hc), hseparate, ?_, ?_⟩
  · intro c hc
    exact (h.agrees c (List.mem_cons_of_mem _ hc)).trans (hagrees c (hhead c hc))
  · intro c hc
    rw [lookup_insert_ite]
    by_cases huid : c.uid = claim.uid
    · rw [if_pos huid, List.inj_on_of_nodup_map huids hc (h.left List.mem_cons_self) huid]
      exact .inr ⟨answer.1, rfl, hfits⟩
    · rw [if_neg huid]
      rcases h.served c hc with hmem | hserved
      · exact .inl ((List.mem_cons.mp hmem).resolve_left fun heq => huid (by rw [heq]))
      · exact .inr hserved

omit [SortSlice] in
theorem midway_start (h : d.Sound disk) (hseparate : batch.Pairwise (Separate cfg)) :
    Midway d batch fits batch ∅ d disk :=
  ⟨h, List.Subset.refl _, hseparate, fun _ _ => ⟨rfl, fun _ _ => rfl⟩, fun _ hc => .inl hc⟩

omit [SortSlice] in
theorem nodup_uids (h : batch.Pairwise (Separate cfg)) : (batch.map (·.uid)).Nodup :=
  List.pairwise_map.mpr (h.imp fun hab => hab.uid_ne)

theorem Sound.prepareResourceClaims_post (h : d.Sound disk)
    (hapart : ∀ claim ∈ batch, Apart cfg (cdiFile cfg claim.uid))
    (hseparate : batch.Pairwise (Separate cfg)) :
    (d.prepareResourceClaims batch : Program C _).Post (fun out _ => ∀ claim ∈ batch, ∃ result,
      out.1.lookup claim.uid = some result ∧
        (result = d.verdict claim ∨ FileFailed result)) disk := by
  have hend := serveAll_post (·.uid) (fun d claim => d.prepareClaim (some claim))
    (Midway d batch fun claim result => result = d.verdict claim ∨ FileFailed result)
    (fun claim claims results d' disk' hmid => by
      have hclaim : ClaimApart cfg (some claim) := by
        rintro c ⟨⟩
        exact hapart claim (hmid.left List.mem_cons_self)
      have hverdict := (hmid.agrees claim List.mem_cons_self).verdict_eq
      refine Prog.post_mono ?_ (Prog.post_and (hmid.sound.prepareClaim hclaim)
        (Prog.post_and (hmid.sound.prepareClaim_agrees hclaim) (d'.prepareClaim_result claim disk')))
      rintro answer disk'' ⟨hsound, hagrees, hresult⟩
      rw [hverdict] at hresult
      exact hmid.next (nodup_uids hseparate) hsound hagrees hresult)
    batch ∅ d disk (midway_start h hseparate)
  refine Prog.post_mono ?_ hend
  intro out disk' hmid claim hclaim
  exact (hmid.served claim hclaim).resolve_left (by simp)

theorem Sound.prepareResourceClaims_run_nil (h : d.Sound disk)
    (hapart : ∀ claim ∈ batch, Apart cfg (cdiFile cfg claim.uid))
    (hseparate : batch.Pairwise (Separate cfg)) :
    ∀ claim ∈ batch, ((d.prepareResourceClaims batch).run [] disk).1.1.lookup claim.uid =
      some (d.verdict claim) := by
  have hend := serveAll_run_nil (·.uid) (fun d claim => d.prepareClaim (some claim))
    (Midway d batch fun claim result => result = d.verdict claim)
    (fun claim claims results d' disk' hmid => by
      have hclaim : ClaimApart cfg (some claim) := by
        rintro c ⟨⟩
        exact hapart claim (hmid.left List.mem_cons_self)
      refine hmid.next (nodup_uids hseparate)
        (Prog.post_run (hmid.sound.prepareClaim hclaim) [])
        (Prog.post_run (hmid.sound.prepareClaim_agrees hclaim) []) ?_
      rw [d'.prepareClaim_run_nil claim disk']
      exact (hmid.agrees claim List.mem_cons_self).verdict_eq)
    batch ∅ d disk (midway_start h hseparate)
  intro claim hclaim
  obtain ⟨result, hlookup, rfl⟩ := (hend.served claim hclaim).resolve_left (by simp)
  exact hlookup

/-- A batch touches the records of its own claims only. -/
theorem Sound.prepareResourceClaims_frame (h : d.Sound disk)
    (hapart : ∀ claim ∈ batch, Apart cfg (cdiFile cfg claim.uid)) :
    (d.prepareResourceClaims batch : Program C _).Post (fun out disk' => out.2.Sound disk' ∧
      ∀ u ∉ batch.map (·.uid), out.2.prepared.lookup u = d.prepared.lookup u) disk := by
  have hend := serveAll_post (·.uid) (fun d claim => d.prepareClaim (some claim))
    (fun claims _ d' disk' => claims ⊆ batch ∧ d'.Sound disk' ∧
      ∀ u ∉ batch.map (·.uid), d'.prepared.lookup u = d.prepared.lookup u)
    (fun claim claims results d' disk' ⟨hleft, hsound, hframe⟩ => by
      have hmem : claim ∈ batch := hleft List.mem_cons_self
      have hclaim : ClaimApart cfg (some claim) := by
        rintro c ⟨⟩
        exact hapart claim hmem
      refine Prog.post_mono ?_ (Prog.post_and (hsound.prepareClaim hclaim)
        (hsound.prepareClaim_post hclaim))
      rintro answer disk'' ⟨hsound', hchanges⟩
      refine ⟨fun c hc => hleft (List.mem_cons_of_mem _ hc), hsound', fun u hu => ?_⟩
      rw [← hframe u hu]
      rcases hchanges with ⟨hsame, _⟩ | ⟨⟨p, hp, _, _, hrecord, _⟩, _⟩
      · rw [hsame]
      · have hne : u ≠ p.uid := by
          rintro rfl
          rw [uid_of_preparedClaimFor hp] at hu
          exact hu (List.mem_map.mpr ⟨claim, hmem, rfl⟩)
        rw [hrecord, Driver.record, lookup_insert_ite, if_neg hne])
    batch ∅ d disk ⟨List.Subset.refl _, h, fun _ _ => rfl⟩
  exact Prog.post_mono (fun _ _ hout => hout.2) hend

omit [SortSlice] in
/-- Without faults, every claim of the batch is forgotten and no other. -/
theorem Sound.unprepareResourceClaims_run_nil (h : d.Sound disk) (names : List NamespacedObject) :
    let out := (d.unprepareResourceClaims names).run [] disk
    out.1.2.Sound out.2 ∧
      (∀ u ∉ names.map (·.uid), out.1.2.prepared.lookup u = d.prepared.lookup u) ∧
      ∀ name ∈ names, out.1.2.prepared.lookup name.uid = none ∧
        out.1.1.lookup name.uid = some none := by
  have hend := serveAll_run_nil (·.uid) (fun d (name : NamespacedObject) => d.unprepareClaim name.uid)
    (fun left results d' disk' => d'.Sound disk' ∧ left ⊆ names ∧
      (∀ u ∉ names.map (·.uid), d'.prepared.lookup u = d.prepared.lookup u) ∧
      ∀ name ∈ names, name ∈ left ∨ (d'.prepared.lookup name.uid = none ∧
        results.lookup name.uid = some none))
    (fun name left results d' disk' ⟨hsound, hleft, hframe, hdone⟩ => by
      obtain ⟨hresult, hlookup⟩ := d'.unprepareClaim_run_nil name.uid disk'
      refine ⟨Prog.post_run (hsound.unprepareClaim name.uid) [],
        fun n hn => hleft (List.mem_cons_of_mem _ hn), fun u hu => ?_, fun n hn => ?_⟩
      · have hne : u ≠ name.uid := by
          rintro rfl
          exact hu (List.mem_map.mpr ⟨name, hleft List.mem_cons_self, rfl⟩)
        rw [hlookup u, if_neg hne]
        exact hframe u hu
      · rw [hlookup n.uid, lookup_insert_ite, hresult]
        by_cases huid : n.uid = name.uid
        · rw [if_pos huid, if_pos huid]
          exact .inr ⟨rfl, rfl⟩
        · rw [if_neg huid, if_neg huid]
          refine (hdone n hn).imp_left fun hmem => ?_
          exact (List.mem_cons.mp hmem).resolve_left fun heq => huid (by rw [heq]))
    names ∅ d disk ⟨h, List.Subset.refl _, fun _ _ => rfl, fun _ hn => .inl hn⟩
  obtain ⟨hsound, _, hframe, hdone⟩ := hend
  exact ⟨hsound, hframe, fun n hn => (hdone n hn).resolve_left (by simp)⟩

end batch

end Driver

/-! ### Results -/

namespace Node

variable [Json C] [SortSlice]

/-- **Claims of a batch do not affect each other.**  In every state that the node can reach, for
every batch of claims that share neither UIDs nor devices: the result of each claim is the one it
would have alone, unless one of its own file operations fails. -/
theorem batch_independent (cfg : Config) (disk : Disk String C) (before : List (Event C))
    (d : Driver cfg) (batch : List ResourceClaim) (faults : List (Option (Fault C String)))
    (hdisk : RecordedApart cfg disk) (hes : ∀ e ∈ before, e.operation.Apart cfg)
    (hd : (run cfg disk before).driver = some d)
    (hapart : ∀ claim ∈ batch, Apart cfg (cdiFile cfg claim.uid))
    (hseparate : batch.Pairwise (Driver.Separate cfg)) :
    let now := (run cfg disk before).disk
    let alone claim := ((d.prepareClaim (some claim)).run [] now).1.1
    ∀ claim ∈ batch, ∃ result,
      ((d.prepareResourceClaims batch).run faults now).1.1.lookup claim.uid = some result ∧
        (result = alone claim ∨ Driver.FileFailed result) ∧
        (faults = [] → result = alone claim) := by
  intro now alone claim hclaim
  have hsound : d.Sound now := (invariant_run hdisk hes).sound d hd
  have halone : alone claim = d.verdict claim := d.prepareClaim_run_nil claim now
  obtain ⟨result, hlookup, hresult⟩ := Prog.post_run
    (hsound.prepareResourceClaims_post hapart hseparate) faults claim hclaim
  rw [halone]
  refine ⟨result, hlookup, hresult, ?_⟩
  rintro rfl
  rw [hsound.prepareResourceClaims_run_nil hapart hseparate claim hclaim] at hlookup
  exact (Option.some.inj hlookup).symm

end Node

/-- Two claims with one device each. -/
def sampleBatch : List ResourceClaim :=
  [sampleClaim "uid-one" [("accelerators", "gpu0")], sampleClaim "uid-two" [("accelerators", "gpu1")]]

theorem apart_sampleBatch :
    ∀ claim ∈ sampleBatch, Apart sampleConfig (cdiFile sampleConfig claim.uid) := by
  intro claim hclaim
  refine apart_mainConfig "worker" "/state" "/cdi" ?_
  revert claim
  decide

theorem separate_sampleBatch : sampleBatch.Pairwise (Driver.Separate sampleConfig) := by
  refine List.pairwise_pair.mpr ⟨by decide, fun key hone htwo => ?_⟩
  rw [show Driver.claimKeys _ _ = ["worker/gpu0"] from by decide +kernel] at hone
  rw [show Driver.claimKeys _ _ = ["worker/gpu1"] from by decide +kernel] at htwo
  rw [List.mem_singleton.mp hone] at htwo
  exact absurd htwo (by decide)

/-- Both claims are prepared. -/
theorem Node.batch_independent_two_claims :
    let : Json (PersistedState ⊕ CdiSpec) := sampleJson
    let : SortSlice := sampleSort
    let n := Node.run sampleConfig ∅ sampleStart
    ∃ d, n.driver = some d ∧
      let prepare : Program (PersistedState ⊕ CdiSpec) _ := d.prepareResourceClaims sampleBatch
      let results := (prepare.run [] n.disk).1.1
      ∀ claim ∈ sampleBatch, ∃ devices, results.lookup claim.uid = some (.ok devices) := by
  intro json sort n
  obtain ⟨d, hd⟩ : ∃ d, n.driver = some d :=
    Option.isSome_iff_exists.mp (by decide +kernel)
  refine ⟨d, hd, fun claim hclaim => ?_⟩
  obtain ⟨result, hlookup, _, hnil⟩ := Node.batch_independent sampleConfig ∅ sampleStart d sampleBatch
    [] recordedApart_empty (by simp [sampleStart, Operation.Apart]) hd apart_sampleBatch
    separate_sampleBatch claim hclaim
  have halone : ∀ c ∈ sampleBatch, (n.driver.map fun d =>
      ((d.prepareClaim (some c)).run [] n.disk).1.1.isOk) = some true := by
    decide +kernel
  have hok := halone claim hclaim
  rw [hd, Option.map_some, Option.some.injEq] at hok
  rw [show ((d.prepareClaim (some claim)).run [] n.disk).1.1 = result from (hnil rfl).symm] at hok
  cases result with
  | error e => cases hok
  | ok devices => exact ⟨devices, hlookup⟩

namespace Node

variable [Json C] [SortSlice]

/-- **Unpreparing a batch undoes its preparation.**  Whatever failed while the batch was prepared,
if none of its claims was recorded before and all are unprepared without a fault, in any order,
then the driver and the state file are as they were, and no claim has an error. -/
theorem batch_round_trip (cfg : Config) (disk : Disk String C) (before : List (Event C))
    (d : Driver cfg) (batch : List ResourceClaim) (faults : List (Option (Fault C String)))
    (names : List NamespacedObject) (hdisk : RecordedApart cfg disk)
    (hes : ∀ e ∈ before, e.operation.Apart cfg) (hd : (run cfg disk before).driver = some d)
    (hapart : ∀ claim ∈ batch, Apart cfg (cdiFile cfg claim.uid))
    (hnew : ∀ claim ∈ batch, d.prepared.lookup claim.uid = none)
    (hnames : ∀ u, u ∈ names.map (·.uid) ↔ u ∈ batch.map (·.uid)) :
    let prepared := (d.prepareResourceClaims batch).run faults (run cfg disk before).disk
    let undone := (prepared.1.2.unprepareResourceClaims names).run [] prepared.2
    undone.1.2 = d ∧ Stored cfg d.prepared undone.2 ∧
      ∀ name ∈ names, undone.1.1.lookup name.uid = some none := by
  intro prepared undone
  have hsound := (invariant_run hdisk hes).sound d hd
  obtain ⟨hsound', hframe⟩ :=
    Prog.post_run (hsound.prepareResourceClaims_frame hapart) faults
  obtain ⟨hsound'', hothers, hnone⟩ := hsound'.unprepareResourceClaims_run_nil names
  have hprepared : undone.1.2.prepared = d.prepared := by
    apply Finmap.ext_lookup
    intro u
    by_cases hu : u ∈ names.map (·.uid)
    · obtain ⟨claim, hclaim, huid⟩ := List.mem_map.mp ((hnames u).mp hu)
      obtain ⟨name, hname, rfl⟩ := List.mem_map.mp hu
      rw [(hnone name hname).1, ← huid, hnew claim hclaim]
    · exact (hothers u hu).trans (hframe u fun hmem => hu ((hnames u).mpr hmem))
  have hdriver : undone.1.2 = d := hsound.consistent.eq_of_prepared hsound''.consistent hprepared
  refine ⟨hdriver, ?_, fun name hname => (hnone name hname).2⟩
  rw [← hprepared]
  exact hsound''.stored

end Node

/-- The second claim could not be persisted. -/
theorem Node.batch_round_trip_after_fault :
    let : Json (PersistedState ⊕ CdiSpec) := sampleJson
    let : SortSlice := sampleSort
    let faults := [none, none, none, none, none, none, some ⟨"disk full", none⟩]
    let names : List NamespacedObject :=
      [⟨"default", "second", "uid-two"⟩, ⟨"default", "first", "uid-one"⟩]
    let n := Node.run sampleConfig ∅ sampleStart
    ∃ d, n.driver = some d ∧
      let prepare : Program (PersistedState ⊕ CdiSpec) _ := d.prepareResourceClaims sampleBatch
      let prepared := prepare.run faults n.disk
      ((prepared.1.2.unprepareResourceClaims names).run [] prepared.2).1.2 = d := by
  intro json sort faults names n
  obtain ⟨d, hd⟩ : ∃ d, n.driver = some d := Option.isSome_iff_exists.mp (by decide +kernel)
  have hnew : ∀ claim ∈ sampleBatch, (n.driver.bind fun d =>
      d.prepared.lookup claim.uid) = none := by
    decide +kernel
  rw [hd] at hnew
  refine ⟨d, hd, (Node.batch_round_trip sampleConfig ∅ sampleStart d sampleBatch faults names
    recordedApart_empty (by simp [sampleStart, Operation.Apart]) hd apart_sampleBatch hnew ?_).1⟩
  intro u
  simp only [names, sampleBatch, sampleClaim, List.map_cons, List.map_nil, List.mem_cons,
    List.not_mem_nil, or_false]
  exact or_comm

end AcceleratorFabric.Dra
