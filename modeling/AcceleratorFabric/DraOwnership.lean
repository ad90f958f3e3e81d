import AcceleratorFabric.DraDriver
import AcceleratorFabric.Ownership
import AcceleratorFabric.Runs

/-! # Ownership in the DRA driver

The owners map is the inverse of the prepared claims, and the state file holds the prepared
claims.  Each call keeps both, whatever fails: `Driver.Sound` is the invariant, with one lemma for
every call, and `Node` is a machine that calls, kills and restarts the driver.

* `Node.run_sound`: the invariant over every run, as long as no CDI file is the state file itself.
* `apart_mainConfig`: in the deployed configuration none is. -/

namespace AcceleratorFabric.Dra

open GoMap FaultyDisk

variable {C : Type} {cfg : Config} [Json C]

/-! ### What happens to the state file -/

/-- Writing the CDI file leaves the state file alone.  Files are told apart by the texts of their
paths, so both paths are taken to be clean and without links. -/
def Apart (cfg : Config) (file : String) : Prop :=
  cfg.statePath ≠ file ∧ cfg.statePath ≠ temporary file

instance (cfg : Config) (file : String) : Decidable (Apart cfg file) :=
  inferInstanceAs (Decidable (_ ∧ _))

theorem ne_temporary (path : String) : path ≠ temporary path := by
  intro h
  have hlength := congrArg String.length h
  unfold temporary at hlength
  rw [String.length_append] at hlength
  have htmp : ".tmp".length = 4 := rfl
  omega

section files

omit [Json C]

theorem remove_spares {x file : String} (h : x ≠ file) (disk : Disk String C) :
    (Prog.request (.remove file) : Program C _).Spares x disk :=
  Prog.spares_request (by simpa [Request.writes] using h) disk

theorem mkdirAll_spares (x path : String) (disk : Disk String C) :
    (Prog.request (.mkdirAll path) : Program C _).Spares x disk :=
  Prog.spares_request (by simp [Request.writes]) disk

/-- Other files than the one it replaces and the temporary one are left alone. -/
theorem atomicWrite_spares {x file : String} (hfile : x ≠ file) (htmp : x ≠ temporary file)
    (content : C) (disk : Disk String C) : (atomicWrite file content).Spares x disk := by
  refine (Prog.spares_request (by simpa [Request.writes] using htmp) disk).bind ?_
  intro answer disk' _
  cases answer with
  | error e => trivial
  | ok _ =>
      refine (Prog.spares_request (by simpa [Request.writes] using ⟨htmp, hfile⟩) disk').bind ?_
      intro answer disk'' _
      cases answer with
      | error e =>
          refine (Prog.spares_request (by simpa [Request.writes] using htmp) disk'').bind ?_
          intro _ _ _
          trivial
      | ok _ => trivial

/-- **What `atomicWrite` does to its file**: the content on success, and nothing on failure. -/
theorem atomicWrite_post (path : String) (content : C) (disk : Disk String C) :
    (atomicWrite path content).Post (fun result disk' => disk'.lookup path =
      match result with
      | .ok _ => some content
      | .error _ => disk.lookup path) disk := by
  have hne := ne_temporary path
  intro fault
  cases fault with
  | some f =>
      -- the temporary file may hold a part of the content
      show (insertSome disk (temporary path) f.left).lookup path = disk.lookup path
      rw [lookup_insertSome, if_neg hne]
  | none =>
      have hsame : (disk.insert (temporary path) content).lookup path = disk.lookup path := by
        rw [lookup_insert_ite, if_neg hne]
      have hwrite : serve (none : Option (Fault C String)) disk
          (.writeFile (temporary path) content) = (.ok (), disk.insert (temporary path) content) :=
        rfl
      rw [hwrite]
      intro fault
      rcases serve_rename_cases fault (disk.insert (temporary path) content) (temporary path) path
        with ⟨e, hserve⟩ | ⟨moved, hmoved, hserve⟩
      · rw [hserve]
        intro fault
        show (serve fault (disk.insert (temporary path) content) (.remove (temporary path))).2.lookup
          path = disk.lookup path
        rw [lookup_serve fault _ (.remove (temporary path)) (by simpa [Request.writes] using hne),
          hsame]
      · rw [hserve]
        rw [lookup_insert_ite, if_pos rfl, Option.some.injEq] at hmoved
        show (((disk.insert (temporary path) content).erase (temporary path)).insert path
          moved).lookup path = some content
        rw [lookup_insert_ite, if_pos rfl, hmoved]

theorem atomicWrite_switches (path : String) (content : C) (disk : Disk String C) :
    (atomicWrite path content).Switches path disk := by
  have hne := ne_temporary path
  refine (Prog.spares_request (by simpa [Request.writes] using hne) disk).bind_switches ?_
  intro answer disk' _
  cases answer with
  | error e => trivial
  | ok _ =>
      intro fault
      rcases serve_rename_cases fault disk' (temporary path) path with
        ⟨e, hserve⟩ | ⟨moved, _, hserve⟩
      · rw [hserve]
        refine .inl ⟨rfl, Prog.Spares.switches ?_⟩
        refine (Prog.spares_request (by simpa [Request.writes] using hne) disk').bind ?_
        intro _ _ _
        trivial
      · rw [hserve]
        exact .inr trivial

end files

theorem writeCDI_spares {x : String} {prepared : PreparedClaim}
    (h : x ≠ prepared.cdiFile ∧ x ≠ temporary prepared.cdiFile) (disk : Disk String C) :
    (writeCDI cfg prepared).Spares x disk := by
  refine (atomicWrite_spares h.1 h.2 _ disk).bind ?_
  intro result _ _
  cases result <;> trivial

/-- The state file holds exactly these claims; without one there are none. -/
def Stored (cfg : Config) (claims : GoMap String PreparedClaim) (disk : Disk String C) : Prop :=
  match disk.lookup cfg.statePath with
  | none => claims = ∅
  | some content => Json.decodeState content = .ok ⟨stateVersion, claims⟩

theorem Stored.congr {claims : GoMap String PreparedClaim} {disk disk' : Disk String C}
    (h : Stored cfg claims disk) (hsame : disk'.lookup cfg.statePath = disk.lookup cfg.statePath) :
    Stored cfg claims disk' := by
  unfold Stored
  rw [hsame]
  exact h

theorem stored_encodeState {claims : GoMap String PreparedClaim} {disk : Disk String C}
    (h : disk.lookup cfg.statePath = some (Json.encodeState ⟨stateVersion, claims⟩)) :
    Stored cfg claims disk := by
  unfold Stored
  rw [h]
  exact Json.decode_encode claims

theorem Stored.unique {claims claims' : GoMap String PreparedClaim} {disk : Disk String C}
    (h : Stored cfg claims disk) (h' : Stored cfg claims' disk) : claims = claims' := by
  unfold Stored at h h'
  cases hfile : disk.lookup cfg.statePath with
  | none =>
      rw [hfile] at h h'
      exact h.trans h'.symm
  | some content =>
      rw [hfile] at h h'
      simp only at h h'
      rw [h] at h'
      simpa using h'

/-! ### Claims to prepare -/

/-- What the loop over the results makes of one of this driver. -/
def AllocationResult.allocated (r : AllocationResult) : AllocatedDevice :=
  ⟨r.request, r.pool, r.device, r.shareID.getD ""⟩

/-- The claim to prepare, with the devices that the loop over its results collects. -/
def preparedWith [SortSlice] (cfg : Config) (claim : ResourceClaim)
    (devices : List AllocatedDevice) : PreparedClaim where
  namespaceName := claim.namespaceName
  name := claim.name
  uid := claim.uid
  devices := SortSlice.sort deviceLess devices
  cdiFile := cdiFile cfg claim.uid
  cdiID := cfg.driverName ++ "/device=claim-" ++ claim.uid

omit [Json C] in
/-- The loop over the results succeeds exactly if those of this driver are in the node's pool. -/
theorem allocatedDevices_eq_ok_iff : ∀ {results : List AllocationResult}
    {devices : List AllocatedDevice}, allocatedDevices cfg results = .ok devices ↔
      (∀ r ∈ results, r.driver = cfg.driverName → r.pool = cfg.nodeName) ∧
        devices = (results.filter (fun r => r.driver = cfg.driverName)).map
          AllocationResult.allocated
  | [], devices => by simp [allocatedDevices, eq_comm]
  | r :: results, devices => by
      rw [allocatedDevices, List.forall_mem_cons]
      by_cases hdriver : r.driver = cfg.driverName
      · rw [if_neg (not_not.mpr hdriver), List.filter_cons_of_pos (by simpa using hdriver),
          List.map_cons]
        by_cases hpool : r.pool = cfg.nodeName
        · rw [if_neg (not_not.mpr hpool)]
          have ih := @allocatedDevices_eq_ok_iff results
          cases hrest : allocatedDevices cfg results with
          | error e => simp_all
          | ok rest =>
              obtain ⟨hpools, rfl⟩ := ih.mp hrest
              constructor
              · intro he
                exact ⟨⟨fun _ => hpool, hpools⟩, (Except.ok.inj he).symm⟩
              · rintro ⟨_, rfl⟩
                rfl
        · rw [if_pos hpool]
          simp [hdriver, hpool]
      · rw [if_pos hdriver, List.filter_cons_of_neg (by simpa using hdriver),
          allocatedDevices_eq_ok_iff]
        simp [hdriver]

omit [Json C] in
/-- **Inversion of the part of `prepareClaim` before the lock.** -/
theorem preparedClaimFor_eq_ok_iff [SortSlice] {claim : ResourceClaim} {p : PreparedClaim} :
    preparedClaimFor cfg (some claim) = .ok p ↔ claim.uid ≠ "" ∧ ∃ results devices,
      claim.allocation = some results ∧ allocatedDevices cfg results = .ok devices ∧
      devices ≠ [] ∧ p = preparedWith cfg claim devices := by
  unfold preparedClaimFor
  simp only
  split_ifs with huid
  · simp [huid]
  · cases hallocation : claim.allocation with
    | none => simp
    | some results =>
        simp only
        cases hdevices : allocatedDevices cfg results with
        | error e => simp [hdevices]
        | ok devices =>
            cases devices with
            | nil => simp [hdevices]
            | cons device devices => simp [hdevices, huid, preparedWith, eq_comm]

theorem preparedClaimFor_cases [SortSlice] {claim : Option ResourceClaim} {p : PreparedClaim}
    (h : preparedClaimFor cfg claim = .ok p) : ∃ c results devices, claim = some c ∧
      c.allocation = some results ∧ allocatedDevices cfg results = .ok devices ∧ c.uid ≠ "" ∧
      p.uid = c.uid ∧ p.cdiFile = cdiFile cfg c.uid ∧ p.devices.Perm devices := by
  cases claim with
  | none => cases h
  | some c =>
      obtain ⟨huid, results, devices, hallocation, hdevices, _, rfl⟩ :=
        preparedClaimFor_eq_ok_iff.mp h
      exact ⟨c, results, devices, rfl, hallocation, hdevices, huid, rfl, rfl, SortSlice.perm _ _⟩

namespace Driver

theorem persist_post (d : Driver cfg) (disk : Disk String C) :
    d.persist.Post (fun result disk' =>
      match result with
      | .ok _ => Stored cfg d.prepared disk'
      | .error _ => disk'.lookup cfg.statePath = disk.lookup cfg.statePath) disk := by
  refine Prog.post_bind (Prog.post_mono ?_ (atomicWrite_post cfg.statePath _ disk))
  intro result disk' h
  cases result with
  | error e => exact h
  | ok _ => exact stored_encodeState h

theorem persist_switches (d : Driver cfg) (disk : Disk String C) :
    (d.persist : Program C _).Switches cfg.statePath disk := by
  refine (atomicWrite_switches cfg.statePath _ disk).bind ?_
  intro result _
  cases result <;> trivial

/-! ### Consistent maps -/

section maps

omit [Json C]

/-- The keys of the devices that a claim has. -/
def holds (d : Driver cfg) (uid : String) : Set String :=
  {key | ∃ p, d.prepared.lookup uid = some p ∧ key ∈ p.keys}

theorem holds_of_lookup {d : Driver cfg} {uid : String} {p : PreparedClaim}
    (h : d.prepared.lookup uid = some p) : d.holds uid = {key | key ∈ p.keys} := by
  ext key
  simp [holds, h]

theorem holds_of_lookup_none {d : Driver cfg} {uid : String} (h : d.prepared.lookup uid = none) :
    d.holds uid = ∅ := by
  ext key
  simp [holds, h]

theorem holds_congr {d d' : Driver cfg} {uid : String}
    (h : d'.prepared.lookup uid = d.prepared.lookup uid) : d'.holds uid = d.holds uid := by
  unfold holds
  rw [h]

structure Consistent (d : Driver cfg) : Prop where
  index : Ownership.Indexes (fun key => d.owners.lookup key) d.holds
  own : ∀ uid p, d.prepared.lookup uid = some p → p.uid = uid ∧ uid ≠ ""

/-- No prepared claim has a device twice. -/
def DistinctKeys (d : Driver cfg) : Prop :=
  ∀ uid p, d.prepared.lookup uid = some p → p.keys.Nodup

theorem consistent_empty : (Driver.mk ∅ ∅ : Driver cfg).Consistent where
  index := by
    intro key uid
    simp [holds]
  own := by
    intro uid p h
    simp at h

variable {d : Driver cfg}

/-- Reading the zero value for the owner of a device means that it has none. -/
theorem Consistent.owner_eq_none (h : d.Consistent) {key : String}
    (hkey : (d.owners.lookup key).getD "" = "") : d.owners.lookup key = none := by
  cases howner : d.owners.lookup key with
  | none => rfl
  | some uid =>
      obtain ⟨p, hp, _⟩ := (h.index key uid).mp howner
      rw [howner] at hkey
      exact absurd hkey (h.own uid p hp).2

theorem Consistent.record (h : d.Consistent) {p : PreparedClaim} (huid : p.uid ≠ "")
    (hnew : d.prepared.lookup p.uid = none) (hfree : ∀ key ∈ p.keys, d.owners.lookup key = none) :
    (d.record p.uid p).Consistent where
  index := by
    apply h.index.acquire (h := p.uid) (s := {key | key ∈ p.keys}) hfree (holds_of_lookup_none hnew)
    · intro key
      simp only [Driver.record, lookup_insertAll, Set.mem_ofPred_eq]
      exact ⟨fun hk => if_pos hk, fun hk => if_neg hk⟩
    · exact holds_of_lookup (by rw [Driver.record, lookup_insert_ite, if_pos rfl])
    · intro uid hne
      apply holds_congr
      rw [Driver.record, lookup_insert_ite, if_neg hne]
  own := by
    intro uid q hq
    rw [Driver.record, lookup_insert_ite] at hq
    split_ifs at hq with heq
    · cases hq
      exact ⟨heq.symm, heq ▸ huid⟩
    · exact h.own uid q hq

theorem Consistent.forget (h : d.Consistent) {uid : String} {p : PreparedClaim}
    (hp : d.prepared.lookup uid = some p) : (d.forget uid p).Consistent where
  index := by
    have hholds := holds_of_lookup hp
    apply h.index.release (h := uid)
    · intro key
      rw [hholds]
      simp only [Driver.forget, lookup_eraseAll, Set.mem_ofPred_eq]
      exact ⟨fun hk => if_pos hk, fun hk => if_neg hk⟩
    · exact holds_of_lookup_none (by rw [Driver.forget, lookup_erase_ite, if_pos rfl])
    · intro u hne
      apply holds_congr
      rw [Driver.forget, lookup_erase_ite, if_neg hne]
  own := by
    intro u q hq
    rw [Driver.forget, lookup_erase_ite] at hq
    split_ifs at hq
    exact h.own u q hq

/-- The rollback of a new claim restores the maps. -/
theorem forget_record {uid : String} {p : PreparedClaim} (hnew : d.prepared.lookup uid = none)
    (hfree : ∀ key ∈ p.keys, d.owners.lookup key = none) : (d.record uid p).forget uid p = d := by
  have howners : eraseAll (insertAll d.owners p.keys uid) p.keys = d.owners := by
    apply Finmap.ext_lookup
    intro key
    rw [lookup_eraseAll, lookup_insertAll]
    split_ifs with hk
    · exact (hfree key hk).symm
    · rfl
  unfold Driver.forget Driver.record
  simp only [erase_insert_self hnew, howners]

/-- The rollback of a dropped claim restores the maps. -/
theorem Consistent.record_forget (h : d.Consistent) {uid : String} {p : PreparedClaim}
    (hp : d.prepared.lookup uid = some p) : (d.forget uid p).record uid p = d := by
  have howners : insertAll (eraseAll d.owners p.keys) p.keys uid = d.owners := by
    apply Finmap.ext_lookup
    intro key
    rw [lookup_insertAll, lookup_eraseAll]
    split_ifs with hk
    · exact ((h.index key uid).mpr ⟨p, hp, hk⟩).symm
    · rfl
  unfold Driver.record Driver.forget
  simp only [insert_erase_self hp, howners]

theorem conflict_eq_none_iff (d : Driver cfg) (uid : String) : ∀ keys : List String,
    d.conflict uid keys = none ↔
      ∀ key ∈ keys, (d.owners.lookup key).getD "" = "" ∨ (d.owners.lookup key).getD "" = uid
  | [] => by simp [conflict]
  | key :: keys => by
      rw [List.forall_mem_cons, ← conflict_eq_none_iff d uid keys, conflict]
      split_ifs with h
      · simp [h.1, h.2]
      · have hor : (d.owners.lookup key).getD "" = "" ∨ (d.owners.lookup key).getD "" = uid := by
          by_contra hboth
          exact h (not_or.mp hboth)
        simp [hor]

/-- A claim that is not prepared and has no conflict finds all its devices free. -/
theorem Consistent.free_of_conflict (h : d.Consistent) {p : PreparedClaim}
    (hnew : d.prepared.lookup p.uid = none) (hconflict : d.conflict p.uid p.keys = none) :
    ∀ key ∈ p.keys, d.owners.lookup key = none := by
  intro key hk
  rcases (conflict_eq_none_iff d p.uid p.keys).mp hconflict key hk with hzero | hself
  · exact h.owner_eq_none hzero
  · cases howner : d.owners.lookup key with
    | none => rfl
    | some uid =>
        obtain ⟨q, hq, _⟩ := (h.index key uid).mp howner
        rw [howner] at hself
        change uid = p.uid at hself
        rw [hself, hnew] at hq
        cases hq

end maps

/-! ### Calls keep memory and state file together -/

/-- Memory and state file of a running driver. -/
structure Sound (d : Driver cfg) (disk : Disk String C) : Prop where
  consistent : d.Consistent
  stored : Stored cfg d.prepared disk
  apart : ∀ uid p, d.prepared.lookup uid = some p → Apart cfg p.cdiFile

variable {d : Driver cfg} {disk : Disk String C}

theorem Sound.congr (h : d.Sound disk) {disk' : Disk String C}
    (hsame : disk'.lookup cfg.statePath = disk.lookup cfg.statePath) : d.Sound disk' where
  consistent := h.consistent
  stored := h.stored.congr hsame
  apart := h.apart

/-- The call left the driver and its state file as they were. -/
def Unchanged (d : Driver cfg) (disk : Disk String C) (d' : Driver cfg) (disk' : Disk String C) :
    Prop :=
  d' = d ∧ disk'.lookup cfg.statePath = disk.lookup cfg.statePath

theorem Sound.of_unchanged (h : d.Sound disk) {d' : Driver cfg} {disk' : Disk String C}
    (hsame : Unchanged d disk d' disk') : d'.Sound disk' := by
  obtain ⟨rfl, hfile⟩ := hsame
  exact h.congr hfile

/-- What `prepareClaim` can do: nothing, or record a new claim whose devices are all free. -/
def Prepares [SortSlice] (d : Driver cfg) (claim : Option ResourceClaim) (d' : Driver cfg)
    (disk' : Disk String C) : Prop :=
  ∃ p, preparedClaimFor cfg claim = .ok p ∧ d.prepared.lookup p.uid = none ∧
    (∀ key ∈ p.keys, d.owners.lookup key = none) ∧ d' = d.record p.uid p ∧
    Stored cfg d'.prepared disk'

theorem prepareAgain_post (d : Driver cfg) (disk : Disk String C) {existing : PreparedClaim}
    (hapart : Apart cfg existing.cdiFile) :
    (d.prepareAgain existing).Post (fun result disk' => Unchanged d disk result.2 disk') disk := by
  refine (writeCDI_spares hapart disk).post_bind ?_
  intro result disk' hsame
  cases result with
  | error e => exact ⟨rfl, hsame⟩
  | ok _ => exact ⟨rfl, hsame⟩

theorem prepareNew_post (d : Driver cfg) (disk : Disk String C) {p : PreparedClaim}
    (hapart : Apart cfg p.cdiFile) (hnew : d.prepared.lookup p.uid = none)
    (hfree : ∀ key ∈ p.keys, d.owners.lookup key = none) :
    (d.prepareNew p).Post (fun result disk' => Unchanged d disk result.2 disk' ∨
      (result.2 = d.record p.uid p ∧ Stored cfg result.2.prepared disk' ∧
        ∃ devices, result.1 = .ok devices)) disk := by
  refine (writeCDI_spares hapart disk).post_bind ?_
  intro result disk' hsame
  cases result with
  | error e => exact .inl ⟨rfl, hsame⟩
  | ok _ =>
      refine Prog.post_bind (Prog.post_mono ?_ ((d.record p.uid p).persist_post disk'))
      intro result disk'' hpersist
      cases result with
      | error e =>
          -- rolled back, and the state file is the old one
          refine (remove_spares hapart.1 disk'').post_bind ?_
          intro _ disk₃ hlast
          exact .inl ⟨forget_record hnew hfree, hlast.trans (hpersist.trans hsame)⟩
      | ok _ => exact .inr ⟨rfl, hpersist, _, rfl⟩

/-- The CDI file of the claim is apart from the state file. -/
def ClaimApart (cfg : Config) (claim : Option ResourceClaim) : Prop :=
  ∀ c, claim = some c → Apart cfg (cdiFile cfg c.uid)

theorem ClaimApart.file [SortSlice] {claim : Option ResourceClaim} (h : ClaimApart cfg claim)
    {p : PreparedClaim} (hp : preparedClaimFor cfg claim = .ok p) : Apart cfg p.cdiFile := by
  obtain ⟨c, _, _, hclaim, _, _, _, _, hfile, _⟩ := preparedClaimFor_cases hp
  rw [hfile]
  exact h c hclaim

/-- `prepareClaim` refuses at once, serves a prepared claim again or prepares a new one. -/
theorem prepareClaim_cases [SortSlice] (d : Driver cfg) (claim : Option ResourceClaim) :
    (∃ e, (d.prepareClaim claim : Program C _) = pure (.error e, d)) ∨
    (∃ asked existing, preparedClaimFor cfg claim = .ok asked ∧
      d.prepared.lookup asked.uid = some existing ∧ existing.devices = asked.devices ∧
      (d.prepareClaim claim : Program C _) = d.prepareAgain existing) ∨
    (∃ p, preparedClaimFor cfg claim = .ok p ∧ d.prepared.lookup p.uid = none ∧
      d.conflict p.uid p.keys = none ∧ (d.prepareClaim claim : Program C _) = d.prepareNew p) := by
  unfold Driver.prepareClaim
  cases hp : preparedClaimFor cfg claim with
  | error e => exact .inl ⟨e, rfl⟩
  | ok p =>
      simp only
      cases hlook : d.prepared.lookup p.uid with
      | some existing =>
          simp only
          split_ifs with hdevices
          · exact .inl ⟨_, rfl⟩
          · exact .inr (.inl ⟨p, existing, rfl, hlook, not_not.mp hdevices, rfl⟩)
      | none =>
          simp only
          cases hconflict : d.conflict p.uid p.keys with
          | some e => exact .inl ⟨e, rfl⟩
          | none => exact .inr (.inr ⟨p, rfl, hlook, hconflict, rfl⟩)

theorem Sound.prepareClaim_post [SortSlice] (h : d.Sound disk) {claim : Option ResourceClaim}
    (hclaim : ClaimApart cfg claim) :
    (d.prepareClaim claim).Post (fun result disk' => Unchanged d disk result.2 disk' ∨
      (d.Prepares claim result.2 disk' ∧ ∃ devices, result.1 = .ok devices)) disk := by
  rcases d.prepareClaim_cases (C := C) claim with ⟨e, hcall⟩ | ⟨_, existing, _, hlook, _, hcall⟩ |
    ⟨p, hp, hlook, hconflict, hcall⟩
  · rw [hcall]
    exact .inl ⟨rfl, rfl⟩
  · rw [hcall]
    refine Prog.post_mono ?_ (d.prepareAgain_post disk (h.apart _ _ hlook))
    exact fun result disk' hsame => .inl hsame
  · rw [hcall]
    have hfree := h.consistent.free_of_conflict hlook hconflict
    refine Prog.post_mono ?_ (d.prepareNew_post disk (hclaim.file hp) hlook hfree)
    rintro result disk' (hsame | ⟨hrecord, hstored, hok⟩)
    · exact .inl hsame
    · exact .inr ⟨⟨p, hp, hlook, hfree, hrecord, hstored⟩, hok⟩

theorem Sound.of_prepares [SortSlice] (h : d.Sound disk) {claim : Option ResourceClaim}
    (hclaim : ClaimApart cfg claim) {d' : Driver cfg} {disk' : Disk String C}
    (hprepares : d.Prepares claim d' disk') : d'.Sound disk' := by
  obtain ⟨p, hp, hnew, hfree, rfl, hstored⟩ := hprepares
  have huid : p.uid ≠ "" := by
    obtain ⟨c, _, _, _, _, _, huid, hpuid, _⟩ := preparedClaimFor_cases hp
    rw [hpuid]
    exact huid
  refine ⟨h.consistent.record huid hnew hfree, hstored, ?_⟩
  intro uid q hq
  rw [Driver.record, lookup_insert_ite] at hq
  split_ifs at hq
  · cases hq
    exact hclaim.file hp
  · exact h.apart uid q hq

theorem Sound.prepareClaim [SortSlice] (h : d.Sound disk) {claim : Option ResourceClaim}
    (hclaim : ClaimApart cfg claim) :
    (d.prepareClaim claim).Post (fun result disk' => result.2.Sound disk') disk := by
  refine Prog.post_mono ?_ (h.prepareClaim_post hclaim)
  rintro result disk' (hsame | ⟨hprepares, _⟩)
  · exact h.of_unchanged hsame
  · exact h.of_prepares hclaim hprepares

/-- What `unprepareClaim` can do: nothing, or delete the claim. -/
def Unprepares (d : Driver cfg) (uid : String) (d' : Driver cfg) (disk' : Disk String C) : Prop :=
  ∃ p, d.prepared.lookup uid = some p ∧ d' = d.forget uid p ∧ Stored cfg d'.prepared disk'

theorem Sound.dropClaim_post (h : d.Sound disk) {uid : String} {p : PreparedClaim}
    (hp : d.prepared.lookup uid = some p) :
    (d.dropClaim uid p).Post (fun result disk' => Unchanged d disk result.2 disk' ∨
      (d.Unprepares uid result.2 disk' ∧ result.1 = none)) disk := by
  have hrestore := h.consistent.record_forget hp
  refine Prog.post_bind (Prog.post_mono ?_ ((d.forget uid p).persist_post disk))
  intro result disk' hpersist
  cases result with
  | error e =>
      refine (writeCDI_spares (h.apart uid p hp) disk').post_bind ?_
      intro result disk'' hsame
      cases result with
      | error e => exact .inl ⟨hrestore, hsame.trans hpersist⟩
      | ok _ => exact .inl ⟨hrestore, hsame.trans hpersist⟩
  | ok _ => exact .inr ⟨⟨p, hp, rfl, hpersist⟩, rfl⟩

theorem Sound.unprepareClaim_post (h : d.Sound disk) (uid : String) :
    (d.unprepareClaim uid).Post (fun result disk' => Unchanged d disk result.2 disk' ∨
      (d.Unprepares uid result.2 disk' ∧ result.1 = none)) disk := by
  unfold Driver.unprepareClaim
  cases hp : d.prepared.lookup uid with
  | none => exact .inl ⟨rfl, rfl⟩
  | some p =>
      refine (remove_spares (h.apart uid p hp).1 disk).post_bind ?_
      intro answer disk' hsame
      have hdrop := (h.congr hsame).dropClaim_post hp
      simp only [Unchanged, hsame] at hdrop
      cases answer with
      | ok _ => exact hdrop
      | error e =>
          cases e with
          | notExist => exact hdrop
          | failed e => exact .inl ⟨rfl, hsame⟩

theorem Sound.unprepareClaim (h : d.Sound disk) (uid : String) :
    (d.unprepareClaim uid).Post (fun result disk' => result.2.Sound disk') disk := by
  refine Prog.post_mono ?_ (h.unprepareClaim_post uid)
  rintro result disk' (hsame | ⟨⟨p, hp, hforget, hstored⟩, _⟩)
  · exact h.of_unchanged hsame
  · rw [hforget] at hstored ⊢
    refine ⟨h.consistent.forget hp, hstored, ?_⟩
    intro u q hq
    rw [Driver.forget, lookup_erase_ite] at hq
    split_ifs at hq
    exact h.apart u q hq

/-! ### Loading -/

omit [Json C] in
/-- The devices of a claim are adopted exactly if they are different and none has an owner. -/
theorem adoptDevices_eq_ok_iff {uid : String} (huid : uid ≠ "") :
    ∀ (keys : List String) (owners owners' : GoMap String String),
      adoptDevices uid owners keys = .ok owners' ↔
        keys.Nodup ∧ (∀ key ∈ keys, (owners.lookup key).getD "" = "") ∧
          owners' = insertAll owners keys uid
  | [], owners, owners' => by
      constructor
      · intro h
        exact ⟨List.nodup_nil, by simp, (Except.ok.inj h).symm⟩
      · rintro ⟨_, _, rfl⟩
        rfl
  | key :: keys, owners, owners' => by
      rw [adoptDevices, List.forall_mem_cons, List.nodup_cons]
      split_ifs with hkey
      · simp [hkey]
      · have hzero : (owners.lookup key).getD "" = "" := not_not.mp hkey
        have hfold : insertAll owners (key :: keys) uid = insertAll (owners.insert key uid) keys uid :=
          rfl
        rw [adoptDevices_eq_ok_iff huid keys, hfold]
        -- the key just inserted must not come again, since its owner is not empty
        have hagain : (∀ k ∈ keys, ((owners.insert key uid).lookup k).getD "" = "") ↔
            key ∉ keys ∧ ∀ k ∈ keys, (owners.lookup k).getD "" = "" := by
          constructor
          · intro h
            have hnot : key ∉ keys := by
              intro hmem
              have hself := h key hmem
              rw [lookup_insert_ite, if_pos rfl] at hself
              exact huid hself
            refine ⟨hnot, ?_⟩
            intro k hk
            have hother := h k hk
            rwa [lookup_insert_ite, if_neg (by rintro rfl; exact hnot hk)] at hother
          · rintro ⟨hnot, h⟩ k hk
            rw [lookup_insert_ite, if_neg (by rintro rfl; exact hnot hk)]
            exact h k hk
        rw [hagain]
        tauto

/-- A claim that `load` accepts is recorded as `prepareClaim` records it. -/
theorem Consistent.adopt {d : Driver cfg} (h : d.Consistent) {p : PreparedClaim}
    {owners : GoMap String String} (huid : p.uid ≠ "")
    (hadopt : adoptDevices p.uid d.owners p.keys = .ok owners) :
    Driver.mk (d.prepared.insert p.uid p) owners = d.record p.uid p ∧ p.keys.Nodup ∧
      ∀ key ∈ p.keys, d.owners.lookup key = none := by
  obtain ⟨hnodup, hzero, howners⟩ := (adoptDevices_eq_ok_iff huid _ _ _).mp hadopt
  rw [howners]
  exact ⟨rfl, hnodup, fun key hk => h.owner_eq_none (hzero key hk)⟩

/-- The maps after the claims of the list were loaded. -/
structure Loaded (d d' : Driver cfg) (entries : List (String × PreparedClaim)) : Prop where
  consistent : d'.Consistent
  prepared : ∀ uid p, d'.prepared.lookup uid = some p ↔
    (uid, p) ∈ entries ∨ d.prepared.lookup uid = some p
  distinct : ∀ e ∈ entries, e.2.keys.Nodup

omit [Json C] in
/-- The claims after the first one stay unknown when that one is recorded. -/
theorem lookup_record_of_fresh {d : Driver cfg} {p : PreparedClaim}
    {entries : List (String × PreparedClaim)} (hnot : p.uid ∉ entries.map Prod.fst)
    (hfresh : ∀ e ∈ entries, d.prepared.lookup e.1 = none) :
    ∀ e ∈ entries, (d.record p.uid p).prepared.lookup e.1 = none := by
  intro e he
  have hne : e.1 ≠ p.uid := by
    intro heq
    have hmem : e.1 ∈ entries.map Prod.fst := List.mem_map_of_mem he
    exact hnot (heq ▸ hmem)
  rw [record, lookup_insert_ite, if_neg hne]
  exact hfresh e he

omit [Json C] in
theorem Loaded.cons {d d' : Driver cfg} {p : PreparedClaim}
    {entries : List (String × PreparedClaim)} (hnew : d.prepared.lookup p.uid = none)
    (hdistinct : p.keys.Nodup) (h : (d.record p.uid p).Loaded d' entries) :
    d.Loaded d' ((p.uid, p) :: entries) := by
  refine ⟨h.consistent, ?_, List.forall_mem_cons.mpr ⟨hdistinct, h.distinct⟩⟩
  intro uid q
  rw [h.prepared, record, lookup_insert_ite, List.mem_cons, Prod.mk.injEq]
  by_cases heq : uid = p.uid
  · subst heq
    rw [if_pos rfl, hnew]
    simp [eq_comm, or_comm]
  · rw [if_neg heq]
    simp [heq]

theorem loadClaims_post : ∀ (entries : List (String × PreparedClaim)) (d : Driver cfg)
    (disk : Disk String C), d.Consistent → (entries.map Prod.fst).Nodup →
    (∀ e ∈ entries, d.prepared.lookup e.1 = none) →
      (d.loadClaims entries).Post (fun result _ => ∀ d', result = .ok d' → d.Loaded d' entries)
        disk
  | [], d, disk, h, _, _ => by
      rintro d' ⟨⟩
      exact ⟨h, by simp, by simp⟩
  | (key, p) :: entries, d, disk, h, hnodup, hfresh => by
      rw [List.map_cons, List.nodup_cons] at hnodup
      rw [List.forall_mem_cons] at hfresh
      rw [loadClaims]
      split_ifs with hkey
      · rintro d' ⟨⟩
      · obtain ⟨rfl, huid⟩ : p.uid = key ∧ p.uid ≠ "" := by
          rw [not_or, not_not] at hkey
          exact hkey
        cases hadopt : adoptDevices p.uid d.owners p.keys with
        | error e => rintro d' ⟨⟩
        | ok owners =>
            obtain ⟨hrecord, hdistinct, hfree⟩ := h.adopt huid hadopt
            apply Prog.post_bind
            refine Prog.post_mono (Q := fun _ _ => True) ?_ (Prog.post_true _ _)
            intro result disk' _
            cases result with
            | error e => rintro d' ⟨⟩
            | ok _ =>
                simp only
                rw [hrecord]
                refine Prog.post_mono ?_ (loadClaims_post entries (d.record p.uid p) disk'
                  (h.record huid hfresh.1 hfree) hnodup.2
                  (lookup_record_of_fresh hnodup.1 hfresh.2))
                intro result disk'' hloaded d' hresult
                exact (hloaded d' hresult).cons hfresh.1 hdistinct

theorem loadClaims_spares {x : String} : ∀ (entries : List (String × PreparedClaim))
    (d : Driver cfg) (disk : Disk String C),
    (∀ e ∈ entries, x ≠ e.2.cdiFile ∧ x ≠ temporary e.2.cdiFile) →
      (d.loadClaims entries : Program C _).Spares x disk
  | [], _, _, _ => trivial
  | (key, p) :: entries, d, disk, h => by
      rw [List.forall_mem_cons] at h
      rw [loadClaims]
      split_ifs with hkey
      · trivial
      · cases hadopt : adoptDevices p.uid d.owners p.keys with
        | error e => trivial
        | ok owners =>
            refine (writeCDI_spares h.1 disk).bind ?_
            intro result disk' _
            cases result with
            | error e => trivial
            | ok _ => exact loadClaims_spares entries _ disk' h.2

end Driver

/-- No claim of the state file names the state file as its CDI file. -/
def RecordedApart (cfg : Config) (disk : Disk String C) : Prop :=
  ∀ content state, disk.lookup cfg.statePath = some content →
    Json.decodeState content = .ok state →
      ∀ uid p, state.claims.lookup uid = some p → Apart cfg p.cdiFile

theorem RecordedApart.congr {disk disk' : Disk String C} (h : RecordedApart cfg disk)
    (hsame : disk'.lookup cfg.statePath = disk.lookup cfg.statePath) : RecordedApart cfg disk' := by
  unfold RecordedApart
  rw [hsame]
  exact h

/-- No claim of the state file has the file as its CDI file. -/
def RecordedSpare (cfg : Config) (x : String) (disk : Disk String C) : Prop :=
  ∀ claims, Stored cfg claims disk → ∀ uid p, claims.lookup uid = some p →
    x ≠ p.cdiFile ∧ x ≠ temporary p.cdiFile

theorem RecordedApart.spare {disk : Disk String C} (h : RecordedApart cfg disk) :
    RecordedSpare cfg cfg.statePath disk := by
  intro claims hstored uid p hp
  unfold Stored at hstored
  cases hfile : disk.lookup cfg.statePath with
  | none =>
      rw [hfile] at hstored
      simp only at hstored
      simp [hstored] at hp
  | some content =>
      rw [hfile] at hstored
      exact h content _ hfile hstored uid p hp

theorem Driver.Sound.recordedApart {d : Driver cfg} {disk : Disk String C} (h : d.Sound disk) :
    RecordedApart cfg disk := by
  intro content state hcontent hstate
  have hstored := h.stored
  unfold Stored at hstored
  simp only [hcontent, hstate, Except.ok.injEq] at hstored
  rw [hstored]
  exact h.apart

section start

variable {disk : Disk String C} (order : Iteration String PreparedClaim)

theorem Driver.load_spares {x : String} (d : Driver cfg) (h : RecordedSpare cfg x disk) :
    (d.load order : Program C _).Spares x disk := by
  intro fault
  rcases serve_readFile_cases fault disk cfg.statePath with
    ⟨e, hserve⟩ | ⟨_, hserve⟩ | ⟨content, hcontent, hserve⟩
  · rw [hserve]
    exact ⟨rfl, trivial⟩
  · rw [hserve]
    exact ⟨rfl, trivial⟩
  · rw [hserve]
    refine ⟨rfl, ?_⟩
    simp only [Prog.bind]
    cases hstate : Json.decodeState content with
    | error text => trivial
    | ok state =>
        simp only
        split_ifs with hversion
        · trivial
        · have hstored : Stored cfg state.claims disk := by
            unfold Stored
            rw [hcontent]
            simp only
            rw [hstate, ← not_not.mp hversion]
          apply Driver.loadClaims_spares
          intro e he
          exact h state.claims hstored e.1 e.2 ((order.mem_iff _ _ _).mp he)

theorem Driver.load_post (h : RecordedApart cfg disk) :
    ((Driver.mk ∅ ∅ : Driver cfg).load order).Post
      (fun result disk' => ∀ d, result = .ok d → d.Sound disk' ∧ d.DistinctKeys) disk := by
  intro fault
  rcases serve_readFile_cases fault disk cfg.statePath with
    ⟨e, hserve⟩ | ⟨hnone, hserve⟩ | ⟨content, hcontent, hserve⟩
  · rw [hserve]
    rintro d ⟨⟩
  · rw [hserve]
    rintro d ⟨⟩
    refine ⟨⟨Driver.consistent_empty, ?_, by simp⟩, by simp [Driver.DistinctKeys]⟩
    unfold Stored
    rw [hnone]
  · rw [hserve]
    simp only [Prog.bind]
    cases hstate : Json.decodeState content with
    | error text => rintro d ⟨⟩
    | ok state =>
        simp only
        split_ifs with hversion
        · rintro d ⟨⟩
        · have hapart : ∀ e ∈ order.list state.claims, Apart cfg e.2.cdiFile := by
            intro e he
            exact h content state hcontent hstate e.1 e.2 ((order.mem_iff _ _ _).mp he)
          refine Prog.post_mono ?_ (Prog.post_and
            (Driver.loadClaims_post _ _ disk Driver.consistent_empty (order.nodup state.claims)
              (by simp))
            (Driver.loadClaims_spares _ _ disk hapart).post)
          rintro result disk' ⟨hloaded, hsame⟩ d hresult
          have hprepared : d.prepared = state.claims := by
            apply Finmap.ext_lookup
            intro uid
            apply Option.ext
            intro p
            rw [(hloaded d hresult).prepared, order.mem_iff]
            simp
          refine ⟨⟨(hloaded d hresult).consistent, ?_, ?_⟩, ?_⟩
          · unfold Stored
            rw [hsame, hcontent, hprepared]
            simp only
            rw [hstate, ← not_not.mp hversion]
          · rw [hprepared]
            exact h content state hcontent hstate
          · intro uid p hp
            rw [hprepared, ← order.mem_iff] at hp
            exact (hloaded d hresult).distinct _ hp

theorem newDriver_spares {x : String} (h : RecordedSpare cfg x disk) :
    (newDriver cfg order : Program C _).Spares x disk := by
  unfold newDriver
  split_ifs
  · trivial
  · intro fault
    cases fault with
    | some f => exact ⟨rfl, trivial⟩
    | none =>
        refine ⟨rfl, fun fault => ?_⟩
        cases fault with
        | some f => exact ⟨rfl, trivial⟩
        | none => exact ⟨rfl, Driver.load_spares order _ h⟩

theorem newDriver_post (h : RecordedApart cfg disk) :
    (newDriver cfg order).Post (fun result disk' => ∀ d, result = .ok d →
      d.Sound disk' ∧ d.DistinctKeys ∧ ¬ cfg.Incomplete) disk := by
  unfold newDriver
  split_ifs with hcfg
  · rintro d ⟨⟩
  · refine (mkdirAll_spares cfg.statePath _ disk).post_bind ?_
    intro answer disk' hsame
    cases answer with
    | error e => rintro d ⟨⟩
    | ok _ =>
        refine (mkdirAll_spares cfg.statePath _ disk').post_bind ?_
        intro answer disk'' hsame'
        cases answer with
        | error e => rintro d ⟨⟩
        | ok _ =>
            refine Prog.post_mono ?_ (Driver.load_post order (h.congr (hsame'.trans hsame)))
            intro result disk₃ hload d hresult
            obtain ⟨hsound, hdistinct⟩ := hload d hresult
            exact ⟨hsound, hdistinct, hcfg⟩

end start

/-! ### The state file is replaced at most once -/

namespace Driver

variable {d : Driver cfg} {disk : Disk String C}

theorem prepareNew_switches (d : Driver cfg) {p : PreparedClaim} (hapart : Apart cfg p.cdiFile)
    (disk : Disk String C) : (d.prepareNew p : Program C _).Switches cfg.statePath disk := by
  refine (writeCDI_spares hapart disk).bind_switches ?_
  intro result disk' _
  cases result with
  | error e => trivial
  | ok _ =>
      refine ((d.record p.uid p).persist_switches disk').bind ?_
      intro result disk''
      cases result with
      | error e =>
          refine (remove_spares hapart.1 disk'').bind ?_
          intro _ _ _
          trivial
      | ok _ => trivial

theorem Sound.prepareClaim_switches [SortSlice] (h : d.Sound disk) {claim : Option ResourceClaim}
    (hclaim : ClaimApart cfg claim) :
    (d.prepareClaim claim : Program C _).Switches cfg.statePath disk := by
  rcases d.prepareClaim_cases (C := C) claim with ⟨e, hcall⟩ | ⟨_, existing, _, hlook, _, hcall⟩ |
    ⟨p, hp, _, _, hcall⟩
  · rw [hcall]
    trivial
  · rw [hcall]
    apply Prog.Spares.switches
    refine (writeCDI_spares (h.apart _ _ hlook) disk).bind ?_
    intro result _ _
    cases result <;> trivial
  · rw [hcall]
    exact d.prepareNew_switches (hclaim.file hp) disk

theorem Sound.dropClaim_switches (h : d.Sound disk) {uid : String} {p : PreparedClaim}
    (hp : d.prepared.lookup uid = some p) :
    (d.dropClaim uid p : Program C _).Switches cfg.statePath disk := by
  refine ((d.forget uid p).persist_switches disk).bind ?_
  intro result disk'
  cases result with
  | error e =>
      refine (writeCDI_spares (h.apart uid p hp) disk').bind ?_
      intro result _ _
      cases result <;> trivial
  | ok _ => trivial

theorem Sound.unprepareClaim_switches (h : d.Sound disk) (uid : String) :
    (d.unprepareClaim uid : Program C _).Switches cfg.statePath disk := by
  unfold Driver.unprepareClaim
  cases hp : d.prepared.lookup uid with
  | none => trivial
  | some p =>
      refine (remove_spares (h.apart uid p hp).1 disk).bind_switches ?_
      intro answer disk' hsame
      cases answer with
      | ok _ => exact (h.congr hsame).dropClaim_switches hp
      | error e =>
          cases e with
          | notExist => exact (h.congr hsame).dropClaim_switches hp
          | failed e => trivial

end Driver

/-! ### Runs -/

/-- What the kubelet and the node do to the driver. -/
inductive Operation where
  | prepareClaim (claim : Option ResourceClaim)
  | unprepareClaim (uid : String)
  | newDriver (order : Iteration String PreparedClaim)

/-- An operation with the faults of its file requests; with `crash = some n` the process stops
after the first `n` of them. -/
structure Event (C : Type) where
  operation : Operation
  faults : List (Option (Fault C String))
  crash : Option ℕ

/-- The files of the node and the driver that runs on it, if one does. -/
structure Node (cfg : Config) (C : Type) where
  disk : Disk String C
  driver : Option (Driver cfg)

/-- The driver that runs after the operation. -/
def Operation.program [SortSlice] (driver : Option (Driver cfg)) :
    Operation → Program C (Option (Driver cfg))
  | prepareClaim claim =>
      match driver with
      | none => pure none
      | some d => do
          let result ← d.prepareClaim claim
          pure (some result.2)
  | unprepareClaim uid =>
      match driver with
      | none => pure none
      | some d => do
          let result ← d.unprepareClaim uid
          pure (some result.2)
  | newDriver order => do
      match ← Dra.newDriver cfg order with
      | .error _ => pure none
      | .ok d => pure (some d)

namespace Node

variable [SortSlice]

def step (n : Node cfg C) (e : Event C) : Node cfg C :=
  match e.crash with
  | none =>
      let outcome := (e.operation.program n.driver).run e.faults n.disk
      ⟨outcome.2, outcome.1⟩
  | some k => ⟨(e.operation.program n.driver).crashAfter k e.faults n.disk, none⟩

/-- The node after the events, from a disk without a running driver. -/
def run (cfg : Config) (disk : Disk String C) (es : List (Event C)) : Node cfg C :=
  Runs.run step ⟨disk, none⟩ es

end Node

/-- The CDI file of a claim to prepare is apart from the state file. -/
def Operation.Apart (cfg : Config) : Operation → Prop
  | prepareClaim claim => Driver.ClaimApart cfg claim
  | unprepareClaim _ => True
  | newDriver _ => True

namespace Node

variable [SortSlice]

structure Invariant (n : Node cfg C) : Prop where
  recorded : RecordedApart cfg n.disk
  sound : ∀ d, n.driver = some d → d.Sound n.disk

theorem Invariant.program_post {n : Node cfg C} (h : n.Invariant) {op : Operation}
    (hop : op.Apart cfg) :
    (op.program n.driver).Post (fun driver disk' => (Node.mk disk' driver).Invariant) n.disk := by
  have hsound : ∀ (d : Driver cfg) (disk : Disk String C), d.Sound disk →
      (Node.mk disk (some d)).Invariant := by
    intro d disk hd
    refine ⟨hd.recordedApart, ?_⟩
    rintro d' ⟨⟩
    exact hd
  have hstopped : ∀ disk : Disk String C, RecordedApart cfg disk →
      (Node.mk disk (none : Option (Driver cfg))).Invariant := by
    intro disk hdisk
    refine ⟨hdisk, ?_⟩
    rintro d' ⟨⟩
  obtain ⟨disk, driver⟩ := n
  cases op with
  | prepareClaim claim =>
      cases driver with
      | none => exact h
      | some d =>
          refine Prog.post_bind (Prog.post_mono ?_ ((h.sound d rfl).prepareClaim hop))
          exact fun result disk' hd => hsound result.2 disk' hd
  | unprepareClaim uid =>
      cases driver with
      | none => exact h
      | some d =>
          refine Prog.post_bind (Prog.post_mono ?_ ((h.sound d rfl).unprepareClaim uid))
          exact fun result disk' hd => hsound result.2 disk' hd
  | newDriver order =>
      refine Prog.post_bind (Prog.post_mono ?_ (Prog.post_and (newDriver_post order h.recorded)
        (newDriver_spares order h.recorded.spare).post))
      rintro result disk' ⟨hd, hsame⟩
      cases result with
      | error e => exact hstopped disk' (h.recorded.congr hsame)
      | ok d => exact hsound d disk' (hd d rfl).1

theorem Invariant.program_switches {n : Node cfg C} (h : n.Invariant) {op : Operation}
    (hop : op.Apart cfg) :
    (op.program n.driver : Program C _).Switches cfg.statePath n.disk := by
  obtain ⟨disk, driver⟩ := n
  cases op with
  | prepareClaim claim =>
      cases driver with
      | none => trivial
      | some d => exact ((h.sound d rfl).prepareClaim_switches hop).bind fun _ _ => trivial
  | unprepareClaim uid =>
      cases driver with
      | none => trivial
      | some d => exact ((h.sound d rfl).unprepareClaim_switches uid).bind fun _ _ => trivial
  | newDriver order =>
      refine (newDriver_spares order h.recorded.spare).switches.bind ?_
      intro result _
      cases result <;> trivial

theorem Invariant.step {n : Node cfg C} (h : n.Invariant) {e : Event C}
    (he : e.operation.Apart cfg) : (n.step e).Invariant := by
  have hpost := Prog.post_run (h.program_post he) e.faults
  unfold Node.step
  cases e.crash with
  | none => exact hpost
  | some k =>
      refine ⟨?_, ?_⟩
      · rcases (h.program_switches he).crashAfter k e.faults with hold | hfinal
        · exact h.recorded.congr hold
        · exact hpost.recorded.congr hfinal
      · rintro d ⟨⟩

omit [SortSlice] in
theorem invariant_start {disk : Disk String C} (hdisk : RecordedApart cfg disk) :
    (⟨disk, none⟩ : Node cfg C).Invariant := by
  refine ⟨hdisk, ?_⟩
  rintro d ⟨⟩

theorem invariant_run {disk : Disk String C} (hdisk : RecordedApart cfg disk) {es : List (Event C)}
    (hes : ∀ e ∈ es, e.operation.Apart cfg) : (run cfg disk es).Invariant := by
  have hstep : ∀ (n : Node cfg C) (e : Event C), n.Invariant → e.operation.Apart cfg →
      (n.step e).Invariant := fun n e h he => h.step he
  exact Runs.invariant_run Invariant hstep es ⟨disk, none⟩ (invariant_start hdisk)
    (Runs.along_of_forall es _ hes)

end Node

/-! ### The deployed configuration -/

/-- The configuration that the driver's command passes. -/
def mainConfig (nodeName stateRoot cdiDir : String) : Config where
  driverName := driverName
  nodeName := nodeName
  statePath := GoPath.join [stateRoot, "prepared.json"]
  cdiDir := cdiDir

theorem lastElement_cdiFile (cfg : Config) {uid : String} (huid : '/' ∉ uid.toList) :
    GoPath.lastElement (cdiFile cfg uid).toList =
      "accelerator-".toList ++ uid.toList ++ ".json".toList := by
  unfold cdiFile
  rw [GoPath.lastElement_join]
  · simp
  · refine ⟨?_, ?_, ?_, ?_⟩ <;> simp [huid]

/-- In the deployed configuration the CDI file of a claim is apart from the state file, since a
Kubernetes UID has no slash. -/
theorem apart_mainConfig (nodeName stateRoot cdiDir : String) {uid : String}
    (huid : '/' ∉ uid.toList) : Apart (mainConfig nodeName stateRoot cdiDir)
      (cdiFile (mainConfig nodeName stateRoot cdiDir) uid) := by
  have hstate : GoPath.lastElement (mainConfig nodeName stateRoot cdiDir).statePath.toList =
      "prepared.json".toList :=
    GoPath.lastElement_join stateRoot ⟨by decide, by decide, by decide, by decide⟩
  have hfile := lastElement_cdiFile (mainConfig nodeName stateRoot cdiDir) huid
  constructor
  · intro h
    rw [← h, hstate] at hfile
    simp at hfile
  · intro h
    have hslash : '/' ∉ ".tmp".toList := by decide
    have htmp := GoPath.lastElement_append
      (cdiFile (mainConfig nodeName stateRoot cdiDir) uid).toList hslash
    rw [← String.toList_append, ← temporary, ← h, hstate, hfile] at htmp
    simp at htmp

/-! ### Ownership -/

/-- What the maps and the state file of a running driver say: the owners are the inverse of the
prepared claims, no device is prepared for two claims, every claim is stored under its own UID,
and the state file holds exactly the prepared claims. -/
structure Driver.OwnershipInvariant (d : Driver cfg) (disk : Disk String C) : Prop where
  owners_iff : ∀ key uid, d.owners.lookup key = some uid ↔
    ∃ p, d.prepared.lookup uid = some p ∧ ∃ device ∈ p.devices, deviceKey device = key
  exclusive : ∀ uid uid' p p', d.prepared.lookup uid = some p → d.prepared.lookup uid' = some p' →
    ∀ key, key ∈ p.keys → key ∈ p'.keys → uid = uid'
  own_uid : ∀ uid p, d.prepared.lookup uid = some p → p.uid = uid
  stored : Stored cfg d.prepared disk

theorem Driver.Sound.ownershipInvariant {d : Driver cfg} {disk : Disk String C}
    (h : d.Sound disk) : d.OwnershipInvariant disk where
  owners_iff := by
    intro key uid
    rw [h.consistent.index key uid]
    simp only [Driver.holds, PreparedClaim.keys, List.mem_map]
    rfl
  exclusive := by
    intro uid uid' p p' hp hp' key hk hk'
    exact h.consistent.index.exclusive ⟨p, hp, hk⟩ ⟨p', hp', hk'⟩
  own_uid := fun uid p hp => (h.consistent.own uid p hp).1
  stored := h.stored

/-- **Ownership and persistence over whole runs.**  Whatever fails and wherever the process
stops, the maps and the state file of a running driver agree, as long as no CDI file is the state
file: neither one that the initial state file names nor one of a claim to prepare. -/
theorem Node.run_sound [SortSlice] (cfg : Config) (disk : Disk String C) (es : List (Event C))
    (hdisk : RecordedApart cfg disk) (hes : ∀ e ∈ es, e.operation.Apart cfg) (d : Driver cfg)
    (hd : (run cfg disk es).driver = some d) : d.OwnershipInvariant (run cfg disk es).disk :=
  ((invariant_run hdisk hes).sound d hd).ownershipInvariant

/-! ### Concrete runs -/

/-- Contents that are not encoded: a CDI file read as a state has no version and no claims. -/
@[reducible] def sampleJson : Json (PersistedState ⊕ CdiSpec) where
  encodeState := .inl
  encodeSpec := .inr
  decodeState
    | .inl state => .ok state
    | .inr _ => .ok ⟨0, ∅⟩
  decode_encode := fun _ => rfl

@[reducible] def sampleSort : SortSlice where
  sort less l := l.insertionSort (fun a b => less b a = false)
  perm _ l := List.perm_insertionSort _ l

def sampleOrder : Iteration String PreparedClaim := Iteration.sorted (fun a b => a ≤ b)

def sampleConfig : Config := mainConfig "worker" "/state" "/cdi"

/-- A claim with the devices of the given names allocated, one for each request. -/
def sampleClaim (uid : String) (devices : List (String × String)) : ResourceClaim where
  namespaceName := "team-a"
  name := "claim"
  uid := uid
  allocation := some (devices.map fun d => ⟨d.1, driverName, "worker", d.2, none⟩)

/-- A start, and the preparation of one claim, without faults. -/
def sampleEvents (claim : ResourceClaim) : List (Event (PersistedState ⊕ CdiSpec)) :=
  [⟨.newDriver sampleOrder, [], none⟩, ⟨.prepareClaim (some claim), [], none⟩]

theorem apart_sampleEvents {claim : ResourceClaim} (huid : '/' ∉ claim.uid.toList) :
    ∀ e ∈ sampleEvents claim, e.operation.Apart sampleConfig := by
  simp only [sampleEvents, List.forall_mem_cons, Operation.Apart, List.not_mem_nil,
    false_implies, implies_true, true_and, and_true]
  rintro c ⟨⟩
  exact apart_mainConfig "worker" "/state" "/cdi" huid

theorem recordedApart_empty : RecordedApart cfg (∅ : Disk String C) := by
  intro content state hcontent
  simp at hcontent

theorem Node.run_sound_after_prepare :
    let : Json (PersistedState ⊕ CdiSpec) := sampleJson
    let : SortSlice := sampleSort
    let n := run sampleConfig ∅ (sampleEvents (sampleClaim "uid-one" [("accelerators", "gpu0")]))
    ∃ d, n.driver = some d ∧ d.owners.lookup "worker/gpu0" = some "uid-one" ∧
      d.OwnershipInvariant n.disk := by
  intro json sort n
  have howner : (n.driver.bind fun d => d.owners.lookup "worker/gpu0") = some "uid-one" := by
    decide +kernel
  obtain ⟨d, hd, hkey⟩ := Option.bind_eq_some_iff.mp howner
  exact ⟨d, hd, hkey, run_sound sampleConfig ∅ _ recordedApart_empty
    (apart_sampleEvents (by decide)) d hd⟩

/-- A state file whose only claim names the state file as its CDI file. -/
def selfNamingState : PersistedState where
  version := stateVersion
  claims := literal [("uid-one", ⟨"team-a", "claim", "uid-one",
    [⟨"accelerators", "worker", "gpu0", ""⟩], "/state/prepared.json", "id"⟩)]

/-- `load` accepts that state file and overwrites it with the CDI specification. -/
theorem Node.start_overwrites_state :
    ¬ ∀ (C : Type) (_ : Json C) (_ : SortSlice) (cfg : Config) (disk : Disk String C)
      (es : List (Event C)) (d : Driver cfg), (run cfg disk es).driver = some d →
        d.OwnershipInvariant (run cfg disk es).disk := by
  intro h
  let : Json (PersistedState ⊕ CdiSpec) := sampleJson
  let : SortSlice := sampleSort
  let disk : Disk String (PersistedState ⊕ CdiSpec) :=
    literal [("/state/prepared.json", .inl selfNamingState)]
  let es : List (Event (PersistedState ⊕ CdiSpec)) := [⟨.newDriver sampleOrder, [], none⟩]
  have hrunning : (run sampleConfig disk es).driver.isSome = true := by decide +kernel
  have hversion : (((run sampleConfig disk es).disk.lookup sampleConfig.statePath).map
      Json.decodeState) = some (.ok ⟨0, ∅⟩) := by decide +kernel
  obtain ⟨d, hd⟩ := Option.isSome_iff_exists.mp hrunning
  have hstored := (h _ sampleJson sampleSort sampleConfig disk es d hd).stored
  obtain ⟨content, hcontent, hdecode⟩ := Option.map_eq_some_iff.mp hversion
  unfold Stored at hstored
  rw [hcontent] at hstored
  simp only [hdecode, Except.ok.injEq, PersistedState.mk.injEq, stateVersion] at hstored
  exact absurd hstored.1 (by decide)

end AcceleratorFabric.Dra
