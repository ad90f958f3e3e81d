import AcceleratorFabric.DevicePlugin
import AcceleratorFabric.DraConsumers
import AcceleratorFabric.DraLeftovers
import AcceleratorFabric.GoScan

/-! # What the containers of a prepared claim see

The container runtime looks up the CDI device of a claim in the CDI files and adds its environment
to the containers.  `synthetic-dra-workload` reads the claim and its devices from there.

* `Node.Injectable`: the CDI file of the claim is there with its specification.  Nothing but the
  claim's own `unprepareClaim` takes it away, not even for a moment (`Node.Injectable.step`).
* `Node.container_sees_claim`: from its preparation until it is unprepared, the containers of a
  claim see exactly the devices that were allocated to it. -/

namespace AcceleratorFabric.Dra

open GoMap GoScan FaultyDisk

variable {C : Type} {cfg : Config} [Json C]

/-! ### The file stays as it is -/

section files

variable {p q : PreparedClaim} {disk : Disk String C}

omit [Json C] in
/-- Writing what is there already changes nothing at any moment. -/
theorem atomicWrite_always {path : String} {content : C} (h : disk.lookup path = some content) :
    (atomicWrite path content).Always (fun disk' => disk'.lookup path = some content) disk := by
  have hne := ne_temporary path
  refine ⟨h, fun fault => ?_⟩
  cases fault with
  | some f =>
      show (insertSome disk (temporary path) f.left).lookup path = some content
      rw [lookup_insertSome, if_neg hne, h]
  | none =>
      have hsame : (disk.insert (temporary path) content).lookup path = some content := by
        rw [lookup_insert_ite, if_neg hne, h]
      refine ⟨hsame, fun fault => ?_⟩
      rcases serve_rename_cases fault (disk.insert (temporary path) content) (temporary path) path
        with ⟨e, hserve⟩ | ⟨moved, hmoved, hserve⟩
      · rw [show serve fault (serve none disk (.writeFile (temporary path) content)).2 _ = _ from
          hserve]
        refine ⟨hsame, fun fault => ?_⟩
        show (serve fault (disk.insert (temporary path) content) (.remove (temporary path))).2.lookup
          path = some content
        rw [lookup_serve fault _ (.remove (temporary path)) (by simpa [Request.writes] using hne),
          hsame]
      · rw [show serve fault (serve none disk (.writeFile (temporary path) content)).2 _ = _ from
          hserve]
        rw [lookup_insert_ite, if_pos rfl, Option.some.injEq] at hmoved
        show (((disk.insert (temporary path) content).erase (temporary path)).insert path
          moved).lookup path = some content
        rw [lookup_insert_ite, if_pos rfl, hmoved]

/-- Other CDI files are other files, and the same file gets the same content. -/
theorem writeCDI_always {uid : String} (hp : p.cdiFile = cdiFile cfg uid)
    (hown : q.cdiFile = cdiFile cfg uid → q = p) (h : HasCDI cfg p disk) :
    (writeCDI cfg q).Always (HasCDI cfg p) disk := by
  by_cases hq : q.cdiFile = cdiFile cfg uid
  · obtain rfl := hown hq
    refine Prog.Always.then (atomicWrite_always h) fun result disk' h' => ?_
    cases result <;> exact h'
  · refine (writeCDI_spares (Driver.clear_of_ne hq) disk).always fun disk' hsame => ?_
    rw [← hp] at hsame
    exact hsame.trans h

end files

namespace Driver

variable {uid : String} {p : PreparedClaim} {d : Driver cfg} {disk : Disk String C}

theorem persist_always (hfile : Apart cfg (cdiFile cfg uid)) (hp : p.cdiFile = cdiFile cfg uid)
    (d : Driver cfg) (h : HasCDI cfg p disk) :
    (d.persist : Program C _).Always (HasCDI cfg p) disk := by
  refine (persist_spares_cdi hfile d disk).always fun disk' hsame => ?_
  rw [← hp] at hsame
  exact hsame.trans h

/-- Of the given claims, the one with the CDI file is `p`. -/
def OnlyOwner (cfg : Config) (uid : String) (p : PreparedClaim)
    (claims : GoMap String PreparedClaim) : Prop :=
  ∀ u q, claims.lookup u = some q → q.cdiFile = cdiFile cfg uid → q = p

theorem onlyOwner_of_own {claims : GoMap String PreparedClaim} (h : OwnFiles cfg uid claims)
    (hp : claims.lookup uid = some p) : OnlyOwner cfg uid p claims := by
  intro u q hq hfile
  rw [(h u q hq).mp hfile, hp] at hq
  exact (Option.some.inj hq).symm

theorem prepareClaim_always [SortSlice] (hfile : Apart cfg (cdiFile cfg uid))
    (hown : OwnFiles cfg uid d.prepared) (hentry : d.prepared.lookup uid = some p)
    {claim : Option ResourceClaim} (hop : (Operation.prepareClaim claim).Proper cfg uid)
    (h : HasCDI cfg p disk) : (d.prepareClaim claim : Program C _).Always (HasCDI cfg p) disk := by
  have hp : p.cdiFile = cdiFile cfg uid := (hown uid p hentry).mpr rfl
  rcases d.prepareClaim_cases (C := C) claim with ⟨e, hcall⟩ |
    ⟨asked, existing, _, hlook, _, hcall⟩ | ⟨q, hq, hnew, _, hcall⟩
  · rw [hcall]
    exact h
  · rw [hcall]
    refine (writeCDI_always hp (onlyOwner_of_own hown hentry _ _ hlook) h).then ?_
    intro result disk' h'
    cases result <;> exact h'
  · rw [hcall]
    -- a claim that is not recorded is another one
    have hne : q.cdiFile ≠ cdiFile cfg uid := by
      intro heq
      rw [(hop.own_iff hq).mp heq, hentry] at hnew
      cases hnew
    refine (writeCDI_always hp (fun heq => absurd heq hne) h).then ?_
    intro result disk' h'
    cases result with
    | error e => exact h'
    | ok _ =>
        refine (persist_always hfile hp (d.record q.uid q) h').then ?_
        intro result disk'' h''
        cases result with
        | error e =>
            refine Prog.Always.then (Prog.Spares.always (x := p.cdiFile) (remove_spares ?_ disk'')
              fun disk₃ hsame => hsame.trans h'') fun _ _ h₃ => h₃
            rw [hp]
            exact hne.symm
        | ok _ => exact h''

theorem unprepareClaim_always (hfile : Apart cfg (cdiFile cfg uid))
    (hown : OwnFiles cfg uid d.prepared) (hp : p.cdiFile = cdiFile cfg uid) {u : String}
    (hu : u ≠ uid) (h : HasCDI cfg p disk) :
    (d.unprepareClaim u : Program C _).Always (HasCDI cfg p) disk := by
  refine (unprepareClaim_spares_cdi hfile hown hu).always fun disk' hsame => ?_
  rw [← hp] at hsame
  exact hsame.trans h

theorem loadClaims_always (hp : p.cdiFile = cdiFile cfg uid) :
    ∀ (entries : List (String × PreparedClaim)) (d : Driver cfg) (disk : Disk String C),
      (∀ e ∈ entries, e.2.cdiFile = cdiFile cfg uid → e.2 = p) → HasCDI cfg p disk →
        (d.loadClaims entries : Program C _).Always (HasCDI cfg p) disk
  | [], _, _, _, h => h
  | (key, q) :: entries, d, disk, hown, h => by
      rw [List.forall_mem_cons] at hown
      rw [loadClaims]
      split_ifs
      · exact h
      · cases adoptDevices q.uid d.owners q.keys with
        | error e => exact h
        | ok owners =>
            refine (writeCDI_always hp hown.1 h).then ?_
            intro result disk' h'
            cases result with
            | error e => exact h'
            | ok _ => exact loadClaims_always hp entries _ disk' hown.2 h'

end Driver

section start

variable {uid : String} {p : PreparedClaim} {disk : Disk String C}
  (order : Iteration String PreparedClaim)

theorem Driver.load_always (hp : p.cdiFile = cdiFile cfg uid) (d : Driver cfg)
    (hown : ∀ claims, Stored cfg claims disk → OnlyOwner cfg uid p claims)
    (h : HasCDI cfg p disk) : (d.load order : Program C _).Always (HasCDI cfg p) disk := by
  refine ⟨h, fun fault => ?_⟩
  rcases serve_readFile_cases fault disk cfg.statePath with
    ⟨e, hserve⟩ | ⟨_, hserve⟩ | ⟨content, hcontent, hserve⟩
  · rw [hserve]
    exact h
  · rw [hserve]
    exact h
  · rw [hserve]
    simp only [Prog.bind]
    cases hstate : Json.decodeState content with
    | error text => exact h
    | ok state =>
        simp only
        split_ifs with hversion
        · exact h
        · have hstored : Stored cfg state.claims disk := by
            unfold Stored
            rw [hcontent]
            simp only
            rw [hstate, ← not_not.mp hversion]
          refine Driver.loadClaims_always hp _ d disk (fun e he => ?_) h
          exact hown state.claims hstored e.1 e.2 ((order.mem_iff _ _ _).mp he)

theorem newDriver_always (hp : p.cdiFile = cdiFile cfg uid)
    (hown : ∀ claims, Stored cfg claims disk → Driver.OnlyOwner cfg uid p claims)
    (h : HasCDI cfg p disk) : (newDriver cfg order : Program C _).Always (HasCDI cfg p) disk := by
  unfold newDriver
  split_ifs
  · exact h
  · refine ⟨h, fun fault => ?_⟩
    cases fault with
    | some f => exact h
    | none =>
        refine ⟨h, fun fault => ?_⟩
        cases fault with
        | some f => exact h
        | none => exact Driver.load_always order hp _ hown h

end start

/-! ### Runs -/

namespace Node

variable [SortSlice] {uid : String} {p : PreparedClaim}

/-- The claim is recorded as `p`, and its CDI file is there. -/
structure Injectable (uid : String) (p : PreparedClaim) (n : Node cfg C) : Prop where
  keeps : n.Keeps uid p
  hasCDI : HasCDI cfg p n.disk

theorem Injectable.program_always {n : Node cfg C} (h : n.Injectable uid p) (hinv : n.Invariant)
    (hown : RecordedOwn cfg uid n.disk) (hfile : Apart cfg (cdiFile cfg uid)) {op : Operation}
    (hop : op.Proper cfg uid) (hnot : op ≠ .unprepareClaim uid) :
    (op.program n.driver : Program C _).Always (HasCDI cfg p) n.disk := by
  obtain ⟨claims, hstored, hentry⟩ := h.keeps.stored
  have hp : p.cdiFile = cdiFile cfg uid := (hown claims hstored uid p hentry).mpr rfl
  obtain ⟨disk, driver⟩ := n
  cases op with
  | prepareClaim claim =>
      cases driver with
      | none => exact h.hasCDI
      | some d =>
          have hd := hown _ (hinv.sound d rfl).stored
          exact (Driver.prepareClaim_always hfile hd (h.keeps.running d rfl) hop h.hasCDI).then
            fun _ _ h' => h'
  | unprepareClaim u =>
      cases driver with
      | none => exact h.hasCDI
      | some d =>
          have hu : u ≠ uid := fun heq => hnot (by rw [heq])
          have hd := hown _ (hinv.sound d rfl).stored
          exact (Driver.unprepareClaim_always hfile hd hp hu h.hasCDI).then fun _ _ h' => h'
  | newDriver order =>
      refine (newDriver_always order hp (fun claims' hstored' => ?_) h.hasCDI).then ?_
      · rw [hstored'.unique hstored]
        exact Driver.onlyOwner_of_own (hown claims hstored) hentry
      · intro result _ h'
        cases result <;> exact h'

/-- **Nothing but its own `unprepareClaim` takes the CDI file of a claim away**, whatever fails and
wherever the process stops. -/
theorem Injectable.step {n : Node cfg C} (h : n.Injectable uid p) (hinv : n.Invariant)
    (hown : RecordedOwn cfg uid n.disk) (hfile : Apart cfg (cdiFile cfg uid)) {e : Event C}
    (he : e.operation.Proper cfg uid) (hnot : e.operation ≠ .unprepareClaim uid) :
    (n.step e).Injectable uid p := by
  have halways := h.program_always hinv hown hfile he hnot
  refine ⟨h.keeps.step hinv he.apart fun heq => absurd heq hnot, ?_⟩
  unfold Node.step
  cases e.crash with
  | none => exact Prog.post_run halways.post e.faults
  | some k => exact halways.crashAfter k e.faults

theorem Injectable.run {n : Node cfg C} (h : n.Injectable uid p) (hinv : n.Invariant)
    (hown : RecordedOwn cfg uid n.disk) (hfile : Apart cfg (cdiFile cfg uid)) {es : List (Event C)}
    (hes : ∀ e ∈ es, e.operation.Proper cfg uid ∧ e.operation ≠ .unprepareClaim uid) :
    (Runs.run Node.step n es).Injectable uid p := by
  have hstep : ∀ (n : Node cfg C) (e : Event C),
      n.Invariant ∧ RecordedOwn cfg uid n.disk ∧ n.Injectable uid p →
      e.operation.Proper cfg uid ∧ e.operation ≠ .unprepareClaim uid →
        (n.step e).Invariant ∧ RecordedOwn cfg uid (n.step e).disk ∧
          (n.step e).Injectable uid p :=
    fun n e hn he => ⟨hn.1.step he.1.apart, recordedOwn_step hn.2.1 hn.1 he.1,
      hn.2.2.step hn.1 hn.2.1 hfile he.1 he.2⟩
  exact (Runs.invariant_run _ hstep es n ⟨hinv, hown, h⟩ (Runs.along_of_forall es n hes)).2.2

/-! ### The names of the records -/

/-- The records have the names that the driver gives them. -/
def RecordedIDs (cfg : Config) (disk : Disk String C) : Prop :=
  ∀ claims, Stored cfg claims disk → ∀ u p, claims.lookup u = some p →
    p.uid = u ∧ p.cdiID = claimCdiID cfg u

theorem recordedIDs_step {n : Node cfg C} {e : Event C} (h : RecordedIDs cfg n.disk)
    (hinv : n.Invariant) (he : e.operation.Apart cfg) : RecordedIDs cfg (n.step e).disk := by
  intro claims hclaims
  rcases hinv.step_changes he with hsame | ⟨d, claims', hd, hstored, hchanges⟩
  · exact h claims (hclaims.congr hsame.symm)
  · have hold := h _ (hinv.sound d hd).stored
    rw [hclaims.unique hstored]
    intro u p hp
    cases hop : e.operation with
    | prepareClaim claim =>
        rw [hop] at hchanges
        obtain ⟨q, hq, rfl⟩ := hchanges
        obtain ⟨c, _, _, rfl, _⟩ := preparedClaimFor_cases hq
        obtain ⟨_, _, _, _, _, _, rfl⟩ := preparedClaimFor_eq_ok_iff.mp hq
        rw [lookup_insert_ite] at hp
        split_ifs at hp with hu
        · cases hp
          rw [hu]
          exact ⟨rfl, rfl⟩
        · exact hold u p hp
    | unprepareClaim v =>
        rw [hop] at hchanges
        rw [show claims' = _ from hchanges, lookup_erase_ite] at hp
        split_ifs at hp
        exact hold u p hp
    | newDriver order =>
        rw [hop] at hchanges
        cases hchanges

theorem recordedIDs_run {disk : Disk String C} (hdisk : RecordedApart cfg disk)
    (h : RecordedIDs cfg disk) {es : List (Event C)} (hes : ∀ e ∈ es, e.operation.Apart cfg) :
    RecordedIDs cfg (run cfg disk es).disk := by
  have hstep : ∀ (n : Node cfg C) (e : Event C), n.Invariant ∧ RecordedIDs cfg n.disk →
      e.operation.Apart cfg → (n.step e).Invariant ∧ RecordedIDs cfg (n.step e).disk :=
    fun n e hn he => ⟨hn.1.step he, recordedIDs_step hn.2 hn.1 he⟩
  exact (Runs.invariant_run _ hstep es ⟨disk, none⟩ ⟨invariant_start hdisk, h⟩
    (Runs.along_of_forall es _ hes)).2

/-- **A successful preparation makes the claim injectable**, and it stays so. -/
theorem injectable_of_prepared {disk : Disk String C} {claim : ResourceClaim}
    {devices : List KubeletDevice} {before after : List (Event C)} {e : Event C}
    (h : PreparedSince cfg disk claim devices before e []) (hdisk : RecordedApart cfg disk)
    (hown : RecordedOwn cfg claim.uid disk) (hids : RecordedIDs cfg disk)
    (hfile : Apart cfg (cdiFile cfg claim.uid))
    (hes : ∀ x ∈ before ++ e :: after, x.operation.Proper cfg claim.uid)
    (hnot : ∀ x ∈ after, x.operation ≠ .unprepareClaim claim.uid) :
    ∃ asked p, preparedClaimFor cfg (some claim) = .ok asked ∧ p.devices = asked.devices ∧
      devices = kubeletDevices p ∧ p.uid = claim.uid ∧ p.cdiFile = cdiFile cfg claim.uid ∧
      p.cdiID = claimCdiID cfg claim.uid ∧
      (run cfg disk (before ++ e :: after)).Injectable claim.uid p := by
  rw [List.forall_mem_append, List.forall_mem_cons] at hes
  obtain ⟨hbefore, hnow, hafter⟩ := hes
  have hapart : ∀ x ∈ before, x.operation.Apart cfg := fun x hx => (hbefore x hx).apart
  have hinv := invariant_run hdisk hapart
  have hnext := hinv.step hnow.apart
  obtain ⟨d, hd, hok⟩ := h.succeeded
  obtain ⟨asked, p, hasked, hdevices, hreturned, hcdi, hkeeps⟩ :=
    hinv.keeps_prepared hd h.operation_eq h.completed hnow.apart hok
  have hownNext := recordedOwn_step (recordedOwn_run hdisk hown hbefore) hinv hnow
  obtain ⟨claims, hstored, hentry⟩ := hkeeps.stored
  obtain ⟨huid, hid⟩ := recordedIDs_step (recordedIDs_run hdisk hids hapart) hinv hnow.apart
    claims hstored _ p hentry
  refine ⟨asked, p, hasked, hdevices, hreturned, huid,
    (hownNext claims hstored _ p hentry).mpr rfl, hid, ?_⟩
  rw [run_append]
  exact Injectable.run ⟨hkeeps, hcdi⟩ hnext hownNext hfile fun x hx => ⟨hafter x hx, hnot x hx⟩

end Node

/-! ### Containers -/

/-- The environment that a CDI specification adds for a device, named by its kind and its name. -/
def injected (spec : CdiSpec) (id : String) : Option (List String) :=
  (spec.devices.find? fun device => spec.kind ++ "=" ++ device.name = id).map (·.env)

/-- `os.Getenv`. -/
def getenv (env : List String) (name : String) : String :=
  ((env.find? fun entry => startsWith entry (name ++ "=")).map
    fun entry => trimStart entry (name ++ "=")).getD ""

inductive WorkloadError where
  | notInjected
  | count (received : ℕ) (expected : ℤ) (raw : String)
deriving DecidableEq, Repr

/-- What the workload prints. -/
def reportLine (claimUID : String) (deviceIDs : List String) : String :=
  "claim=" ++ claimUID ++ " devices=" ++ ",".intercalate deviceIDs ++ "\n"

/-- `synthetic-dra-workload` up to the time it stays. -/
def draWorkload (env : List String) (expected : ℤ) : Except WorkloadError String :=
  let claimUID := getenv env "BUPT_DRA_CLAIM_UID"
  let rawDeviceIDs := getenv env "BUPT_DRA_DEVICE_IDS"
  if claimUID = "" ∨ rawDeviceIDs = "" then .error .notInjected
  else
    let deviceIDs := DevicePlugin.sortStrings (split ',' rawDeviceIDs)
    if (deviceIDs.length : ℤ) ≠ expected then
      .error (.count deviceIDs.length expected rawDeviceIDs)
    else .ok (reportLine claimUID deviceIDs)

section containers

variable {p : PreparedClaim}

/-- The environment of a claim. -/
def claimEnv (p : PreparedClaim) : List String :=
  ["BUPT_DRA_CLAIM_UID=" ++ p.uid, "BUPT_DRA_DEVICE_IDS=" ++ ",".intercalate p.keys]

omit [Json C] in
theorem injected_cdiSpec (hid : p.cdiID = claimCdiID cfg p.uid) :
    injected (cdiSpec cfg p) p.cdiID = some (claimEnv p) := by
  have hname : cfg.driverName ++ "/device" ++ "=" ++ ("claim-" ++ p.uid) = p.cdiID := by
    rw [hid, claimCdiID]
    apply String.toList_inj.mp
    simp
  simp [injected, cdiSpec, claimEnv, hname]

/-- Only the CDI device of the claim is returned. -/
theorem eq_cdiID_of_mem {device : KubeletDevice} (hdevice : device ∈ kubeletDevices p) {id : String}
    (hid : id ∈ device.cdiDeviceIDs) : id = p.cdiID := by
  obtain ⟨index, _, rfl⟩ := List.mem_mapIdx.mp hdevice
  simp only at hid
  split_ifs at hid
  · exact List.mem_singleton.mp hid
  · cases hid

theorem getenv_cons_self (name value : String) (env : List String) :
    getenv ((name ++ "=" ++ value) :: env) name = value := by
  have hstart : startsWith (name ++ "=" ++ value) (name ++ "=") = true := startsWith_append _ value
  simp only [getenv, List.find?_cons, hstart, Option.map_some, Option.getD_some]
  exact trimStart_append _ value

theorem getenv_cons_of_not {entry name : String} (h : startsWith entry (name ++ "=") = false)
    (env : List String) : getenv (entry :: env) name = getenv env name := by
  rw [getenv, List.find?_cons_of_neg (by rw [h]; simp)]
  rfl

theorem comma_not_mem_deviceKey {device : AllocatedDevice} (hpool : ',' ∉ device.pool.toList)
    (hname : ',' ∉ device.device.toList) : ',' ∉ (deviceKey device).toList := by
  simp [deviceKey, hpool, hname]

/-- The keys in the environment are read back. -/
theorem split_keys (hne : p.devices ≠ [])
    (hcomma : ∀ device ∈ p.devices, ',' ∉ device.pool.toList ∧ ',' ∉ device.device.toList) :
    split ',' (",".intercalate p.keys) = p.keys := by
  refine split_intercalate ',' (by simpa [PreparedClaim.keys] using hne) ?_
  intro key hkey
  obtain ⟨device, hdevice, rfl⟩ := List.mem_map.mp hkey
  exact comma_not_mem_deviceKey (hcomma device hdevice).1 (hcomma device hdevice).2

theorem draWorkload_cdi (huid : p.uid ≠ "") (hne : p.devices ≠ [])
    (hcomma : ∀ device ∈ p.devices, ',' ∉ device.pool.toList ∧ ',' ∉ device.device.toList) :
    draWorkload (claimEnv p) p.devices.length =
      .ok (reportLine p.uid (DevicePlugin.sortStrings p.keys)) := by
  have hclaim : getenv (claimEnv p) "BUPT_DRA_CLAIM_UID" = p.uid := getenv_cons_self _ _ _
  have hother : startsWith ("BUPT_DRA_CLAIM_UID=" ++ p.uid) ("BUPT_DRA_DEVICE_IDS" ++ "=") =
      false := by
    simp [startsWith, List.isPrefixOf]
  have hids : getenv (claimEnv p) "BUPT_DRA_DEVICE_IDS" = ",".intercalate p.keys :=
    (getenv_cons_of_not hother _).trans (getenv_cons_self "BUPT_DRA_DEVICE_IDS" _ _)
  have hsplit := split_keys hne hcomma
  have hraw : ",".intercalate p.keys ≠ "" := by
    intro hempty
    -- the empty text would be the list of one empty key
    rw [hempty] at hsplit
    have hmem : "" ∈ p.keys := by
      rw [← hsplit]
      exact List.mem_singleton_self _
    obtain ⟨device, _, hkey⟩ := List.mem_map.mp hmem
    have hslash := congrArg String.toList hkey
    simp [deviceKey] at hslash
  have hlength : (DevicePlugin.sortStrings p.keys).length = p.devices.length := by
    rw [DevicePlugin.sortStrings, (List.perm_insertionSort _ _).length_eq, PreparedClaim.keys,
      List.length_map]
  simp only [draWorkload, hclaim, hids, hsplit, huid, hraw, hlength, or_self, if_false, ne_eq,
    not_true_eq_false]

/-- Sorting does not depend on the order. -/
theorem sortStrings_eq_of_perm {l l' : List String} (h : l.Perm l') :
    DevicePlugin.sortStrings l = DevicePlugin.sortStrings l' := by
  refine List.Perm.eq_of_pairwise' (List.pairwise_insertionSort (· ≤ ·) l)
    (List.pairwise_insertionSort (· ≤ ·) l') ?_
  exact ((List.perm_insertionSort _ l).trans h).trans (List.perm_insertionSort _ l').symm

end containers

/-! ### The result -/

/-- The key of the device of an allocation result. -/
def AllocationResult.key (r : AllocationResult) : String := r.pool ++ "/" ++ r.device

omit [Json C] in
/-- What a claim asks for are the results of its allocation for this driver. -/
theorem asked_devices [SortSlice] {claim : ResourceClaim} {asked : PreparedClaim}
    (h : preparedClaimFor cfg (some claim) = .ok asked) :
    asked.devices.Perm ((driverResults cfg claim).map AllocationResult.allocated) ∧
      asked.devices ≠ [] := by
  obtain ⟨_, results, devices, hallocation, hdevices, hne, rfl⟩ := preparedClaimFor_eq_ok_iff.mp h
  obtain ⟨_, rfl⟩ := allocatedDevices_eq_ok_iff.mp hdevices
  have hperm : (preparedWith cfg claim ((results.filter fun r => r.driver = cfg.driverName).map
      AllocationResult.allocated)).devices.Perm
        ((driverResults cfg claim).map AllocationResult.allocated) := by
    rw [driverResults, hallocation]
    exact SortSlice.perm _ _
  refine ⟨hperm, fun hnil => hne ?_⟩
  rw [hnil] at hperm
  rw [driverResults, hallocation] at hperm
  exact hperm.nil_eq.symm

/-- The runtime finds the CDI device of an injectable claim, and a workload that gets its
environment reports the devices that the claim asked for. -/
theorem Node.Injectable.workload [SortSlice] {n : Node cfg C} {claim : ResourceClaim}
    {asked p : PreparedClaim} (h : n.Injectable claim.uid p)
    (hasked : preparedClaimFor cfg (some claim) = .ok asked) (hdevices : p.devices = asked.devices)
    (huid : p.uid = claim.uid) (hcdi : p.cdiFile = cdiFile cfg claim.uid)
    (hid : p.cdiID = claimCdiID cfg claim.uid)
    (hcomma : ∀ r ∈ driverResults cfg claim, ',' ∉ r.pool.toList ∧ ',' ∉ r.device.toList) :
    ∃ spec env, n.disk.lookup (cdiFile cfg claim.uid) = some (Json.encodeSpec spec) ∧
      (∃ device ∈ kubeletDevices p, device.cdiDeviceIDs ≠ []) ∧
      (∀ device ∈ kubeletDevices p, ∀ id ∈ device.cdiDeviceIDs, injected spec id = some env) ∧
      draWorkload env (driverResults cfg claim).length = .ok (reportLine claim.uid
        (DevicePlugin.sortStrings ((driverResults cfg claim).map AllocationResult.key))) := by
  obtain ⟨hperm, hne⟩ := asked_devices hasked
  rw [← hdevices] at hperm hne
  have hkeys : p.keys.Perm ((driverResults cfg claim).map AllocationResult.key) := by
    have hmapped := hperm.map deviceKey
    rwa [List.map_map] at hmapped
  have hlength : (driverResults cfg claim).length = p.devices.length := by
    rw [hperm.length_eq, List.length_map]
  have hcomma' : ∀ device ∈ p.devices, ',' ∉ device.pool.toList ∧ ',' ∉ device.device.toList := by
    intro device hdevice
    obtain ⟨r, hr, rfl⟩ := List.mem_map.mp (hperm.mem_iff.mp hdevice)
    exact hcomma r hr
  have hnonempty : p.uid ≠ "" := huid ▸ (preparedClaimFor_eq_ok_iff.mp hasked).1
  refine ⟨cdiSpec cfg p, claimEnv p, hcdi ▸ h.hasCDI, ?_, ?_, ?_⟩
  · obtain ⟨first, rest, hfirst⟩ := List.exists_cons_of_ne_nil hne
    obtain ⟨device, hdevice, _, hmem⟩ := exists_consumer_iff.mpr
      ⟨rfl, first, rest, hfirst, rfl⟩
    exact ⟨device, hdevice, List.ne_nil_of_mem hmem⟩
  · intro device hdevice id hmem
    rw [eq_cdiID_of_mem hdevice hmem]
    exact injected_cdiSpec (by rw [hid, huid])
  · rw [hlength, draWorkload_cdi hnonempty hne hcomma', huid, sortStrings_eq_of_perm hkeys]

/-- **A container sees the devices of its claim.**  From the moment `prepareClaim` returned, as long
as nobody unprepares the claim, and whatever else is prepared and unprepared, fails, stops and is
restarted: the CDI file defines the CDI device that the call returned, and a workload that gets its
environment reports the claim and exactly the devices allocated to it. -/
theorem Node.container_sees_claim [SortSlice] (cfg : Config) (disk : Disk String C)
    (claim : ResourceClaim) (devices : List KubeletDevice) (before : List (Event C)) (e : Event C)
    (after : List (Event C)) (hprepared : PreparedSince cfg disk claim devices before e [])
    (hdisk : RecordedApart cfg disk) (hown : RecordedOwn cfg claim.uid disk)
    (hids : RecordedIDs cfg disk) (hfile : Apart cfg (cdiFile cfg claim.uid))
    (hes : ∀ x ∈ before ++ e :: after, x.operation.Proper cfg claim.uid)
    (hnot : ∀ x ∈ after, x.operation ≠ .unprepareClaim claim.uid)
    (hcomma : ∀ r ∈ driverResults cfg claim, ',' ∉ r.pool.toList ∧ ',' ∉ r.device.toList) :
    ∃ spec env, (run cfg disk (before ++ e :: after)).disk.lookup (cdiFile cfg claim.uid) =
        some (Json.encodeSpec spec) ∧
      (∃ device ∈ devices, device.cdiDeviceIDs ≠ []) ∧
      (∀ device ∈ devices, ∀ id ∈ device.cdiDeviceIDs, injected spec id = some env) ∧
      draWorkload env (driverResults cfg claim).length = .ok (reportLine claim.uid
        (DevicePlugin.sortStrings ((driverResults cfg claim).map AllocationResult.key))) := by
  obtain ⟨asked, p, hasked, hdevices, rfl, huid, hcdi, hid, hinjectable⟩ :=
    injectable_of_prepared hprepared hdisk hown hids hfile hes hnot
  exact hinjectable.workload hasked hdevices huid hcdi hid hcomma

theorem Node.recordedIDs_empty : RecordedIDs cfg (∅ : Disk String C) := by
  intro claims hclaims u p hp
  rw [show claims = ∅ from hclaims] at hp
  simp at hp

/-- The driver was restarted since the claim was prepared. -/
theorem Node.container_sees_claim_after_restart :
    let : Json (PersistedState ⊕ CdiSpec) := sampleJson
    let : SortSlice := sampleSort
    ∃ spec env id, (run sampleConfig ∅ (sampleEvents sampleSingle ++
        [⟨.newDriver sampleOrder, [], none⟩])).disk.lookup (cdiFile sampleConfig "uid-one") =
          some (Json.encodeSpec spec) ∧ injected spec id = some env ∧
      draWorkload env 1 = .ok (reportLine "uid-one" ["worker/gpu0"]) := by
  intro json sort
  obtain ⟨devices, hsince⟩ : ∃ devices, PreparedSince sampleConfig ∅ sampleSingle devices
      sampleStart ⟨.prepareClaim (some sampleSingle), [], none⟩ [] :=
    exists_preparedSince (by decide +kernel)
  have hproper : ∀ x ∈ sampleStart ++ ⟨.prepareClaim (some sampleSingle), [], none⟩ ::
      [⟨.newDriver sampleOrder, [], none⟩], x.operation.Proper sampleConfig "uid-one" := by
    simp only [sampleStart, List.cons_append, List.nil_append, List.forall_mem_cons]
    refine ⟨proper_sample (by rintro claim ⟨⟩), proper_sample ?_,
      proper_sample (by rintro claim ⟨⟩), by simp⟩
    rintro claim ⟨⟩
    rfl
  obtain ⟨spec, env, hfile, ⟨device, hdevice, hids⟩, hinjected, hreport⟩ := container_sees_claim
    sampleConfig ∅ sampleSingle devices sampleStart _ [⟨.newDriver sampleOrder, [], none⟩] hsince
    recordedApart_empty recordedOwn_empty recordedIDs_empty
    (apart_mainConfig "worker" "/state" "/cdi" (by decide)) hproper (by simp) (by decide +kernel)
  obtain ⟨id, hid⟩ := List.exists_mem_of_ne_nil _ hids
  refine ⟨spec, env, id, hfile, hinjected device hdevice id hid, hreport.trans ?_⟩
  decide +kernel

end AcceleratorFabric.Dra
