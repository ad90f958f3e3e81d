import AcceleratorFabric.DraAtomicity
import AcceleratorFabric.DraRecovery

/-! # Repeated preparations

The kubelet may call `prepareClaim` again for a prepared claim.  The driver then compares the
devices of the call with those it recorded, position by position, both sorted by pool and device.

* `Node.prepare_idempotent`: if results for the same device are the same, the repeated call
  succeeds, returns the same devices and changes neither the maps nor the state file, whatever
  order it lists the results in and whatever happened since, short of an `unprepareClaim`.
* `Node.permuted_results_rejected`: results for one device under two requests tie in the sort, and
  listed the other way round they are taken for a changed allocation. -/

namespace AcceleratorFabric.Dra

open GoMap FaultyDisk

/-! ### Sorting -/

/-- `sort.Slice` sorts by a strict weak order. -/
class LawfulSortSlice [SortSlice] : Prop where
  sorted : ∀ {α : Type} (less : α → α → Bool) (l : List α),
    (∀ a b, less a b = true → less b a = false) →
    (∀ a b c, less a b = false → less b c = false → less a c = false) →
      (SortSlice.sort less l).Pairwise (fun a b => less b a = false)

/-- What the order of the prepared devices compares. -/
def sortKey (device : AllocatedDevice) : Lex (String × String) := toLex (device.pool, device.device)

theorem deviceLess_eq_true_iff (a b : AllocatedDevice) :
    deviceLess a b = true ↔ sortKey a < sortKey b := by
  unfold deviceLess sortKey
  rw [Prod.Lex.toLex_lt_toLex]
  split_ifs with h
  · rw [decide_eq_true_iff]
    exact ⟨.inl, fun hlt => hlt.resolve_right fun heq => h heq.1⟩
  · rw [decide_eq_true_iff]
    rw [not_not] at h
    exact ⟨fun hlt => .inr ⟨h, hlt⟩, fun hlt => (hlt.resolve_left (by simp [h])).2⟩

theorem deviceLess_eq_false_iff (a b : AllocatedDevice) :
    deviceLess a b = false ↔ sortKey b ≤ sortKey a := by
  rw [← not_lt, ← deviceLess_eq_true_iff, Bool.not_eq_true]

theorem sorted_devices [SortSlice] [LawfulSortSlice] (devices : List AllocatedDevice) :
    (SortSlice.sort deviceLess devices).Pairwise (fun a b => sortKey a ≤ sortKey b) := by
  have hsorted := LawfulSortSlice.sorted deviceLess devices
    (fun a b hab => by
      rw [deviceLess_eq_true_iff] at hab
      exact (deviceLess_eq_false_iff b a).mpr hab.le)
    (fun a b c hab hbc => by
      rw [deviceLess_eq_false_iff] at hab hbc ⊢
      exact hbc.trans hab)
  exact hsorted.imp fun {a b} h => (deviceLess_eq_false_iff b a).mp h

/-- Devices that only tie if they are equal are sorted to one list, in whatever order they come. -/
theorem sort_devices_eq [SortSlice] [LawfulSortSlice] {devices devices' : List AllocatedDevice}
    (hperm : devices'.Perm devices)
    (hties : ∀ a ∈ devices, ∀ b ∈ devices, sortKey a = sortKey b → a = b) :
    SortSlice.sort deviceLess devices' = SortSlice.sort deviceLess devices := by
  have hsort := SortSlice.perm deviceLess devices
  have hsort' := (SortSlice.perm deviceLess devices').trans hperm
  refine List.Perm.eq_of_pairwise ?_ (sorted_devices devices') (sorted_devices devices)
    (hsort'.trans hsort.symm)
  intro a b ha hb hab hba
  exact hties a (hsort'.subset ha) b (hsort.subset hb) (le_antisymm hab hba)

/-! ### Permuted results -/

/-- Results for this driver that name the same device are the same. -/
def EqualTies (cfg : Config) (results : List AllocationResult) : Prop :=
  ∀ r ∈ results, ∀ r' ∈ results, r.driver = cfg.driverName → r'.driver = cfg.driverName →
    r.device = r'.device → r.request = r'.request ∧ r.shareID.getD "" = r'.shareID.getD ""

variable {C : Type} {cfg : Config}

theorem EqualTies.devices {results : List AllocationResult} {devices : List AllocatedDevice}
    (h : EqualTies cfg results) (hdevices : allocatedDevices cfg results = .ok devices) :
    ∀ a ∈ devices, ∀ b ∈ devices, sortKey a = sortKey b → a = b := by
  obtain ⟨_, rfl⟩ := allocatedDevices_eq_ok_iff.mp hdevices
  intro a ha b hb hkey
  obtain ⟨r, hr, rfl⟩ := List.mem_map.mp ha
  obtain ⟨r', hr', rfl⟩ := List.mem_map.mp hb
  obtain ⟨hmem, hdriver⟩ := List.mem_filter.mp hr
  obtain ⟨hmem', hdriver'⟩ := List.mem_filter.mp hr'
  obtain ⟨hpool, hdevice⟩ : r.pool = r'.pool ∧ r.device = r'.device :=
    Prod.mk.inj (toLex.injective hkey)
  obtain ⟨hrequest, hshare⟩ := h r hmem r' hmem' (of_decide_eq_true hdriver)
    (of_decide_eq_true hdriver') hdevice
  unfold AllocationResult.allocated
  rw [hrequest, hpool, hdevice, hshare]

theorem allocatedDevices_perm {results results' : List AllocationResult}
    {devices : List AllocatedDevice} (hperm : results'.Perm results)
    (h : allocatedDevices cfg results = .ok devices) :
    ∃ devices', allocatedDevices cfg results' = .ok devices' ∧ devices'.Perm devices := by
  obtain ⟨hpools, rfl⟩ := allocatedDevices_eq_ok_iff.mp h
  refine ⟨_, allocatedDevices_eq_ok_iff.mpr ⟨?_, rfl⟩, (hperm.filter _).map _⟩
  exact fun r hr => hpools r (hperm.subset hr)

/-- A claim with the results in another order asks for the same devices. -/
theorem preparedClaimFor_perm [SortSlice] [LawfulSortSlice] {claim claim' : ResourceClaim}
    {results results' : List AllocationResult} {asked : PreparedClaim}
    (hasked : preparedClaimFor cfg (some claim) = .ok asked)
    (hresults : claim.allocation = some results) (hresults' : claim'.allocation = some results')
    (huid : claim'.uid = claim.uid) (hperm : results'.Perm results) (hties : EqualTies cfg results) :
    ∃ asked', preparedClaimFor cfg (some claim') = .ok asked' ∧ asked'.uid = claim.uid ∧
      asked'.devices = asked.devices := by
  obtain ⟨hne, _, devices, hallocation, hdevices, hsome, rfl⟩ := preparedClaimFor_eq_ok_iff.mp hasked
  rw [hresults] at hallocation
  cases hallocation
  obtain ⟨devices', hdevices', hsame⟩ := allocatedDevices_perm hperm hdevices
  have hsome' : devices' ≠ [] := by
    rintro rfl
    exact hsome hsame.symm.eq_nil
  refine ⟨preparedWith cfg claim' devices', preparedClaimFor_eq_ok_iff.mpr ?_, huid, ?_⟩
  · exact ⟨huid ▸ hne, results', devices', hresults', hdevices', hsome', rfl⟩
  · exact sort_devices_eq hsame (hties.devices hdevices)

/-! ### The repeated call -/

variable [Json C]

/-- Without faults, the call for a claim that is prepared with the devices it asks for succeeds and
changes nothing but its CDI file. -/
theorem Driver.Sound.prepareClaim_again [SortSlice] {d : Driver cfg} {disk : Disk String C}
    (h : d.Sound disk) {claim : Option ResourceClaim} {asked p : PreparedClaim}
    (hasked : preparedClaimFor cfg claim = .ok asked) (hp : d.prepared.lookup asked.uid = some p)
    (hdevices : p.devices = asked.devices) :
    ∃ disk', (d.prepareClaim claim).run [] disk = ((.ok (kubeletDevices p), d), disk') ∧
      disk'.lookup cfg.statePath = disk.lookup cfg.statePath := by
  have hcall : (d.prepareClaim claim : Program C _) = d.prepareAgain p := by
    unfold Driver.prepareClaim
    rw [hasked]
    simp only [hp]
    rw [if_neg (not_not.mpr hdevices)]
  obtain ⟨disk', hwrite⟩ := writeCDI_run_nil cfg p disk
  have hrun : (d.prepareAgain p).run [] disk = ((.ok (kubeletDevices p), d), disk') := by
    unfold Driver.prepareAgain
    rw [Prog.bind_eq, Prog.run_bind_nil, hwrite]
    rfl
  have hsame := Prog.post_run (d.prepareAgain_post disk (h.apart _ _ hp)) []
  rw [hrun] at hsame
  exact ⟨disk', hcall ▸ hrun, hsame.2⟩

/-- **Preparing again is idempotent**, in whatever order the results are listed, if results for the
same device are the same. -/
theorem Node.prepare_idempotent [SortSlice] [LawfulSortSlice] (cfg : Config) (disk : Disk String C)
    (before : List (Event C)) (e : Event C) (after : List (Event C)) (claim claim' : ResourceClaim)
    (results results' : List AllocationResult) (devices : List KubeletDevice) (d : Driver cfg)
    (hdisk : RecordedApart cfg disk)
    (hes : ∀ x ∈ before ++ e :: after, x.operation.Apart cfg)
    (hsince : PreparedSince cfg disk claim devices before e after)
    (hd : (run cfg disk (before ++ e :: after)).driver = some d)
    (hresults : claim.allocation = some results) (hresults' : claim'.allocation = some results')
    (huid : claim'.uid = claim.uid) (hperm : results'.Perm results) (hties : EqualTies cfg results) :
    ∃ disk', (d.prepareClaim (some claim')).run [] (run cfg disk (before ++ e :: after)).disk =
        ((.ok devices, d), disk') ∧
      disk'.lookup cfg.statePath =
        (run cfg disk (before ++ e :: after)).disk.lookup cfg.statePath := by
  obtain ⟨asked, p, hasked, hdevices, rfl, _, hkeeps⟩ := hsince.keeps hdisk hes
  obtain ⟨asked', hasked', huid', hsame⟩ :=
    preparedClaimFor_perm hasked hresults hresults' huid hperm hties
  have hsound := (invariant_run hdisk hes).sound d hd
  refine hsound.prepareClaim_again hasked' ?_ (hdevices.trans hsame.symm)
  rw [huid']
  exact hkeeps.running d hd

/-! ### Concrete runs -/

instance : @LawfulSortSlice sampleSort := by
  refine @LawfulSortSlice.mk sampleSort fun {α} less l hasymm htrans => ?_
  have htotal : Std.Total (fun a b : α => less b a = false) := by
    refine ⟨fun a b => ?_⟩
    cases hab : less b a with
    | false => exact .inl rfl
    | true => exact .inr (hasymm b a hab)
  have hrel : IsTrans α (fun a b => less b a = false) :=
    ⟨fun a b c hab hbc => htrans c b a hbc hab⟩
  exact List.pairwise_insertionSort _ l

theorem Node.prepare_idempotent_on_swapped_pair :
    let : Json (PersistedState ⊕ CdiSpec) := sampleJson
    let : SortSlice := sampleSort
    let n := run sampleConfig ∅ (sampleEvents samplePair)
    let swapped := sampleClaim "uid-one" [("accelerators", "gpu1"), ("accelerators", "gpu0")]
    ∃ d, n.driver = some d ∧ ∃ devices disk',
      (d.prepareClaim (some swapped)).run [] n.disk = ((.ok devices, d), disk') := by
  intro json sort n swapped
  have hrunning : n.driver.isSome = true := by decide +kernel
  obtain ⟨d, hd⟩ := Option.isSome_iff_exists.mp hrunning
  obtain ⟨devices, hsince⟩ : ∃ devices, PreparedSince sampleConfig ∅ samplePair devices sampleStart
      ⟨.prepareClaim (some samplePair), [], none⟩ [] := exists_preparedSince (by decide +kernel)
  have hties : EqualTies sampleConfig
      [⟨"accelerators", driverName, "worker", "gpu0", none⟩,
        ⟨"accelerators", driverName, "worker", "gpu1", none⟩] := by
    unfold EqualTies
    decide
  obtain ⟨disk', hrun, _⟩ := prepare_idempotent sampleConfig ∅ sampleStart _ [] samplePair swapped
    _ _ devices d recordedApart_empty (apart_sampleEvents (by decide)) hsince hd rfl rfl rfl
    (List.Perm.swap _ _ _) hties
  exact ⟨d, hd, devices, disk', hrun⟩

/-- One device under two requests, listed the other way round: the stable sort keeps the order, and
the driver reports a changed allocation. -/
theorem Node.permuted_results_rejected :
    ¬ ∀ (C : Type) (_ : Json C) (_ : SortSlice) (_ : LawfulSortSlice) (cfg : Config)
      (disk : Disk String C) (before : List (Event C)) (e : Event C) (after : List (Event C))
      (claim claim' : ResourceClaim) (results results' : List AllocationResult)
      (devices : List KubeletDevice) (d : Driver cfg), RecordedApart cfg disk →
        (∀ x ∈ before ++ e :: after, x.operation.Apart cfg) →
        PreparedSince cfg disk claim devices before e after →
        (run cfg disk (before ++ e :: after)).driver = some d →
        claim.allocation = some results → claim'.allocation = some results' →
        claim'.uid = claim.uid → results'.Perm results →
          ∃ returned, ((d.prepareClaim (some claim')).run []
            (run cfg disk (before ++ e :: after)).disk).1.1 = .ok returned := by
  intro h
  let : Json (PersistedState ⊕ CdiSpec) := sampleJson
  let : SortSlice := sampleSort
  let claim := sampleClaim "uid-one" [("first", "gpu0"), ("second", "gpu0")]
  let claim' := sampleClaim "uid-one" [("second", "gpu0"), ("first", "gpu0")]
  let n := run sampleConfig ∅ (sampleEvents claim)
  have hrunning : n.driver.isSome = true := by decide +kernel
  have hrejected : (n.driver.bind fun d =>
      ((d.prepareClaim (some claim')).run [] n.disk).1.1.toOption) = none := by decide +kernel
  obtain ⟨d, hd⟩ := Option.isSome_iff_exists.mp hrunning
  obtain ⟨devices, hsince⟩ : ∃ devices, PreparedSince sampleConfig ∅ claim devices sampleStart
      ⟨.prepareClaim (some claim), [], none⟩ [] := exists_preparedSince (by decide +kernel)
  obtain ⟨returned, hok⟩ := h _ sampleJson sampleSort inferInstance sampleConfig ∅ sampleStart _ []
    claim claim' _ _ devices d recordedApart_empty (apart_sampleEvents (by decide)) hsince hd rfl rfl
    rfl (List.Perm.swap _ _ _)
  have hresult : ((d.prepareClaim (some claim')).run [] n.disk).1.1 = .ok returned := hok
  rw [hd, Option.bind_some, hresult] at hrejected
  cases hrejected

end AcceleratorFabric.Dra
