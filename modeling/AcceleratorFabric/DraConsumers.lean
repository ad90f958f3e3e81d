import AcceleratorFabric.DraOwnership

/-! # Consumers of a prepared claim

A container that references one request of a claim gets the CDI devices of that request's devices
only.  `kubeletDevices` attaches the CDI device of the claim to the first device of a list that is
sorted by pool and name, so the containers of one request get it.

`Driver.consumers_served_iff`: when every request of the claim has a device with the CDI device. -/

namespace AcceleratorFabric.Dra

open GoMap FaultyDisk

variable {cfg : Config}

/-! ### What the driver returns -/

/-- The name of the CDI device of a claim, as `writeCDI` defines it. -/
def claimCdiID (cfg : Config) (uid : String) : String := cfg.driverName ++ "/device=claim-" ++ uid

/-- The allocation results of the claim for this driver. -/
def driverResults (cfg : Config) (claim : ResourceClaim) : List AllocationResult :=
  (claim.allocation.getD []).filter fun r => r.driver = cfg.driverName

/-- Every request that has a result of this driver has a device with the claim's CDI device. -/
def ConsumersServed (cfg : Config) (claim : ResourceClaim) (devices : List KubeletDevice) : Prop :=
  ∀ r ∈ driverResults cfg claim, ∃ device ∈ devices,
    r.request ∈ device.requests ∧ claimCdiID cfg claim.uid ∈ device.cdiDeviceIDs

/-- All results of this driver are for one request. -/
def OneRequest (cfg : Config) (claim : ResourceClaim) : Prop :=
  ∀ r ∈ driverResults cfg claim, ∀ s ∈ driverResults cfg claim, r.request = s.request

/-- A record of the claim has its own CDI device; those that `load` read need not. -/
def Driver.RecordsOwnID (d : Driver cfg) (uid : String) : Prop :=
  ∀ p, d.prepared.lookup uid = some p → p.cdiID = claimCdiID cfg uid

/-- The devices of a request carry a CDI device only if the first device is one of them. -/
theorem exists_consumer_iff {p : PreparedClaim} {request id : String} :
    (∃ device ∈ kubeletDevices p, request ∈ device.requests ∧ id ∈ device.cdiDeviceIDs) ↔
      id = p.cdiID ∧ ∃ first rest, p.devices = first :: rest ∧ request = first.request := by
  unfold kubeletDevices
  cases hdevices : p.devices with
  | nil => simp
  | cons first rest =>
      rw [List.mapIdx_cons, List.exists_mem_cons_iff]
      constructor
      · rintro (⟨hrequest, hid⟩ | ⟨device, hdevice, _, hid⟩)
        · exact ⟨by simpa using hid, first, rest, rfl, by simpa using hrequest⟩
        · obtain ⟨index, _, rfl⟩ := List.mem_mapIdx.mp hdevice
          simp at hid
      · rintro ⟨rfl, _, _, hfirst, rfl⟩
        obtain ⟨rfl, rfl⟩ := List.cons.inj hfirst
        exact .inl (by simp)

section calls

variable {C : Type} [Json C] [SortSlice]

theorem Driver.prepareClaim_returns (d : Driver cfg) (claim : Option ResourceClaim)
    (disk : Disk String C) :
    (d.prepareClaim claim).Post (fun result _ => ∀ devices, result.1 = .ok devices →
      ∃ asked p, preparedClaimFor cfg claim = .ok asked ∧ devices = kubeletDevices p ∧
        p.devices = asked.devices ∧ (d.prepared.lookup asked.uid).getD asked = p) disk := by
  rcases d.prepareClaim_cases (C := C) claim with ⟨e, hcall⟩ |
    ⟨asked, existing, hasked, hlook, hdevices, hcall⟩ | ⟨p, hp, hnew, _, hcall⟩
  · rw [hcall]
    rintro devices ⟨⟩
  · rw [hcall]
    refine Prog.post_bind (Prog.post_mono ?_ (Prog.post_true _ disk))
    intro result disk' _
    cases result with
    | error e => rintro devices ⟨⟩
    | ok _ =>
        rintro devices ⟨⟩
        exact ⟨asked, existing, hasked, rfl, hdevices, by rw [hlook, Option.getD_some]⟩
  · rw [hcall]
    refine Prog.post_bind (Prog.post_mono ?_ (Prog.post_true _ disk))
    intro result disk' _
    cases result with
    | error e => rintro devices ⟨⟩
    | ok _ =>
        refine Prog.post_bind (Prog.post_mono ?_ (Prog.post_true _ disk'))
        intro result disk'' _
        cases result with
        | error e =>
            refine Prog.post_bind (Prog.post_mono ?_ (Prog.post_true _ disk''))
            rintro _ _ _ devices ⟨⟩
        | ok _ =>
            rintro devices ⟨⟩
            exact ⟨p, p, hp, rfl, rfl, by rw [hnew, Option.getD_none]⟩

omit [Json C] in
theorem mem_requests_iff {claim : ResourceClaim} {asked : PreparedClaim}
    (h : preparedClaimFor cfg (some claim) = .ok asked) {request : String} :
    (∃ device ∈ asked.devices, device.request = request) ↔
      ∃ r ∈ driverResults cfg claim, r.request = request := by
  obtain ⟨_, results, devices, hallocation, hdevices, _, rfl⟩ := preparedClaimFor_eq_ok_iff.mp h
  obtain ⟨_, rfl⟩ := allocatedDevices_eq_ok_iff.mp hdevices
  have hmem : ∀ device, device ∈ (preparedWith cfg claim ((results.filter fun r =>
      r.driver = cfg.driverName).map AllocationResult.allocated)).devices ↔
        ∃ r ∈ driverResults cfg claim, r.allocated = device := by
    intro device
    rw [preparedWith, (SortSlice.perm _ _).mem_iff, List.mem_map, driverResults, hallocation]
    rfl
  constructor
  · rintro ⟨device, hdevice, rfl⟩
    obtain ⟨r, hr, rfl⟩ := (hmem device).mp hdevice
    exact ⟨r, hr, rfl⟩
  · rintro ⟨r, hr, rfl⟩
    exact ⟨r.allocated, (hmem _).mpr ⟨r, hr, rfl⟩, rfl⟩

omit [Json C] in
theorem devices_ne_nil {claim : ResourceClaim} {asked : PreparedClaim}
    (h : preparedClaimFor cfg (some claim) = .ok asked) : asked.devices ≠ [] := by
  obtain ⟨_, _, devices, _, _, hne, rfl⟩ := preparedClaimFor_eq_ok_iff.mp h
  intro hnil
  have hperm := SortSlice.perm deviceLess devices
  rw [show SortSlice.sort deviceLess devices = [] from hnil] at hperm
  exact hne hperm.nil_eq.symm

omit [Json C] in
theorem Driver.cdiID_eq_iff {d : Driver cfg} {claim : ResourceClaim} {asked p : PreparedClaim}
    (hasked : preparedClaimFor cfg (some claim) = .ok asked)
    (hp : (d.prepared.lookup asked.uid).getD asked = p) :
    p.cdiID = claimCdiID cfg claim.uid ↔ d.RecordsOwnID claim.uid := by
  obtain ⟨_, _, _, _, _, _, rfl⟩ := preparedClaimFor_eq_ok_iff.mp hasked
  change (d.prepared.lookup claim.uid).getD _ = p at hp
  unfold RecordsOwnID
  cases hentry : d.prepared.lookup claim.uid with
  | none =>
      rw [hentry, Option.getD_none] at hp
      rw [← hp]
      exact iff_of_true rfl (by simp)
  | some q =>
      rw [hentry, Option.getD_some] at hp
      rw [hp]
      simp

/-- **Every consumer of a prepared claim gets its CDI device** if and only if the claim has one
request for this driver and is not recorded with another CDI device. -/
theorem Driver.consumers_served_iff (d : Driver cfg) (claim : ResourceClaim)
    (faults : List (Option (Fault C String))) (disk : Disk String C) {devices : List KubeletDevice}
    (h : ((d.prepareClaim (some claim)).run faults disk).1.1 = .ok devices) :
    ConsumersServed cfg claim devices ↔ OneRequest cfg claim ∧ d.RecordsOwnID claim.uid := by
  obtain ⟨asked, p, hasked, rfl, hdevices, hentry⟩ :=
    Prog.post_run (d.prepareClaim_returns (some claim) disk) faults devices h
  obtain ⟨first, rest, hfirst⟩ := List.exists_cons_of_ne_nil (devices_ne_nil hasked)
  -- the request that the first device is for
  obtain ⟨r₀, hr₀, hrequest⟩ := (mem_requests_iff hasked).mp
    ⟨first, by rw [hfirst]; exact List.mem_cons_self, rfl⟩
  have hserved : ConsumersServed cfg claim (kubeletDevices p) ↔
      ∀ r ∈ driverResults cfg claim, claimCdiID cfg claim.uid = p.cdiID ∧
        r.request = first.request := by
    unfold ConsumersServed
    refine forall₂_congr fun r _ => ?_
    rw [exists_consumer_iff, hdevices, hfirst]
    simp
  rw [hserved, ← cdiID_eq_iff hasked hentry]
  constructor
  · intro hall
    refine ⟨fun r hr s hs => ?_, (hall r₀ hr₀).1.symm⟩
    rw [(hall r hr).2, (hall s hs).2]
  · rintro ⟨hone, hid⟩ r hr
    exact ⟨hid.symm, (hone r hr r₀ hr₀).trans hrequest⟩

end calls

/-- A driver without prepared claims. -/
def freshDriver : Driver sampleConfig := ⟨∅, ∅⟩

/-- What the kubelet gets for two devices, the second one for the given request. -/
def twoDevices (request : String) : List KubeletDevice :=
  [⟨["accelerators"], "worker", "gpu0", ["accelerator.scheduling.bupt.dev/device=claim-uid-one"],
      none⟩,
    ⟨[request], "worker", "gpu1", [], none⟩]

theorem Driver.consumers_served_of_one_request :
    let : Json (PersistedState ⊕ CdiSpec) := sampleJson
    let : SortSlice := sampleSort
    let claim := sampleClaim "uid-one" [("accelerators", "gpu0"), ("accelerators", "gpu1")]
    ((freshDriver.prepareClaim (some claim)).run []
        (∅ : Disk String (PersistedState ⊕ CdiSpec))).1.1 = .ok (twoDevices "accelerators") ∧
      ConsumersServed sampleConfig claim (twoDevices "accelerators") := by
  intro json sort claim
  have hok : ((freshDriver.prepareClaim (some claim)).run []
      (∅ : Disk String (PersistedState ⊕ CdiSpec))).1.1 = .ok (twoDevices "accelerators") := by
    decide +kernel
  refine ⟨hok, (freshDriver.consumers_served_iff claim [] ∅ hok).mpr ⟨?_, ?_⟩⟩
  · unfold OneRequest
    decide +kernel
  · intro p hp
    simp [freshDriver] at hp

/-- The claim has a device for each of two requests, and the containers of the second one get no
CDI device. -/
theorem Driver.second_request_not_served :
    ¬ ∀ (C : Type) (_ : Json C) (_ : SortSlice) (cfg : Config) (d : Driver cfg)
      (claim : ResourceClaim) (faults : List (Option (Fault C String))) (disk : Disk String C)
      (devices : List KubeletDevice),
        ((d.prepareClaim (some claim)).run faults disk).1.1 = .ok devices →
          ConsumersServed cfg claim devices := by
  intro h
  let : Json (PersistedState ⊕ CdiSpec) := sampleJson
  let : SortSlice := sampleSort
  let claim := sampleClaim "uid-one" [("accelerators", "gpu0"), ("storage", "gpu1")]
  have hok : ((freshDriver.prepareClaim (some claim)).run []
      (∅ : Disk String (PersistedState ⊕ CdiSpec))).1.1 = .ok (twoDevices "storage") := by
    decide +kernel
  have hnot : ¬ ConsumersServed sampleConfig claim (twoDevices "storage") := by
    unfold ConsumersServed
    decide +kernel
  exact hnot (h _ _ _ _ freshDriver claim [] ∅ _ hok)

end AcceleratorFabric.Dra
