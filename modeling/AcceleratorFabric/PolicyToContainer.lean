import AcceleratorFabric.DraBatches
import AcceleratorFabric.DraContainers
import AcceleratorFabric.LocalityTranslation

/-! # From a policy to the container

What a pod of a DRA policy gets in the end passes through four parts of the repository: the policy
controller makes a template of the policy, the publisher offers the devices of the topology, the
cluster allocates some of them to the claim, and the driver of the node prepares the claim.  The
allocation itself is not part of the repository; `Allocates` says what it promises.

* `Driver.prepareClaim_of_free`: the driver accepts every such claim whose devices are free.
* `policy_reaches_container`: the container sees as many devices as the policy asks for, each of
  them passes the policy, and all have its locality. -/

namespace AcceleratorFabric.Dra

open GoMap FaultyDisk AcceleratorFabric.Topology AcceleratorFabric.TopologyFit
open AcceleratorFabric.PolicyController

/-! ### Allocations -/

/-- The results of this driver in the claim's allocation are devices of the topology that
satisfy the template. -/
structure Allocates [Kube] [FloatConversion] (cfg : Config) (object : AcceleratorTopology)
    (template : ResourceClaimTemplate) (set : List Device) (claim : ResourceClaim) : Prop where
  node_eq : cfg.nodeName = object.spec.nodeName
  uid_ne : claim.uid ≠ ""
  allocatable : Allocatable object template set
  allocated : claim.allocation ≠ none
  results : ((driverResults cfg claim).map fun r => (r.pool, r.device)).Perm
    (set.map fun d => (object.spec.nodeName, d.name))

section allocation

variable [Kube] [FloatConversion] {cfg : Config} {object : AcceleratorTopology}
  {policy : AcceleratorPlacementPolicy} {template : ResourceClaimTemplate} {set : List Device}
  {claim : ResourceClaim}

/-- The keys under which the driver knows the devices. -/
def offeredKeys (object : AcceleratorTopology) (set : List Device) : List String :=
  set.map fun d => object.spec.nodeName ++ "/" ++ d.name

theorem Allocates.keys_perm (h : Allocates cfg object template set claim) :
    ((driverResults cfg claim).map AllocationResult.key).Perm (offeredKeys object set) := by
  have hkeys := h.results.map fun p : String × String => p.1 ++ "/" ++ p.2
  rwa [List.map_map, List.map_map] at hkeys

theorem Allocates.length_eq (h : Allocates cfg object template set claim) :
    (driverResults cfg claim).length = set.length := by
  have hlength := h.results.length_eq
  rwa [List.length_map, List.length_map] at hlength

theorem Allocates.of_result (h : Allocates cfg object template set claim) {r : AllocationResult}
    (hr : r ∈ driverResults cfg claim) :
    r.pool = object.spec.nodeName ∧ ∃ d ∈ set, d.name = r.device := by
  have hmem : (r.pool, r.device) ∈ set.map fun d => (object.spec.nodeName, d.name) :=
    h.results.mem_iff.mp (List.mem_map.mpr ⟨r, hr, rfl⟩)
  obtain ⟨d, hd, heq⟩ := List.mem_map.mp hmem
  obtain ⟨hpool, hname⟩ := Prod.mk.inj heq
  exact ⟨hpool.symm, d, hd, hname⟩

theorem set_ne_nil (htemplate : resourceClaimTemplateForPolicy (some policy) = .ok template)
    (hset : Allocatable object template set) : set ≠ [] := by
  obtain ⟨_, _, hcount, hpos⟩ := count_of_template htemplate
  have hlength := hset.count
  rintro rfl
  rw [List.length_nil] at hlength
  omega

/-- The part of `prepareClaim` before the lock accepts the claim. -/
theorem Allocates.exists_asked [SortSlice] (h : Allocates cfg object template set claim)
    (hne : set ≠ []) : ∃ asked, preparedClaimFor cfg (some claim) = .ok asked := by
  obtain ⟨results, hresults⟩ := Option.ne_none_iff_exists'.mp h.allocated
  have hdriver : driverResults cfg claim = results.filter fun r => r.driver = cfg.driverName := by
    rw [driverResults, hresults, Option.getD_some]
  have hpools : ∀ r ∈ results, r.driver = cfg.driverName → r.pool = cfg.nodeName := by
    intro r hr hname
    have hmem : r ∈ driverResults cfg claim := by
      rw [hdriver]
      exact List.mem_filter.mpr ⟨hr, decide_eq_true hname⟩
    rw [h.node_eq]
    exact (h.of_result hmem).1
  refine ⟨_, preparedClaimFor_eq_ok_iff.mpr ⟨h.uid_ne, results, _, hresults,
    allocatedDevices_eq_ok_iff.mpr ⟨hpools, rfl⟩, ?_, rfl⟩⟩
  rw [← hdriver]
  intro hnil
  have hlength := h.length_eq
  rw [List.map_eq_nil_iff.mp hnil, List.length_nil] at hlength
  exact hne (List.length_eq_zero_iff.mp hlength.symm)

end allocation

/-! ### The driver accepts the claim -/

section prepare

variable {C : Type} {cfg : Config} [Json C] [SortSlice]

/-- Without faults, a claim is prepared if the driver has no record of it and no other claim has
one of its devices. -/
theorem Driver.prepareClaim_of_free (d : Driver cfg) {claim : ResourceClaim} {asked : PreparedClaim}
    (hasked : preparedClaimFor cfg (some claim) = .ok asked)
    (hnew : d.prepared.lookup claim.uid = none)
    (hfree : ∀ key ∈ (driverResults cfg claim).map AllocationResult.key,
      d.owners.lookup key = none) (disk : Disk String C) :
    ((d.prepareClaim (some claim)).run [] disk).1.1 = .ok (kubeletDevices asked) := by
  have hconflict : d.conflict asked.uid asked.keys = none := by
    refine (conflict_eq_none_iff d asked.uid asked.keys).mpr fun key hkey => .inl ?_
    rw [hfree key ((mem_claimKeys hasked).mp hkey)]
    rfl
  rw [← uid_of_preparedClaimFor hasked] at hnew
  rw [prepareClaim_run_nil, verdict, hasked]
  simp only [hnew, hconflict]

end prepare

/-! ### Locality -/

section locality

variable [Kube] [FloatConversion] {object : AcceleratorTopology}
  {policy : AcceleratorPlacementPolicy} {template : ResourceClaimTemplate} {set : List Device}

theorem passes_of_allocatable {dra : DRAParameters} (ha : Accepted object.spec)
    (hpolicy : validatePolicy policy.spec = none) (hdra : policy.spec.dra = some dra)
    (htemplate : resourceClaimTemplateForPolicy (some policy) = .ok template)
    (hset : Allocatable object template set) : ∀ d ∈ sources object set, Passes policy.spec d := by
  obtain ⟨_, hknown, hvendor⟩ := valid_of_validatePolicy hpolicy hdra
  obtain ⟨_, selectors, _, _, hselectors, _⟩ := template_cases htemplate
  have hselected := (forall_mem_iff_sources ha hset.published
    fun a => evalSelectors a template.selectors = some true).mp hset.selected
  intro d hd
  have htrue := (evalSelectors_eq_true_iff _ _).mp (hselected d hd)
  rw [hselectors] at htrue
  refine (selects_iff_passes (ha.device_ok d (List.mem_filter.mp hd).1) hvendor hknown).mp ?_
  exact (eval_deviceSelectors object.spec policy.spec d).2.mp
    fun s hs => htrue s (List.mem_append_left _ hs)

theorem sameLocality_of_allocatable (ha : Accepted object.spec)
    (hmode : IsLocality policy.spec.topologyMode)
    (htemplate : resourceClaimTemplateForPolicy (some policy) = .ok template)
    (hset : Allocatable object template set) :
    SameLocality policy.spec.topologyMode (sources object set) := by
  obtain ⟨hnuma, hroot⟩ :=
    satisfied_iff_sameLocality ha hset.published (set_ne_nil htemplate hset)
  obtain ⟨_, _, _, hselection, _, hconstraints⟩ := template_cases htemplate
  have hmatched := hset.matched
  rw [hconstraints] at hmatched
  unfold modeSelection at hselection
  rcases hmode with h | h | h
  · rw [h] at hselection ⊢
    cases hselection
    exact hnuma.mp (hmatched _ (List.mem_singleton_self _))
  · rw [h] at hselection ⊢
    cases hselection
    exact hroot.mp (hmatched _ (List.mem_singleton_self _))
  · rw [h]
    trivial

end locality

/-! ### The whole way -/

/-- **What the policy asks for arrives in the container.**  Let a valid policy of a locality mode be
translated to a template, and let a claim of it get devices of a valid topology whose template is
satisfied.  In every state of the node in which the driver runs, has not recorded the claim and
finds its devices free, `prepareClaim` succeeds if no file operation fails.  From then on, as long
as the claim is not unprepared and whatever else happens to the node, the runtime finds its CDI
device, and the workload in the container starts: it sees as many devices as the policy asks for,
all of them pass the policy, and they have its locality. -/
theorem policy_reaches_container {C : Type} [Json C] [SortSlice] [Kube] [FloatConversion]
    (cfg : Config) (disk : Disk String C) (before after : List (Event C)) (d : Driver cfg)
    (object : AcceleratorTopology) (policy : AcceleratorPlacementPolicy) (dra : DRAParameters)
    (template : ResourceClaimTemplate) (set : List Device) (claim : ResourceClaim)
    (hobject : Accepted object.spec) (hpolicy : validatePolicy policy.spec = none)
    (hdra : policy.spec.dra = some dra) (hmode : IsLocality policy.spec.topologyMode)
    (htemplate : resourceClaimTemplateForPolicy (some policy) = .ok template)
    (hallocates : Allocates cfg object template set claim)
    (hcomma : ',' ∉ object.spec.nodeName.toList ∧ ∀ a ∈ set, ',' ∉ a.name.toList)
    (hdisk : RecordedApart cfg disk) (hown : RecordedOwn cfg claim.uid disk)
    (hids : Node.RecordedIDs cfg disk) (hfile : Apart cfg (cdiFile cfg claim.uid))
    (hes : ∀ x ∈ before ++ ⟨.prepareClaim (some claim), [], none⟩ :: after,
      x.operation.Proper cfg claim.uid)
    (hd : (Node.run cfg disk before).driver = some d)
    (hnew : d.prepared.lookup claim.uid = none)
    (hfree : ∀ key ∈ offeredKeys object set, d.owners.lookup key = none)
    (hnot : ∀ x ∈ after, x.operation ≠ .unprepareClaim claim.uid) :
    (∃ devices spec env, ((d.prepareClaim (some claim)).run [] (Node.run cfg disk before).disk).1.1 =
        .ok devices ∧
      (Node.run cfg disk (before ++ ⟨.prepareClaim (some claim), [], none⟩ :: after)).disk.lookup
        (cdiFile cfg claim.uid) = some (Json.encodeSpec spec) ∧
      (∃ device ∈ devices, device.cdiDeviceIDs ≠ []) ∧
      (∀ device ∈ devices, ∀ id ∈ device.cdiDeviceIDs, injected spec id = some env) ∧
      draWorkload env dra.deviceCount = .ok (reportLine claim.uid
        (DevicePlugin.sortStrings (offeredKeys object set)))) ∧
    (∀ device ∈ sources object set, Passes policy.spec device) ∧
    SameLocality policy.spec.topologyMode (sources object set) := by
  have hset := hallocates.allocatable
  refine ⟨?_, passes_of_allocatable hobject hpolicy hdra htemplate hset,
    sameLocality_of_allocatable hobject hmode htemplate hset⟩
  obtain ⟨asked, hasked⟩ := hallocates.exists_asked (set_ne_nil htemplate hset)
  have hok := d.prepareClaim_of_free hasked hnew
    (fun key hkey => hfree key (hallocates.keys_perm.mem_iff.mp hkey)) (Node.run cfg disk before).disk
  have hsince : Node.PreparedSince cfg disk claim (kubeletDevices asked) before
      ⟨.prepareClaim (some claim), [], none⟩ [] := ⟨rfl, rfl, ⟨d, hd, hok⟩, trivial⟩
  obtain ⟨asked', p, hasked', hdevices, hreturned, huid, hcdi, hid, hinjectable⟩ :=
    Node.injectable_of_prepared hsince hdisk hown hids hfile hes hnot
  obtain ⟨spec, env, hspec, hsome, hinjected, hreport⟩ :=
    hinjectable.workload hasked' hdevices huid hcdi hid fun r hr => by
      obtain ⟨hpool, a, haset, hname⟩ := hallocates.of_result hr
      rw [hpool, ← hname]
      exact ⟨hcomma.1, hcomma.2 a haset⟩
  have hcount : ((driverResults cfg claim).length : ℤ) = dra.deviceCount := by
    obtain ⟨_, hdra', hcount, _⟩ := count_of_template htemplate
    cases hdra.symm.trans hdra'
    rw [hallocates.length_eq, hset.count, hcount]
  rw [hcount, sortStrings_eq_of_perm hallocates.keys_perm] at hreport
  rw [← hreturned] at hsome hinjected
  exact ⟨_, spec, env, hok, hspec, hsome, hinjected, hreport⟩

/-- A node with two devices of one NUMA node. -/
def numaPair : AcceleratorTopology :=
  sampleTopology 1 (sampleSpec [{ sampleDevice "gpu0" with numaNode := some 0 },
    { sampleDevice "gpu1" with numaNode := some 0 }] [])

theorem proper_samplePair {op : Operation}
    (h : ∀ claim, op = .prepareClaim (some claim) → claim = samplePair) :
    op.Proper sampleConfig "uid-one" := by
  refine Operation.proper_mainConfig "worker" "/state" "/cdi" (by decide) fun claim hclaim => ?_
  rw [h claim hclaim]
  decide

/-- Both devices go to one claim, and the driver is restarted afterwards. -/
theorem policy_reaches_container_numa_pair :
    let : Json (PersistedState ⊕ CdiSpec) := sampleJson
    let : SortSlice := sampleSort
    let : Kube := sampleKube
    let : FloatConversion := amd64
    let es := sampleStart ++ ⟨.prepareClaim (some samplePair), [], none⟩ ::
      [⟨.newDriver sampleOrder, [], none⟩]
    ∃ spec env id, (Node.run sampleConfig ∅ es).disk.lookup (cdiFile sampleConfig "uid-one") =
        some (Json.encodeSpec spec) ∧ injected spec id = some env ∧
      draWorkload env 2 = .ok (reportLine "uid-one" ["worker/gpu0", "worker/gpu1"]) := by
  intro json sort kube conversion es
  obtain ⟨template, htemplate⟩ : ∃ template, resourceClaimTemplateForPolicy
      (some (samplePolicyObject .singleNUMA 2)) = .ok template := ⟨_, rfl⟩
  obtain ⟨snapshot, hbuild⟩ : ∃ snapshot, build numaPair.spec = .ok snapshot := ⟨_, rfl⟩
  have haccepted := ((build_eq_ok_iff _ _).mp hbuild).1
  have hset : Allocatable numaPair template (published numaPair) := by
    obtain rfl : _ = template := Except.ok.inj htemplate
    refine ⟨fun _ h => h, by decide +kernel, by decide +kernel, by decide +kernel, ?_⟩
    rintro c hc
    rw [List.mem_singleton.mp hc]
    exact ⟨rfl, .int 0, by decide +kernel⟩
  have hallocates : Allocates sampleConfig numaPair template (published numaPair) samplePair :=
    ⟨rfl, by decide, hset, by decide, by decide +kernel⟩
  have hproper : ∀ x ∈ es, x.operation.Proper sampleConfig "uid-one" := by
    simp only [es, sampleStart, List.cons_append, List.nil_append, List.forall_mem_cons]
    refine ⟨proper_samplePair (by rintro claim ⟨⟩), proper_samplePair ?_,
      proper_samplePair (by rintro claim ⟨⟩), by simp⟩
    rintro claim ⟨⟩
    rfl
  obtain ⟨d, hd, rfl⟩ : ∃ d, (Node.run sampleConfig ∅ sampleStart).driver = some d ∧
      d = ⟨∅, ∅⟩ := ⟨_, by decide +kernel, rfl⟩
  obtain ⟨⟨devices, spec, env, _, hfile, ⟨device, hdevice, hids⟩, hinjected, hreport⟩, _⟩ :=
    policy_reaches_container sampleConfig ∅ sampleStart [⟨.newDriver sampleOrder, [], none⟩] _
      numaPair (samplePolicyObject .singleNUMA 2) ⟨2⟩ template (published numaPair) samplePair
      haccepted (by decide +kernel) rfl (.inl rfl) htemplate hallocates
      ⟨by decide, by decide +kernel⟩ recordedApart_empty recordedOwn_empty Node.recordedIDs_empty
      (apart_mainConfig "worker" "/state" "/cdi" (by decide)) hproper hd rfl (fun _ _ => rfl)
      (by simp)
  obtain ⟨id, hid⟩ := List.exists_mem_of_ne_nil _ hids
  refine ⟨spec, env, id, hfile, hinjected device hdevice id hid, hreport.trans ?_⟩
  decide +kernel

end AcceleratorFabric.Dra
