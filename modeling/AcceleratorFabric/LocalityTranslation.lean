import AcceleratorFabric.ClaimTemplate

/-! # Locality modes in resource claim templates

The scheduler and the policy controller read the same policy with different defaults: the
controller leaves a selector out where the scheduler's test always passes, and an unknown NUMA
node or PCIe root is an attribute that is not published.  `locality_translation_exact`: for the
modes single-NUMA, same-PCIe-root and best-effort the two agree on every set of devices. -/

namespace AcceleratorFabric.PolicyController

open GoMap AcceleratorFabric.Topology AcceleratorFabric.TopologyFit AcceleratorFabric.Dra

/-! ### The two readings of a policy -/

/-- What `eligibleDevices` reads for a policy and a resource name. -/
def probe (policy : AcceleratorPlacementPolicySpec) (resourceName : String) : CycleData where
  active := false
  podKey := ""
  policy := policy
  resourceName := resourceName
  requested := 0
  scores := ∅
  keyed := by simp

/-- The device passes the tests of `eligibleDevices`, the resource name aside. -/
def Passes (policy : AcceleratorPlacementPolicySpec) (d : AcceleratorDevice) : Prop :=
  eligible (probe policy d.resourceName) d = true

/-- All devices have the same known NUMA node, or the same known PCIe root. -/
def SameLocality : TopologyMode → List AcceleratorDevice → Prop
  | .singleNUMA, ds => ∃ numa, ∀ d ∈ ds, d.numaNode = some numa
  | .samePCIeRoot, ds => ∃ root, root ≠ "" ∧ ∀ d ∈ ds, d.pcieRoot = root
  | .bestEffort, _ => True
  | _, _ => False

/-- The modes that are about the place of the devices, not about their links. -/
def IsLocality (mode : TopologyMode) : Prop :=
  mode = .singleNUMA ∨ mode = .samePCIeRoot ∨ mode = .bestEffort

/-- The set satisfies the selectors and the constraints of the template. -/
def Admits (template : ResourceClaimTemplate) (set : List Device) : Prop :=
  (∀ a ∈ set, evalSelectors a template.selectors = some true) ∧
    ∀ c ∈ template.constraints, c.Satisfied set

/-- The devices of the spec that the set was published from. -/
def sources (object : AcceleratorTopology) (set : List Device) : List AcceleratorDevice :=
  object.spec.devices.filter (fun d => d.id ∈ set.map (·.name))

/-! ### Checked values -/

theorem vendor_text_inj {a b : AcceleratorVendor} (ha : validVendor a = true)
    (hb : supportedVendor b = true) (hunset : b ≠ .unset) (hany : b ≠ .any) :
    a.text = b.text ↔ a = b := by
  cases a <;> cases b <;> simp_all [validVendor, supportedVendor, AcceleratorVendor.text]

theorem health_text_eq {h : Health} (hv : validHealth h = true) :
    h.text = "Healthy" ↔ h = .healthy := by
  cases h <;> simp_all [validHealth, Health.text]

theorem valid_of_validateDevice [Kube] {d : AcceleratorDevice} (h : validateDevice d = none) :
    validVendor d.vendor = true ∧ 0 ≤ d.memoryMiB ∧ validHealth d.health = true := by
  unfold validateDevice at h
  split_ifs at h with h1 h2 h3 h4 h5 h6 h7
  refine ⟨by simpa using h3, not_lt.mp h6, by simpa using h7⟩

theorem valid_of_validatePolicy {spec : AcceleratorPlacementPolicySpec}
    (h : validatePolicy spec = none) {dra : DRAParameters} (hdra : spec.dra = some dra) :
    1 ≤ dra.deviceCount ∧ spec.allowUnknownTopology = false ∧
      supportedVendor spec.vendor = true := by
  unfold validatePolicy at h
  cases hd : validateDRA spec with
  | some e => rw [hd] at h; cases h
  | none =>
      rw [hd] at h
      simp only at h
      split_ifs at h with hvendor
      unfold validateDRA at hd
      rw [hdra] at hd
      simp only at hd
      split_ifs at hd with hcount hmode
      rw [not_or] at hmode
      exact ⟨by omega, by simpa using hmode.2, by simpa using hvendor⟩

/-- The selectors for health, vendor, product and memory ask what the scheduler asks. -/
theorem selects_iff_passes [Kube] {spec : AcceleratorPlacementPolicySpec} {d : AcceleratorDevice}
    (hd : validateDevice d = none) (hvendor : supportedVendor spec.vendor = true)
    (hknown : spec.allowUnknownTopology = false) : Selects spec d ↔ Passes spec d := by
  obtain ⟨hv, hmemory, hhealth⟩ := valid_of_validateDevice hd
  unfold Passes
  rw [eligible_iff]
  constructor
  · rintro ⟨h1, h2, h3, h4⟩
    refine ⟨rfl, ?_, ?_, ?_, .inl ((health_text_eq hhealth).mp h1)⟩
    · by_cases hunset : spec.vendor = .unset
      · exact .inl hunset
      · by_cases hany : spec.vendor = .any
        · exact .inr (.inl hany)
        · exact .inr (.inr ((vendor_text_inj hv hvendor hunset hany).mp (h2 ⟨hunset, hany⟩)))
    · rcases List.eq_nil_or_concat spec.products with hnil | ⟨_, _, hne⟩
      · exact .inl hnil
      · exact .inr (h3 (by rw [hne]; simp))
    · -- without a positive minimum there is no selector, and no device has less memory
      rcases lt_or_ge 0 spec.minimumMemoryMiB with hpos | hle
      · exact h4 hpos
      · exact hle.trans hmemory
  · rintro ⟨_, h2, h3, h4, h5⟩
    refine ⟨?_, ?_, ?_, fun _ => h4⟩
    · rcases h5 with hh | ⟨hunknown, _⟩
      · exact (health_text_eq hhealth).mpr hh
      · rw [show (probe spec d.resourceName).policy.allowUnknownTopology = false from hknown]
          at hunknown
        cases hunknown
    · rintro ⟨hunset, hany⟩
      rcases h2 with h | h | h
      · exact absurd h hunset
      · exact absurd h hany
      · rw [h]
        rfl
    · intro hpos
      rcases h3 with h | h
      · exact absurd (show spec.products = [] from h) (List.ne_nil_of_length_pos hpos)
      · exact h

/-! ### Sets of published devices -/

section sets

variable [Kube] [FloatConversion]

omit [Kube] in
theorem lookup_locality (spec : AcceleratorTopologySpec) (d : AcceleratorDevice) :
    (publish spec d).attributes.lookup "numaNode" = d.numaNode.map AttributeValue.int ∧
    (publish spec d).attributes.lookup "pcieRoot" =
      (if d.pcieRoot ≠ "" then some (.string d.pcieRoot) else none) := by
  unfold publish attributesOf
  simp only [lookup_insertSome, literal, List.foldl_cons, List.foldl_nil, lookup_insert_ite]
  constructor <;> simp

theorem forall_mem_iff_sources {object : AcceleratorTopology} (ha : Accepted object.spec)
    {set : List Device} (hset : ∀ a ∈ set, a ∈ published object) (p : Device → Prop) :
    (∀ a ∈ set, p a) ↔ ∀ d ∈ sources object set, p (publish object.spec d) := by
  rw [published_eq ha] at hset
  unfold sources
  simp only [List.mem_filter, decide_eq_true_eq]
  constructor
  · rintro h d ⟨hd, hid⟩
    obtain ⟨a, haset, hname⟩ := List.mem_map.mp hid
    obtain ⟨d', hd', rfl⟩ := List.mem_map.mp (hset a haset)
    have heq : d' = d := List.inj_on_of_nodup_map ha.ids_nodup hd' hd hname
    rw [← heq]
    exact h _ haset
  · intro h a haset
    obtain ⟨d, hd, rfl⟩ := List.mem_map.mp (hset a haset)
    exact h d ⟨hd, List.mem_map_of_mem haset⟩

theorem sources_ne_nil {object : AcceleratorTopology} (ha : Accepted object.spec)
    {set : List Device} (hset : ∀ a ∈ set, a ∈ published object) (hne : set ≠ []) :
    sources object set ≠ [] := by
  obtain ⟨a, haset⟩ := List.exists_mem_of_ne_nil _ hne
  intro hnil
  have hfalse := (forall_mem_iff_sources ha hset (fun _ => False)).mpr (by rw [hnil]; simp)
  exact hfalse a haset

theorem satisfied_iff_sameLocality {object : AcceleratorTopology} (ha : Accepted object.spec)
    {set : List Device} (hset : ∀ a ∈ set, a ∈ published object) (hne : set ≠ []) :
    (DeviceConstraint.Satisfied ⟨[requestName], ⟨driverName, "numaNode"⟩⟩ set ↔
      SameLocality .singleNUMA (sources object set)) ∧
    (DeviceConstraint.Satisfied ⟨[requestName], ⟨driverName, "pcieRoot"⟩⟩ set ↔
      SameLocality .samePCIeRoot (sources object set)) := by
  obtain ⟨witness, hwitness⟩ := List.exists_mem_of_ne_nil _ (sources_ne_nil ha hset hne)
  unfold DeviceConstraint.Satisfied SameLocality
  simp only [forall_mem_iff_sources ha hset, (lookup_locality object.spec _).1,
    (lookup_locality object.spec _).2, true_and]
  constructor
  · constructor
    · rintro ⟨value, hvalue⟩
      obtain ⟨numa, _, rfl⟩ := Option.map_eq_some_iff.mp (hvalue witness hwitness)
      refine ⟨numa, ?_⟩
      intro d hd
      obtain ⟨numa', hnuma', heq⟩ := Option.map_eq_some_iff.mp (hvalue d hd)
      rw [hnuma', AttributeValue.int.inj heq]
    · rintro ⟨numa, hnuma⟩
      refine ⟨.int numa, ?_⟩
      intro d hd
      rw [hnuma d hd]
      rfl
  · constructor
    · rintro ⟨value, hvalue⟩
      have hroot : ∀ d ∈ sources object set, d.pcieRoot ≠ "" ∧ value = .string d.pcieRoot := by
        intro d hd
        have hd' := hvalue d hd
        split_ifs at hd' with hblank
        exact ⟨hblank, (Option.some.inj hd').symm⟩
      obtain ⟨hblank, rfl⟩ := hroot witness hwitness
      refine ⟨witness.pcieRoot, hblank, ?_⟩
      intro d hd
      exact (AttributeValue.string.inj (hroot d hd).2).symm
    · rintro ⟨root, hblank, hroot⟩
      refine ⟨.string root, ?_⟩
      intro d hd
      rw [hroot d hd, if_pos hblank]

omit [Kube] in
theorem template_of_locality {policy : AcceleratorPlacementPolicy} {dra : DRAParameters}
    (hdra : policy.spec.dra = some dra) (hcount : 1 ≤ dra.deviceCount)
    (hknown : policy.spec.allowUnknownTopology = false)
    (hmode : IsLocality policy.spec.topologyMode) :
    ∃ template matchAttribute, resourceClaimTemplateForPolicy (some policy) = .ok template ∧
      template.count = dra.deviceCount ∧
      modeSelection policy.spec = .ok ([], matchAttribute) ∧
      template.selectors = deviceSelectors policy.spec ∧
      template.constraints = (match matchAttribute with
        | none => []
        | some name => [⟨[requestName], ⟨driverName, name⟩⟩]) := by
  have hselection : ∃ matchAttribute, modeSelection policy.spec = .ok ([], matchAttribute) := by
    unfold modeSelection
    rcases hmode with h | h | h <;> rw [h] <;> exact ⟨_, rfl⟩
  obtain ⟨matchAttribute, hselection⟩ := hselection
  simp only [resourceClaimTemplateForPolicy, hdra, hselection, hknown]
  rw [if_neg (by omega)]
  exact ⟨_, matchAttribute, rfl, rfl, rfl, List.append_nil _, rfl⟩

/-- **The translation of the locality modes is exact.**  For every valid topology and policy with
DRA parameters and such a mode there is a template, and a set of that many published devices
satisfies it exactly if every device passes the scheduler's tests and all have the same known
locality. -/
theorem locality_translation_exact (object : AcceleratorTopology)
    (policy : AcceleratorPlacementPolicy) (dra : DRAParameters)
    (hbuild : ∃ snapshot, build object.spec = .ok snapshot)
    (hpolicy : validatePolicy policy.spec = none) (hdra : policy.spec.dra = some dra)
    (hmode : IsLocality policy.spec.topologyMode) :
    ∃ template, resourceClaimTemplateForPolicy (some policy) = .ok template ∧
      template.count = dra.deviceCount ∧
      ∀ set : List Device, (∀ a ∈ set, a ∈ published object) → (set.map (·.name)).Nodup →
        (set.length : ℤ) = dra.deviceCount →
          (Admits template set ↔ (∀ d ∈ sources object set, Passes policy.spec d) ∧
            SameLocality policy.spec.topologyMode (sources object set)) := by
  have ha := (build_isOk_iff object.spec).mp hbuild
  obtain ⟨hcount, hknown, hvendor⟩ := valid_of_validatePolicy hpolicy hdra
  obtain ⟨template, matchAttribute, htemplate, hdevices, hselection, hselectors, hconstraints⟩ :=
    template_of_locality hdra hcount hknown hmode
  refine ⟨template, htemplate, hdevices, ?_⟩
  intro set hset _ hlength
  have hne : set ≠ [] := by
    rintro rfl
    simp at hlength
    omega
  have hselected : (∀ a ∈ set, evalSelectors a template.selectors = some true) ↔
      ∀ d ∈ sources object set, Passes policy.spec d := by
    rw [forall_mem_iff_sources ha hset, hselectors]
    refine forall₂_congr fun d hd => ?_
    rw [evalSelectors_eq_true_iff, (eval_deviceSelectors object.spec policy.spec d).2]
    exact selects_iff_passes (ha.device_ok d (List.mem_filter.mp hd).1) hvendor hknown
  obtain ⟨hnuma, hroot⟩ := satisfied_iff_sameLocality ha hset hne
  unfold Admits
  rw [hselected, hconstraints]
  refine and_congr Iff.rfl ?_
  unfold modeSelection at hselection
  rcases hmode with h | h | h
  · rw [h] at hselection ⊢
    cases hselection
    rw [List.forall_mem_singleton, hnuma]
  · rw [h] at hselection ⊢
    cases hselection
    rw [List.forall_mem_singleton, hroot]
  · rw [h] at hselection ⊢
    cases hselection
    simp [SameLocality]

end sets

/-- Two devices of one NUMA node satisfy the template of a single-NUMA policy. -/
theorem locality_translation_exact_on_numa_pair :
    let : Kube := sampleKube
    let : FloatConversion := amd64
    let object := sampleTopology 1 (sampleSpec
      [{ sampleDevice "gpu0" with numaNode := some 0 },
        { sampleDevice "gpu1" with numaNode := some 0 }] [])
    ∃ template, resourceClaimTemplateForPolicy (some (samplePolicyObject .singleNUMA 2)) =
      .ok template ∧ Admits template (published object) := by
  intro kube conversion object
  obtain ⟨template, htemplate, _, hexact⟩ := locality_translation_exact object
    (samplePolicyObject .singleNUMA 2) ⟨2⟩ ⟨_, rfl⟩ (by decide +kernel) rfl (.inl rfl)
  refine ⟨template, htemplate, (hexact _ (fun _ h => h) (by decide +kernel)
    (by decide +kernel)).mpr ⟨?_, 0, ?_⟩⟩
  · unfold Passes
    decide +kernel
  · decide +kernel

end AcceleratorFabric.PolicyController
