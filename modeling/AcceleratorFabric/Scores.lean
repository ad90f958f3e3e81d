import AcceleratorFabric.GroupSelection
import AcceleratorFabric.Hooks

/-! # Scores and weights

The score of a node is computed in `int64` and the sum of the weights in `int32`, both without a
check for overflow.

* `score_exact_iff`: for up to `maxCounted` devices, a score is the exact one if and only if a
  hundred times the free headroom fits an `int64` (`headroom_wraps` otherwise).
* `validatePolicy_accepts_valid_iff`: the validation accepts exactly the valid policies, except
  for those whose weights sum up to `2 ^ 32 + 100` (`wrapped_weights_accepted`). -/

namespace AcceleratorFabric.TopologyFit

open AcceleratorFabric.Topology

/-! ### Percentages -/

/-- The percentage without bounds on the numbers, rounded down. -/
def exactPercentage (numerator denominator : ℤ) : ℤ :=
  if denominator ≤ 0 ∨ numerator ≤ 0 then 0 else min 100 (100 * numerator / denominator)

theorem exactPercentage_mem (numerator denominator : ℤ) :
    0 ≤ exactPercentage numerator denominator ∧ exactPercentage numerator denominator ≤ 100 := by
  unfold exactPercentage
  split_ifs with h
  · omega
  · have hnonneg : 0 ≤ 100 * numerator / denominator := Int.ediv_nonneg (by omega) (by omega)
    omega

theorem percentage_eq {numerator denominator : ℤ} (h : 100 * numerator < 2 ^ 63) :
    percentage numerator denominator = exactPercentage numerator denominator := by
  unfold percentage exactPercentage
  split_ifs with hzero
  · rfl
  · rw [wrap64_eq (by omega) (by omega), Int.tdiv_eq_ediv_of_nonneg (by omega), mul_comm]

/-- A part is a wrong percentage of the whole as soon as the product wraps. -/
theorem percentage_lt {numerator denominator : ℤ} (hle : numerator ≤ denominator)
    (hint : denominator < 2 ^ 63) (h : 2 ^ 63 ≤ 100 * numerator) :
    percentage numerator denominator < exactPercentage numerator denominator := by
  have hpos : 0 < denominator := by omega
  have hwrap : wrap64 (numerator * 100) ≤ 100 * numerator - 2 ^ 64 := by
    rw [mul_comm]
    exact wrap64_le_sub h
  have hexact : 1 ≤ 100 * numerator / denominator :=
    (Int.le_ediv_iff_mul_le hpos).mpr (by omega)
  have hquotient : (wrap64 (numerator * 100)).tdiv denominator < 100 * numerator / denominator := by
    by_cases hneg : wrap64 (numerator * 100) < 0
    · have hflip : 0 ≤ (-wrap64 (numerator * 100)).tdiv denominator :=
        Int.tdiv_nonneg (by omega) hpos.le
      rw [Int.neg_tdiv] at hflip
      omega
    · rw [Int.tdiv_eq_ediv_of_nonneg (not_lt.mp hneg)]
      -- two denominators are lost at least
      have hlost : wrap64 (numerator * 100) + denominator * 1 ≤ 100 * numerator := by omega
      have hmono := Int.ediv_le_ediv hpos hlost
      rw [Int.add_mul_ediv_left _ _ hpos.ne'] at hmono
      omega
  have hbound : 100 * numerator / denominator ≤ 100 :=
    Int.ediv_le_of_le_mul hpos (by omega)
  unfold percentage exactPercentage
  rw [if_neg (by omega), if_neg (by omega)]
  omega

theorem percentage_eq_iff {numerator denominator : ℤ} (hle : numerator ≤ denominator)
    (hint : denominator < 2 ^ 63) :
    percentage numerator denominator = exactPercentage numerator denominator ↔
      100 * numerator < 2 ^ 63 := by
  constructor
  · intro heq
    by_contra hwide
    have hlt := percentage_lt hle hint (not_lt.mp hwide)
    omega
  · exact percentage_eq

/-! ### Counting devices and pairs -/

section counts

variable [Kube] {snapshot : Snapshot} {policy : AcceleratorPlacementPolicySpec}

theorem qualifiedEdges_le (snapshot : Snapshot) (policy : AcceleratorPlacementPolicySpec) :
    ∀ devices : List AcceleratorDevice, (qualifiedEdges snapshot policy devices : ℤ) ≤
      (devices.length : ℤ) * (devices.length - 1) / 2
  | [] => by simp [qualifiedEdges]
  | d :: devices => by
      have ih := qualifiedEdges_le snapshot policy devices
      have hcount : devices.countP (fun other => linked snapshot policy d.id other.id) ≤
          devices.length := List.countP_le_length
      have hpairs : ((d :: devices).length : ℤ) * ((d :: devices).length - 1) =
          (devices.length : ℤ) * (devices.length - 1) + devices.length * 2 := by
        rw [List.length_cons]
        push_cast
        ring
      rw [qualifiedEdges, hpairs, Int.add_mul_ediv_right _ _ (by decide)]
      push_cast
      omega

omit [Kube] in
theorem maxNUMAGroup_le (devices : List AcceleratorDevice) (allowUnknown : Bool) :
    maxNUMAGroup devices allowUnknown ≤ devices.length := by
  by_contra hlt
  obtain ⟨v, hv⟩ := (le_maxNUMAGroup_iff (by omega)).mp (not_le.mp hlt)
  have hcount : devices.countP (fun d => numaClass allowUnknown d = some v) ≤ devices.length :=
    List.countP_le_length
  omega

omit [Kube] in
theorem maxStringGroup_le (devices : List AcceleratorDevice) (allowUnknown : Bool) :
    maxStringGroup devices (·.pcieRoot) allowUnknown ≤ devices.length := by
  by_contra hlt
  obtain ⟨v, hv⟩ := (le_maxStringGroup_iff (by omega)).mp (not_le.mp hlt)
  have hcount : devices.countP (fun d => rootClass allowUnknown d = some v) ≤ devices.length :=
    List.countP_le_length
  omega

end counts

/-! ### Exact scores -/

/-- The features without bounds on the numbers. -/
def exactFeatures [Kube] (snapshot : Snapshot) (devices : List AcceleratorDevice)
    (policy : AcceleratorPlacementPolicySpec) (requested remaining allocatable : ℤ) : Features where
  locality := exactPercentage (max (maxNUMAGroup devices policy.allowUnknownTopology)
    (maxStringGroup devices (·.pcieRoot) policy.allowUnknownTopology) : ℕ) devices.length
  fabric := exactPercentage (qualifiedEdges snapshot policy devices)
    ((devices.length : ℤ) * (devices.length - 1) / 2)
  fragmentation := exactPercentage requested devices.length
  headroom := exactPercentage (remaining - requested) allocatable

/-- Of so many devices a hundred times the number of pairs fits an `int64`. -/
def maxCounted : ℕ := 429496729

/-- Weights that are not negative and sum up to a hundred. -/
structure SumTo100 (weights : ScoreWeights) : Prop where
  locality_nonneg : 0 ≤ weights.locality
  fabric_nonneg : 0 ≤ weights.fabric
  fragmentation_nonneg : 0 ≤ weights.fragmentation
  headroom_nonneg : 0 ≤ weights.headroom
  sum_eq : weights.locality + weights.fabric + weights.fragmentation + weights.headroom = 100

/-- The weighted sum of the features. -/
def weightedSum (value : Features) (weights : ScoreWeights) : ℤ :=
  value.locality * weights.locality + value.fabric * weights.fabric +
    value.fragmentation * weights.fragmentation + value.headroom * weights.headroom

/-- Every feature is a percentage. -/
structure Features.InRange (value : Features) : Prop where
  locality_mem : 0 ≤ value.locality ∧ value.locality ≤ 100
  fabric_mem : 0 ≤ value.fabric ∧ value.fabric ≤ 100
  fragmentation_mem : 0 ≤ value.fragmentation ∧ value.fragmentation ≤ 100
  headroom_mem : 0 ≤ value.headroom ∧ value.headroom ≤ 100

/-- The score is the weighted mean of the features rounded down, and neither clamp changes it. -/
structure UnclampedMean (value : Features) (weights : ScoreWeights) : Prop where
  quotient_eq : (wrap64 (weightedSum value weights)).tdiv 100 = weightedSum value weights / 100
  min_le : minNodeScore ≤ weightedSum value weights / 100
  le_max : weightedSum value weights / 100 ≤ maxNodeScore
  score_eq : weightedScore value weights = weightedSum value weights / 100

theorem Features.InRange.unclampedMean {value : Features} (h : value.InRange)
    {weights : ScoreWeights} (hw : SumTo100 weights) : UnclampedMean value weights := by
  have part : ∀ {f w : ℤ}, 0 ≤ f ∧ f ≤ 100 → 0 ≤ w → 0 ≤ f * w ∧ f * w ≤ 100 * w := by
    intro f w hf hw
    exact ⟨mul_nonneg hf.1 hw, mul_le_mul_of_nonneg_right hf.2 hw⟩
  have hsum : 0 ≤ weightedSum value weights ∧ weightedSum value weights ≤ 10000 := by
    have h1 := part h.locality_mem hw.locality_nonneg
    have h2 := part h.fabric_mem hw.fabric_nonneg
    have h3 := part h.fragmentation_mem hw.fragmentation_nonneg
    have h4 := part h.headroom_mem hw.headroom_nonneg
    have htotal := hw.sum_eq
    unfold weightedSum
    omega
  have hquotient : (wrap64 (weightedSum value weights)).tdiv 100 =
      weightedSum value weights / 100 := by
    rw [wrap64_eq (by omega) (by omega), Int.tdiv_eq_ediv_of_nonneg hsum.1]
  have hmin : minNodeScore ≤ weightedSum value weights / 100 := by
    unfold minNodeScore
    omega
  have hmax : weightedSum value weights / 100 ≤ maxNodeScore := by
    unfold maxNodeScore
    omega
  refine ⟨hquotient, hmin, hmax, ?_⟩
  unfold weightedScore
  simp only
  rw [← weightedSum, hquotient, if_neg (not_lt.mpr hmin), if_neg (not_lt.mpr hmax)]

section scores

variable [Kube] {snapshot : Snapshot} {devices : List AcceleratorDevice}
  {policy : AcceleratorPlacementPolicySpec} {requested remaining allocatable : ℤ}

theorem exactFeatures_inRange :
    (exactFeatures snapshot devices policy requested remaining allocatable).InRange :=
  ⟨exactPercentage_mem _ _, exactPercentage_mem _ _, exactPercentage_mem _ _,
    exactPercentage_mem _ _⟩

omit [Kube] in
/-- The pairs are counted without a wrap. -/
theorem pairs_lt {n : ℕ} (h : n ≤ maxCounted) :
    0 ≤ (n : ℤ) * (n - 1) ∧ 50 * ((n : ℤ) * (n - 1)) < 2 ^ 63 := by
  have hpairs : (n : ℤ) * (n - 1) = n * n - n := by ring
  have hle : (n : ℤ) ≤ n * n := by exact_mod_cast Nat.le_mul_self n
  have hsquare : (n : ℤ) * n ≤ 429496729 * 429496729 := by exact_mod_cast Nat.mul_le_mul h h
  omega

/-- Only the headroom can wrap. -/
theorem scoreFeatures_eq (hlength : devices.length ≤ maxCounted)
    (hcount : requested ≤ devices.length)
    (hroom : 0 ≤ remaining - requested) (hint : remaining - requested < 2 ^ 63) :
    scoreFeatures snapshot devices policy requested remaining allocatable =
      { exactFeatures snapshot devices policy requested remaining allocatable with
        headroom := percentage (remaining - requested) allocatable } := by
  obtain ⟨hnonneg, hproduct⟩ := pairs_lt hlength
  unfold maxCounted at hlength
  have hedges := qualifiedEdges_le snapshot policy devices
  have hnuma := maxNUMAGroup_le devices policy.allowUnknownTopology
  have hroot := maxStringGroup_le devices policy.allowUnknownTopology
  have hpossible : (wrap64 ((devices.length : ℤ) * (devices.length - 1))).tdiv 2 =
      (devices.length : ℤ) * (devices.length - 1) / 2 := by
    rw [wrap64_eq (by omega) (by omega), Int.tdiv_eq_ediv_of_nonneg hnonneg]
  unfold scoreFeatures exactFeatures
  simp only [hpossible]
  rw [wrap64_eq (n := (qualifiedEdges snapshot policy devices : ℤ)) (by omega) (by omega),
    wrap64_eq (n := remaining - requested) (by omega) hint, percentage_eq (by omega),
    percentage_eq (by omega), percentage_eq (by omega)]

/-- A score is computed as it is on unbounded numbers. -/
structure ScoreExact (snapshot : Snapshot) (devices : List AcceleratorDevice)
    (policy : AcceleratorPlacementPolicySpec) (requested remaining allocatable : ℤ)
    (weights : ScoreWeights) : Prop where
  features_eq : scoreFeatures snapshot devices policy requested remaining allocatable =
    exactFeatures snapshot devices policy requested remaining allocatable
  inRange : (scoreFeatures snapshot devices policy requested remaining allocatable).InRange
  mean : UnclampedMean (scoreFeatures snapshot devices policy requested remaining allocatable)
    weights

end scores

/-- **When scores are exact**: if and only if a hundred times the headroom that is left fits an
`int64`, on nodes whose pairs of devices can be counted. -/
theorem score_exact_iff [Kube] (snapshot : Snapshot) (devices : List AcceleratorDevice)
    (policy : AcceleratorPlacementPolicySpec) (requested remaining allocatable : ℤ)
    (weights : ScoreWeights) (hpos : 1 ≤ requested) (hremaining : requested ≤ remaining)
    (hallocatable : remaining ≤ allocatable) (hint : allocatable < 2 ^ 63)
    (hcount : requested ≤ devices.length) (hweights : SumTo100 weights)
    (hlength : devices.length ≤ maxCounted) :
    ScoreExact snapshot devices policy requested remaining allocatable weights ↔
      100 * (remaining - requested) < 2 ^ 63 := by
  have hfeatures : scoreFeatures snapshot devices policy requested remaining allocatable =
      { exactFeatures snapshot devices policy requested remaining allocatable with
        headroom := percentage (remaining - requested) allocatable } :=
    scoreFeatures_eq hlength hcount (by omega) (by omega)
  have hheadroom : percentage (remaining - requested) allocatable =
      exactPercentage (remaining - requested) allocatable ↔
        100 * (remaining - requested) < 2 ^ 63 :=
    percentage_eq_iff (by omega) hint
  constructor
  · intro h
    have heq := congrArg Features.headroom (hfeatures.symm.trans h.features_eq)
    exact hheadroom.mp heq
  · intro h
    have heq : scoreFeatures snapshot devices policy requested remaining allocatable =
        exactFeatures snapshot devices policy requested remaining allocatable := by
      rw [hfeatures, hheadroom.mpr h]
      rfl
    have hrange : (scoreFeatures snapshot devices policy requested remaining allocatable).InRange := by
      rw [heq]
      exact exactFeatures_inRange
    exact ⟨heq, hrange, hrange.unclampedMean hweights⟩

theorem score_exact_for_one_device :
    let : Kube := sampleKube
    ∃ snapshot, build (sampleSpec [sampleDevice "gpu0"] []) = .ok snapshot ∧
      ScoreExact snapshot [sampleDevice "gpu0"] (samplePolicy .bestEffort .failClosed) 1 8 8
        ⟨25, 25, 25, 25⟩ := by
  intro kube
  refine ⟨_, rfl, (score_exact_iff _ _ _ 1 8 8 ⟨25, 25, 25, 25⟩ (by decide) (by decide) (by decide)
    (by decide) (by decide) ⟨by decide, by decide, by decide, by decide, by decide⟩
    (by decide)).mpr (by decide)⟩

/-- A node that offers `10 ^ 17 + 1` devices and has given none away gets a negative feature. -/
theorem headroom_wraps :
    ¬ ∀ (_ : Kube) (snapshot : Snapshot) (devices : List AcceleratorDevice)
      (policy : AcceleratorPlacementPolicySpec) (requested remaining allocatable : ℤ)
      (weights : ScoreWeights), 1 ≤ requested → requested ≤ remaining → remaining ≤ allocatable →
        allocatable < 2 ^ 63 → requested ≤ devices.length → SumTo100 weights →
          ScoreExact snapshot devices policy requested remaining allocatable weights := by
  intro h
  let : Kube := sampleKube
  obtain ⟨snapshot, _⟩ : ∃ snapshot, build (sampleSpec [sampleDevice "gpu0"] []) =
      .ok snapshot := ⟨_, rfl⟩
  have hexact := h sampleKube snapshot [sampleDevice "gpu0"] (samplePolicy .bestEffort .failClosed)
    1 (10 ^ 17 + 1) (10 ^ 17 + 1) ⟨25, 25, 25, 25⟩ (by decide) (by decide) (by decide) (by decide)
    (by decide) ⟨by decide, by decide, by decide, by decide, by decide⟩
  have hnonneg : 0 ≤ percentage (wrap64 (10 ^ 17 + 1 - 1)) (10 ^ 17 + 1) :=
    hexact.inRange.headroom_mem.1
  exact absurd hnonneg (by decide)

/-! ### Valid policies -/

/-- What a valid policy has to satisfy besides its weights. -/
structure ValidConstraints (spec : AcceleratorPlacementPolicySpec) : Prop where
  vendor_mem : spec.vendor ∈ [.unset, .any, .nvidia, .huawei, .amd]
  mode_mem : spec.topologyMode ∈
    [.singleNUMA, .samePCIeRoot, .fabricClique, .fabricConnected, .bestEffort]
  failurePolicy_mem : spec.failurePolicy ∈ [.failClosed, .bestEffort]
  products_ne : "" ∉ spec.products
  memory_nonneg : 0 ≤ spec.minimumMemoryMiB
  bandwidth_nonneg : 0 ≤ spec.minimumLinkBandwidthGBps
  hops_nonneg : 0 ≤ spec.maxFabricHops
  dra_ok : ∀ dra, spec.dra = some dra → 1 ≤ dra.deviceCount ∧
    spec.topologyMode ≠ .fabricConnected ∧ spec.allowUnknownTopology = false

/-- A policy that can be used as it is written. -/
structure ValidPolicy (spec : AcceleratorPlacementPolicySpec) : Prop extends
    ValidConstraints spec where
  weights_ok : SumTo100 spec.weights

/-- Every weight is an `int32`. -/
structure Int32Weights (weights : ScoreWeights) : Prop where
  locality_mem : -2 ^ 31 ≤ weights.locality ∧ weights.locality < 2 ^ 31
  fabric_mem : -2 ^ 31 ≤ weights.fabric ∧ weights.fabric < 2 ^ 31
  fragmentation_mem : -2 ^ 31 ≤ weights.fragmentation ∧ weights.fragmentation < 2 ^ 31
  headroom_mem : -2 ^ 31 ≤ weights.headroom ∧ weights.headroom < 2 ^ 31

/-- Weights that are not negative and whose sum wraps to a hundred. -/
def WrapTo100 (weights : ScoreWeights) : Prop :=
  0 ≤ weights.locality ∧ 0 ≤ weights.fabric ∧ 0 ≤ weights.fragmentation ∧ 0 ≤ weights.headroom ∧
    weights.locality + weights.fabric + weights.fragmentation + weights.headroom = 2 ^ 32 + 100

theorem validateDRA_eq_none_iff (spec : AcceleratorPlacementPolicySpec) :
    validateDRA spec = none ↔ ∀ dra, spec.dra = some dra → 1 ≤ dra.deviceCount ∧
      spec.topologyMode ≠ .fabricConnected ∧ spec.allowUnknownTopology = false := by
  unfold validateDRA
  cases hdra : spec.dra with
  | none => simp
  | some dra =>
      simp only [Option.some.injEq, forall_eq']
      split_ifs with hcount hmode
      · refine iff_of_false (by simp) ?_
        rintro ⟨h, _⟩
        omega
      · refine iff_of_false (by simp) ?_
        rintro ⟨_, hconnected, hunknown⟩
        rcases hmode with h | h
        · exact hconnected h
        · rw [h] at hunknown
          cases hunknown
      · rw [not_or, Bool.not_eq_true] at hmode
        exact iff_of_true rfl ⟨not_lt.mp hcount, hmode⟩

theorem validateWeights_iff {weights : ScoreWeights} (h : Int32Weights weights) :
    validateWeights weights = true ↔ SumTo100 weights ∨ WrapTo100 weights := by
  obtain ⟨h1, h2, h3, h4⟩ := h
  unfold validateWeights
  simp only [Bool.not_eq_true', Bool.or_eq_false_iff, decide_eq_false_iff_not, not_lt, ne_eq,
    not_not]
  constructor
  · rintro ⟨⟨⟨⟨hl, hf⟩, hg⟩, hh⟩, hsum⟩
    rw [wrap32_eq_iff (by omega) (by omega) (by omega) (by omega)] at hsum
    rcases hsum with hsum | hsum
    · exact .inl ⟨hl, hf, hg, hh, hsum⟩
    · exact .inr ⟨hl, hf, hg, hh, hsum⟩
  · rintro (⟨hl, hf, hg, hh, hsum⟩ | ⟨hl, hf, hg, hh, hsum⟩)
    · refine ⟨⟨⟨⟨hl, hf⟩, hg⟩, hh⟩, ?_⟩
      rw [wrap32_eq_iff (by omega) (by omega) (by omega) (by omega)]
      exact .inl hsum
    · refine ⟨⟨⟨⟨hl, hf⟩, hg⟩, hh⟩, ?_⟩
      rw [wrap32_eq_iff (by omega) (by omega) (by omega) (by omega)]
      exact .inr hsum

theorem supportedVendor_iff (vendor : AcceleratorVendor) :
    supportedVendor vendor = true ↔ vendor ∈ [.unset, .any, .nvidia, .huawei, .amd] := by
  cases vendor <;> simp [supportedVendor]

theorem supportedMode_iff (mode : TopologyMode) : supportedMode mode = true ↔
    mode ∈ [.singleNUMA, .samePCIeRoot, .fabricClique, .fabricConnected, .bestEffort] := by
  cases mode <;> simp [supportedMode]

theorem supportedFailurePolicy_iff (policy : FailurePolicy) :
    supportedFailurePolicy policy = true ↔ policy ∈ [.failClosed, .bestEffort] := by
  cases policy <;> simp [supportedFailurePolicy]

/-- **Inversion of `validatePolicy`**: the checks that all have to pass. -/
theorem validatePolicy_eq_none_iff (spec : AcceleratorPlacementPolicySpec) :
    validatePolicy spec = none ↔ ValidConstraints spec ∧ validateWeights spec.weights = true := by
  unfold validatePolicy
  constructor
  · intro h
    split at h
    · cases h
    · next hdra =>
        split_ifs at h with h1 h2 h3 h4 h5 h6
        rw [Bool.not_eq_true', Bool.not_eq_false] at h1 h4 h5 h6
        rw [not_or, not_or, not_lt, not_lt, not_lt] at h2
        exact ⟨⟨(supportedVendor_iff _).mp h1, (supportedMode_iff _).mp h4,
          (supportedFailurePolicy_iff _).mp h5, h3, h2.1, h2.2.1, h2.2.2,
          (validateDRA_eq_none_iff spec).mp hdra⟩, h6⟩
  · rintro ⟨⟨h1, h4, h5, h3, hm, hb, hh, hdra⟩, h6⟩
    rw [← supportedVendor_iff] at h1
    rw [← supportedMode_iff] at h4
    rw [← supportedFailurePolicy_iff] at h5
    rw [(validateDRA_eq_none_iff spec).mpr hdra]
    simp [h1, h3, h4, h5, h6, not_lt.mpr hm, not_lt.mpr hb, not_lt.mpr hh]

/-- **The validation accepts exactly the valid policies** if and only if the policy, when
everything else about it is valid, does not have weights that wrap to a hundred. -/
theorem validatePolicy_accepts_valid_iff (spec : AcceleratorPlacementPolicySpec)
    (hint32 : Int32Weights spec.weights) :
    (validatePolicy spec = none ↔ ValidPolicy spec) ↔
      (ValidConstraints spec → ¬ WrapTo100 spec.weights) := by
  rw [validatePolicy_eq_none_iff, validateWeights_iff hint32]
  constructor
  · rintro h hconstraints hwrap
    have hsum := (h.mp ⟨hconstraints, .inr hwrap⟩).weights_ok.sum_eq
    have hwrapped := hwrap.2.2.2.2
    omega
  · intro h
    constructor
    · rintro ⟨hconstraints, hsum | hwrap⟩
      · exact ⟨hconstraints, hsum⟩
      · exact absurd hwrap (h hconstraints)
    · intro hvalid
      exact ⟨hvalid.toValidConstraints, .inl hvalid.weights_ok⟩

theorem samplePolicy_accepted_iff_valid :
    validatePolicy (samplePolicy .bestEffort .failClosed) = none ↔
      ValidPolicy (samplePolicy .bestEffort .failClosed) := by
  refine (validatePolicy_accepts_valid_iff _ ⟨?_, ?_, ?_, ?_⟩).mpr ?_
  · decide
  · decide
  · decide
  · decide
  · intro _
    unfold WrapTo100
    decide

/-- Two weights of `2 ^ 31 - 1` and one of 102 are accepted. -/
theorem wrapped_weights_accepted :
    ¬ ∀ spec : AcceleratorPlacementPolicySpec, Int32Weights spec.weights →
      (validatePolicy spec = none ↔ ValidPolicy spec) := by
  intro h
  have hvalid := (h { samplePolicy .bestEffort .failClosed with
    weights := ⟨2 ^ 31 - 1, 2 ^ 31 - 1, 102, 0⟩ }
      ⟨by decide, by decide, by decide, by decide⟩).mp (by decide +kernel)
  exact absurd hvalid.weights_ok.sum_eq (by decide)

end AcceleratorFabric.TopologyFit
