import AcceleratorFabric.SnapshotCanonical

/-! # What the fabric attributes tell

The attributes `fabricType`, `fabricBandwidthGBps` and `fabricHops` of a published device come from
its group links, the healthy links of another type than PCIe inside its fabric group.

* The minimum bandwidth and the maximum hops do not depend on the order of the links, but the type
  is that of the last group link: the attributes are independent of the order exactly if the group
  links of every device have one type (`published_order_free_iff`).
* The published bandwidth is rounded down and the bound of a selector is rounded up, so a device
  that passes the fabric selectors only has group links that satisfy the policy exactly
  (`fabric_attributes_conservative`). -/

namespace AcceleratorFabric.Dra

open GoMap AcceleratorFabric.Topology

/-! ### Facts without the link type -/

/-- The facts up to the link type. -/
def FabricFacts.untyped (facts : FabricFacts) : FabricFacts := { facts with linkType := .other "" }

/-- The update of one link up to the link type. -/
def FabricFacts.addUntyped (facts : FabricFacts) (link : AcceleratorLink) : FabricFacts :=
  (facts.add link).untyped

/-- Minimum and maximum can be taken in either order. -/
instance : RightCommutative FabricFacts.addUntyped where
  right_comm := by
    intro facts l m
    have hband : ∀ a b : ℚ, (if a < b then a else b) = min a b := fun a b => (min_def_lt a b).symm
    have hhops : ∀ a b : ℤ, (if a < b then b else a) = max a b := fun a b => (max_def_lt a b).symm
    cases hf : facts.found with
    | false =>
        simp only [FabricFacts.addUntyped, FabricFacts.add, FabricFacts.untyped, hf, Bool.not_false,
          Bool.true_or, Bool.not_true, Bool.false_or, decide_eq_true_eq, if_true, hband, hhops]
        rw [min_comm, max_right_comm]
    | true =>
        simp only [FabricFacts.addUntyped, FabricFacts.add, FabricFacts.untyped, hf, Bool.not_true,
          Bool.false_or, decide_eq_true_eq, hband, hhops]
        rw [min_left_comm, max_right_comm]

theorem FabricFacts.untyped_foldl (ls : List AcceleratorLink) (facts : FabricFacts) :
    (ls.foldl FabricFacts.add facts).untyped =
      ls.foldl FabricFacts.addUntyped facts.untyped := by
  induction ls generalizing facts with
  | nil => rfl
  | cons l ls ih =>
      rw [List.foldl_cons, List.foldl_cons, ih]
      rfl

/-- An update reads nothing of a link that depends on its orientation. -/
theorem FabricFacts.foldl_reoriented {ls ms : List AcceleratorLink}
    (h : List.Forall₂ Reoriented ls ms) (facts : FabricFacts) :
    ms.foldl FabricFacts.add facts = ls.foldl FabricFacts.add facts := by
  induction h generalizing facts with
  | nil => rfl
  | cons hlm _ ih =>
      rw [List.foldl_cons, List.foldl_cons, ih]
      rcases hlm with rfl | rfl
      · rfl
      · rfl

theorem FabricFacts.linkType_foldl {ls : List AcceleratorLink} (hne : ls ≠ [])
    (facts : FabricFacts) : ∃ l ∈ ls, (ls.foldl FabricFacts.add facts).linkType = l.type := by
  obtain ⟨front, last, rfl⟩ := (List.eq_nil_or_concat' ls).resolve_left hne
  refine ⟨last, List.mem_append_right _ List.mem_cons_self, ?_⟩
  rw [List.foldl_append]
  rfl

/-! ### Attributes and the order of links -/

section order

variable {spec spec' : AcceleratorTopologySpec}

theorem groupLinks_reordered (h : SameInventory spec spec') (hdevices : spec'.devices = spec.devices)
    (id : String) :
    ∃ ls, ls.Perm (groupLinks spec id) ∧ List.Forall₂ Reoriented ls (groupLinks spec' id) := by
  obtain ⟨ls, hperm, hsame⟩ := h.links_perm
  refine ⟨_, hperm.filter _, List.rel_filter ?_ hsame⟩
  intro l m hlm
  simp only [decide_eq_true_eq]
  unfold InGroup
  rw [hdevices]
  rcases hlm with rfl | rfl
  · exact Iff.rfl
  · unfold swapEnds
    constructor
    · rintro ⟨⟨h1, h2, h3, h4⟩, hid⟩
      exact ⟨⟨h1, h2, h4 ▸ h3, h4.symm⟩, hid.symm⟩
    · rintro ⟨⟨h1, h2, h3, h4⟩, hid⟩
      exact ⟨⟨h1, h2, h4 ▸ h3, h4.symm⟩, hid.symm⟩

variable [Kube]

/-- **Bandwidth and hops do not depend on the order of the links.** -/
theorem untyped_factsAt_eq (ha : Accepted spec) (h : SameInventory spec spec')
    (hdevices : spec'.devices = spec.devices) (id : String) :
    (factsAt (fabricByID spec') id).untyped = (factsAt (fabricByID spec) id).untyped := by
  obtain ⟨ls, hperm, hsame⟩ := groupLinks_reordered h hdevices id
  rw [factsAt_fabricByID_eq ha, factsAt_fabricByID_eq (h.accepted ha),
    FabricFacts.foldl_reoriented hsame, FabricFacts.untyped_foldl, FabricFacts.untyped_foldl]
  exact hperm.foldl_eq _

theorem exists_groupLink_type (ha : Accepted spec) {id : String}
    (hfound : (factsAt (fabricByID spec) id).found = true) :
    ∃ l ∈ groupLinks spec id, (factsAt (fabricByID spec) id).linkType = l.type := by
  have hne := (factsAt_fabricByID ha id).1.mp hfound
  rw [factsAt_fabricByID_eq ha]
  exact FabricFacts.linkType_foldl hne _

variable [FloatConversion]

omit [Kube] in
theorem lookup_fabricType (spec : AcceleratorTopologySpec) (d : AcceleratorDevice) :
    (attributesOf spec d).lookup "fabricType" =
      if (factsAt (fabricByID spec) d.id).found then
        some (.string (factsAt (fabricByID spec) d.id).linkType.text) else none := by
  unfold attributesOf
  simp only [lookup_insertSome, literal, List.foldl_cons, List.foldl_nil, lookup_insert_ite]
  simp

omit [Kube] in
theorem attributesOf_eq {d : AcceleratorDevice}
    (hgeneration : spec.observedGeneration = spec'.observedGeneration)
    (huntyped : (factsAt (fabricByID spec') d.id).untyped =
      (factsAt (fabricByID spec) d.id).untyped)
    (htype : (factsAt (fabricByID spec) d.id).found = true →
      (factsAt (fabricByID spec') d.id).linkType = (factsAt (fabricByID spec) d.id).linkType) :
    attributesOf spec' d = attributesOf spec d := by
  obtain ⟨hfound, _, hbandwidth, hhops⟩ := FabricFacts.mk.inj huntyped
  unfold attributesOf
  simp only [hfound, hbandwidth, hhops, hgeneration]
  cases hf : (factsAt (fabricByID spec) d.id).found with
  | false => rfl
  | true => rw [htype hf]

end order

section published

variable [Kube] [FloatConversion]

/-- Permuting the links and swapping their ends does not change what is published. -/
def PublishedOrderFree (object : AcceleratorTopology) : Prop :=
  ∀ spec', SameInventory object.spec spec' → spec'.devices = object.spec.devices →
    resourcesForTopology (some { object with spec := spec' }) = resourcesForTopology (some object)

theorem resourcesForTopology_eq {object : AcceleratorTopology} (ha : Accepted object.spec) :
    resourcesForTopology (some object) = .ok (Finmap.singleton object.spec.nodeName
      (object.spec.devices.map (publish object.spec))) := by
  obtain ⟨snapshot, hs⟩ := (build_isOk_iff object.spec).mpr ha
  unfold resourcesForTopology
  simp only [hs]

theorem resourcesForTopology_eq_iff {object : AcceleratorTopology} (ha : Accepted object.spec)
    {spec' : AcceleratorTopologySpec} (h : SameInventory object.spec spec')
    (hdevices : spec'.devices = object.spec.devices) :
    resourcesForTopology (some { object with spec := spec' }) = resourcesForTopology (some object) ↔
      ∀ d ∈ object.spec.devices, attributesOf spec' d = attributesOf object.spec d := by
  have ha' : Accepted ({ object with spec := spec' } : AcceleratorTopology).spec := h.accepted ha
  rw [resourcesForTopology_eq ha, resourcesForTopology_eq ha']
  simp only [← h.nodeName_eq, hdevices]
  constructor
  · intro he d hd
    have hlists := congrArg (fun m => m.lookup object.spec.nodeName) (Except.ok.inj he)
    simp only [Finmap.lookup_singleton_eq, Option.some.injEq] at hlists
    exact congrArg Device.attributes (List.map_inj_left.mp hlists d hd)
  · intro he
    have hlists : object.spec.devices.map (publish spec') =
        object.spec.devices.map (publish object.spec) := by
      refine List.map_congr_left fun d hd => ?_
      unfold publish
      rw [he d hd]
    rw [hlists]

/-- The spec with one of its links moved to the end. -/
def withLast (spec : AcceleratorTopologySpec) (l : AcceleratorLink) : AcceleratorTopologySpec :=
  { spec with links := spec.links.erase l ++ [l] }

omit [Kube] [FloatConversion] in
theorem sameInventory_withLast {spec : AcceleratorTopologySpec} {l : AcceleratorLink}
    (hl : l ∈ spec.links) : SameInventory spec (withLast spec l) := by
  refine ⟨rfl, rfl, List.Perm.refl _, _, ?_, List.forall₂_same.mpr fun _ _ => .inl rfl⟩
  exact List.perm_append_singleton l _ |>.trans (List.perm_cons_erase hl).symm

omit [FloatConversion] in
theorem linkType_withLast {spec : AcceleratorTopologySpec} (ha : Accepted spec) {id : String}
    {l : AcceleratorLink} (hl : l ∈ groupLinks spec id) :
    (factsAt (fabricByID (withLast spec l)) id).found = true ∧
      (factsAt (fabricByID (withLast spec l)) id).linkType = l.type := by
  obtain ⟨hmem, hlink⟩ := mem_groupLinks.mp hl
  have ha' := (sameInventory_withLast hmem).accepted ha
  have hlast : groupLinks (withLast spec l) id =
      (spec.links.erase l).filter
        (fun m => InGroup spec m ∧ (id = m.source ∨ id = m.target)) ++ [l] := by
    show (spec.links.erase l ++ [l]).filter
      (fun m => InGroup spec m ∧ (id = m.source ∨ id = m.target)) = _
    rw [List.filter_append, List.filter_cons_of_pos (by simpa using hlink), List.filter_nil]
  rw [factsAt_fabricByID_eq ha', hlast, List.foldl_append]
  exact ⟨rfl, rfl⟩

/-- **When published attributes do not depend on the order of links**: exactly if the group links
of every device have one type. -/
theorem published_order_free_iff (object : AcceleratorTopology)
    (hbuild : ∃ snapshot, build object.spec = .ok snapshot) :
    PublishedOrderFree object ↔ ∀ d ∈ object.spec.devices,
      ∀ l ∈ groupLinks object.spec d.id, ∀ m ∈ groupLinks object.spec d.id, l.type = m.type := by
  have ha := (build_isOk_iff object.spec).mp hbuild
  constructor
  · intro hfree d hd l hl m hm
    -- with `l` moved to the end the type is that of `l`, and likewise for `m`
    have htext : ∀ k ∈ groupLinks object.spec d.id,
        (attributesOf object.spec d).lookup "fabricType" = some (.string k.type.text) := by
      intro k hk
      have hmem := (mem_groupLinks.mp hk).1
      have hsame := hfree _ (sameInventory_withLast hmem) rfl
      rw [resourcesForTopology_eq_iff ha (sameInventory_withLast hmem) rfl] at hsame
      obtain ⟨hfound, htype⟩ := linkType_withLast ha hk
      rw [← hsame d hd, lookup_fabricType, if_pos hfound, htype]
    have hvalid : ∀ k ∈ groupLinks object.spec d.id, validLinkType k.type = true := by
      intro k hk
      obtain ⟨_, _, _, hvalid, _⟩ := ha.link_ok k (mem_groupLinks.mp hk).1
      exact hvalid
    have heq := (htext l hl).symm.trans (htext m hm)
    exact type_text_inj (hvalid l hl) (hvalid m hm)
      (AttributeValue.string.inj (Option.some.inj heq))
  · intro htypes spec' h hdevices
    rw [resourcesForTopology_eq_iff ha h hdevices]
    intro d hd
    have huntyped := untyped_factsAt_eq ha h hdevices d.id
    refine attributesOf_eq h.generation_eq huntyped fun hfound => ?_
    obtain ⟨l, hl, htype⟩ := exists_groupLink_type ha hfound
    obtain ⟨ls, hperm, hsame⟩ := groupLinks_reordered h hdevices d.id
    have hne : ls ≠ [] := by
      rintro rfl
      rw [← hperm.nil_eq] at hl
      cases hl
    obtain ⟨m, hm, htype'⟩ := FabricFacts.linkType_foldl hne .zero
    rw [factsAt_fabricByID_eq (h.accepted ha), FabricFacts.foldl_reoriented hsame, htype', htype]
    exact htypes d hd m (hperm.subset hm) l hl

end published

/-- Two devices of one fabric group with links of the given types. -/
def typedPair (types : List LinkType) : AcceleratorTopology :=
  sampleTopology 1 (sampleSpec
    [{ sampleDevice "gpu0" with fabricGroup := "g0" }, { sampleDevice "gpu1" with fabricGroup := "g0" }]
    (types.map fun type => ⟨"gpu0", "gpu1", type, 400, 1, .healthy⟩))

theorem typedPair_order_free :
    let : Kube := sampleKube
    let : FloatConversion := amd64
    PublishedOrderFree (typedPair [.nvlink]) := by
  intro kube conversion
  refine (published_order_free_iff (typedPair [.nvlink]) ⟨_, rfl⟩).mpr ?_
  decide +kernel

/-- With an NVLink and an HCCS link the published type is that of the later one. -/
theorem typedPair_order_matters :
    ¬ ∀ (_ : Kube) (_ : FloatConversion) (object : AcceleratorTopology),
      (∃ resources, resourcesForTopology (some object) = .ok resources) →
        PublishedOrderFree object := by
  intro h
  let : Kube := sampleKube
  let : FloatConversion := amd64
  have hsame : SameInventory (typedPair [.nvlink, .hccs]).spec (typedPair [.hccs, .nvlink]).spec := by
    refine ⟨rfl, rfl, List.Perm.refl _, _, ?_, List.forall₂_same.mpr fun _ _ => .inl rfl⟩
    exact List.Perm.swap _ _ _
  have heq := h sampleKube amd64 (typedPair [.nvlink, .hccs]) ⟨_, rfl⟩ _ hsame rfl
  revert heq
  decide +kernel

end AcceleratorFabric.Dra

namespace AcceleratorFabric.PolicyController

open AcceleratorFabric.Topology AcceleratorFabric.Dra

/-! ### Rounding is conservative -/

/-- The attribute an expression reads. -/
def CelSelector.attributeName : CelSelector → String
  | stringEq name _ => name
  | stringIn name _ => name
  | intAtLeast name _ => name
  | intAtMost name _ => name

/-- A healthy link of another type than PCIe to a device of the device's own fabric group. -/
structure GroupLink (spec : AcceleratorTopologySpec) (d : AcceleratorDevice)
    (l : AcceleratorLink) : Prop where
  mem : l ∈ spec.links
  type_ne : l.type ≠ .pcie
  healthy : l.health = .healthy
  group_ne : d.fabricGroup ≠ ""
  peer : ∃ p ∈ spec.devices, d.fabricGroup = p.fabricGroup ∧ Joins l d.id p.id

section conservative

variable [Kube]

theorem mem_groupLinks_iff {spec : AcceleratorTopologySpec} (ha : Accepted spec)
    {d : AcceleratorDevice} (hd : d ∈ spec.devices) {l : AcceleratorLink} :
    l ∈ groupLinks spec d.id ↔ GroupLink spec d l := by
  constructor
  · intro hl
    obtain ⟨hmem, ⟨htype, hhealth, hne, hsame⟩, hend⟩ := mem_groupLinks.mp hl
    obtain ⟨_, hsource, htarget, _⟩ := ha.link_ok l hmem
    obtain ⟨x, hx, hxid⟩ := List.mem_map.mp hsource
    obtain ⟨y, hy, hyid⟩ := List.mem_map.mp htarget
    rw [← hxid, ← hyid, groupOf_deviceByID ha hx, groupOf_deviceByID ha hy] at hsame
    rw [← hxid, groupOf_deviceByID ha hx] at hne
    rcases hend with hend | hend
    · obtain rfl : d = x := List.inj_on_of_nodup_map ha.ids_nodup hd hx (hend.trans hxid.symm)
      exact ⟨hmem, htype, hhealth, hne, y, hy, hsame, .inl ⟨hxid.symm, hyid.symm⟩⟩
    · obtain rfl : d = y := List.inj_on_of_nodup_map ha.ids_nodup hd hy (hend.trans hyid.symm)
      exact ⟨hmem, htype, hhealth, hsame ▸ hne, x, hx, hsame.symm, .inr ⟨hxid.symm, hyid.symm⟩⟩
  · rintro ⟨hmem, htype, hhealth, hne, p, hp, hsame, hjoin⟩
    exact mem_groupLinks_of_joins ha hd hp hne hsame hmem hjoin htype hhealth

variable [FloatConversion]

theorem groupLinks_ne_nil_of_fabricSelectors {topology : AcceleratorTopologySpec}
    (ha : Accepted topology) {spec : AcceleratorPlacementPolicySpec} {d : AcceleratorDevice}
    (hpass : ∀ s ∈ fabricSelectors spec, s.eval (publish topology d) = some true) :
    groupLinks topology d.id ≠ [] := by
  rw [← (factsAt_fabricByID ha d.id).1, ← Bool.not_eq_false]
  intro hnone
  rw [← evalSelectors_fabricSelectors_eq_none_iff topology spec d] at hnone
  rw [(evalSelectors_eq_true_iff _ _).mpr hpass] at hnone
  cases hnone

/-- **Fabric attributes are conservative**: a device that passes the fabric selectors of a
fabric-clique template has a group link, and each of its group links satisfies the policy. -/
theorem fabric_attributes_conservative (object : AcceleratorTopology)
    (policy : AcceleratorPlacementPolicy) (template : ResourceClaimTemplate) (device : Device)
    (hbuild : ∃ snapshot, build object.spec = .ok snapshot)
    (hmode : policy.spec.topologyMode = .fabricClique)
    (htemplate : resourceClaimTemplateForPolicy (some policy) = .ok template)
    (hfits : ⌈policy.spec.minimumLinkBandwidthGBps⌉ < 2 ^ 63) (hdevice : device ∈ published object)
    (hpass : ∀ s ∈ template.selectors,
      s.attributeName = "fabricHops" ∨ s.attributeName = "fabricBandwidthGBps" →
        s.eval device = some true) :
    ∃ d ∈ object.spec.devices, device = publish object.spec d ∧
      (∃ l, GroupLink object.spec d l) ∧
      ∀ l, GroupLink object.spec d l →
        policy.spec.minimumLinkBandwidthGBps ≤ l.bandwidthGBps ∧
          l.hops ≤ policy.spec.maxFabricHops := by
  have ha := (build_isOk_iff object.spec).mp hbuild
  obtain ⟨_, selectors, matchAttribute, hsel, hselectors, _⟩ := template_cases htemplate
  obtain ⟨rfl, rfl⟩ := (selectors_of_modeSelection hsel).1 hmode
  rw [published_eq ha] at hdevice
  obtain ⟨d, hd, rfl⟩ := List.mem_map.mp hdevice
  have hfabric : ∀ s ∈ fabricSelectors policy.spec, s.eval (publish object.spec d) = some true := by
    intro s hs
    refine hpass s (hselectors ▸ List.mem_append_right _ hs) ?_
    unfold fabricSelectors at hs
    rcases List.mem_append.mp hs with hs | hs
    · split_ifs at hs
      · rw [List.mem_singleton.mp hs]
        exact .inr rfl
      · cases hs
    · rw [List.mem_singleton.mp hs]
      exact .inl rfl
  refine ⟨d, hd, rfl, ?_, fun l hl => ?_⟩
  · obtain ⟨l, hl⟩ := List.exists_mem_of_ne_nil _ (groupLinks_ne_nil_of_fabricSelectors ha hfabric)
    exact ⟨l, (mem_groupLinks_iff ha hd).mp hl⟩
  · obtain ⟨hhops, hbandwidth⟩ :=
      groupLink_of_fabricSelectors ha hfabric ((mem_groupLinks_iff ha hd).mpr hl)
    exact ⟨hbandwidth hfits, hhops⟩

end conservative

/-- A fabric-clique policy for links of at least 399.5 GB/s. -/
def fractionalPolicy : AcceleratorPlacementPolicy :=
  { samplePolicyObject .fabricClique 2 with
    spec := { (samplePolicyObject .fabricClique 2).spec with minimumLinkBandwidthGBps := 799 / 2 } }

theorem linkedPair_conservative :
    let : Kube := sampleKube
    let : FloatConversion := amd64
    ∀ device ∈ published linkedPair, ∃ d ∈ linkedPair.spec.devices,
      device = publish linkedPair.spec d ∧ (∃ l, GroupLink linkedPair.spec d l) ∧
      ∀ l, GroupLink linkedPair.spec d l →
        fractionalPolicy.spec.minimumLinkBandwidthGBps ≤ l.bandwidthGBps ∧
          l.hops ≤ fractionalPolicy.spec.maxFabricHops := by
  intro kube conversion device hdevice
  refine fabric_attributes_conservative linkedPair fractionalPolicy _ device ⟨_, rfl⟩ rfl rfl ?_
    hdevice ?_
  · decide +kernel
  · revert device
    decide +kernel

end AcceleratorFabric.PolicyController
