import AcceleratorFabric.ClaimTemplate

/-! # Parallel links

A spec may join two devices by several links, as long as their types differ, but the adjacency
of a snapshot keeps one link for each pair.  The loop of `Build` runs through the links in the
order of their keys, so the link that stays is the one whose type has the greatest text
(`linkBetween_eq`, `isGreatest_of_getLast`).

`linkBetween_agrees_iff`: `LinkBetween` finds a qualifying link whenever the spec has one
exactly if that last link qualifies. -/

namespace AcceleratorFabric.Topology

open GoMap AcceleratorFabric.TopologyFit
open AcceleratorFabric.PolicyController (Joins)

/-! ### The link that stays -/

/-- The link as it is read from `a`. -/
def leaving (a : String) (l : AcceleratorLink) : AcceleratorLink :=
  if l.source = a then l else swapEnds l

theorem joins_swapEnds {l : AcceleratorLink} {a b : String} :
    Joins (swapEnds l) a b ↔ Joins l a b := by
  unfold Joins swapEnds
  tauto

theorem joins_orient {l : AcceleratorLink} {a b : String} : Joins (orient l) a b ↔ Joins l a b := by
  unfold orient
  split_ifs
  · exact joins_swapEnds
  · exact Iff.rfl

theorem leaving_orient {l : AcceleratorLink} {a b : String} (hl : Joins l a b) (hab : a ≠ b) :
    leaving a (orient l) = leaving a l := by
  have hswap : leaving a (swapEnds l) = leaving a l := by
    unfold leaving
    rcases hl with ⟨hs, ht⟩ | ⟨hs, ht⟩
    · have hback : (swapEnds l).source ≠ a := fun e => hab (e.symm.trans ht)
      rw [if_neg hback, if_pos hs]
      rfl
    · have hback : l.source ≠ a := fun e => hab (e.symm.trans hs)
      rw [if_pos (show (swapEnds l).source = a from ht), if_neg hback]
  unfold orient
  split_ifs
  · exact hswap
  · rfl

/-- One round of the link loop, seen from the pair `a`, `b`. -/
theorem lookup₂_addLink (s : SnapshotData) {l : AcceleratorLink} {a b : String} (hab : a ≠ b) :
    lookup₂ (addLink s l).adjacency a b =
      if Joins l a b then some (leaving a l) else lookup₂ s.adjacency a b := by
  simp only [addLink, lookup₂_setLink]
  by_cases hj : Joins l a b
  · rw [if_pos hj, ← leaving_orient hj hab]
    rcases joins_orient.mpr hj with ⟨hs, ht⟩ | ⟨hs, ht⟩
    · rw [if_neg (fun e => hab (e.1.trans ht)), if_pos ⟨hs.symm, ht.symm⟩, leaving, if_pos hs]
    · have hback : (orient l).source ≠ a := fun e => hab (e.symm.trans hs)
      rw [if_pos ⟨ht.symm, hs.symm⟩, leaving, if_neg hback]
  · rw [if_neg hj]
    rw [← joins_orient] at hj
    rw [if_neg (fun e => hj (.inr ⟨e.2.symm, e.1.symm⟩)),
      if_neg (fun e => hj (.inl ⟨e.1.symm, e.2.symm⟩))]

/-- The link loop keeps the last link that joins the pair. -/
theorem lookup₂_addLinks {a b : String} (hab : a ≠ b) : ∀ (ls : List AcceleratorLink)
    (s : SnapshotData), lookup₂ (addLinks s ls).adjacency a b =
      ((ls.filter (fun l => Joins l a b)).getLast?.map (leaving a)).or (lookup₂ s.adjacency a b)
  | [], _ => by simp [addLinks]
  | l :: ls, s => by
      have ih := lookup₂_addLinks hab ls (addLink s l)
      rw [lookup₂_addLink s hab] at ih
      rw [addLinks, List.foldl_cons, ← addLinks, ih, List.filter_cons]
      by_cases hj : Joins l a b
      · rw [if_pos hj, if_pos (by simpa using hj), List.getLast?_cons]
        cases (ls.filter (fun l => Joins l a b)).getLast? <;> rfl
      · rw [if_neg hj, if_neg (by simpa using hj)]

/-- The links that join the pair, in the order of the loop. -/
def joining (spec : AcceleratorTopologySpec) (a b : String) : List AcceleratorLink :=
  (sortLinks spec.links).filter (fun l => Joins l a b)

theorem mem_joining {spec : AcceleratorTopologySpec} {a b : String} {l : AcceleratorLink} :
    l ∈ joining spec a b ↔ l ∈ spec.links ∧ Joins l a b := by
  unfold joining
  rw [List.mem_filter, (sortLinks_perm spec.links).mem_iff, decide_eq_true_iff]

theorem linkBetween_eq [Kube] {spec : AcceleratorTopologySpec} {snapshot : Snapshot}
    (hbuild : build spec = .ok snapshot) {a b : String} (hab : a ≠ b) :
    snapshot.linkBetween a b = (joining spec a b).getLast?.map (leaving a) := by
  obtain ⟨_, hdata⟩ := (build_eq_ok_iff spec snapshot).mp hbuild
  have hempty : ∀ x y, lookup₂ (initial spec).adjacency x y = none := by
    intro x y
    simp [initial, lookup₂]
  unfold Snapshot.linkBetween
  rw [hdata, assemble, lookup₂_addLinks hab, lookup₂_addDevices _ _ _ hempty,
    Option.or_none]
  rfl

/-! ### The order of parallel links -/

/-- Both endpoints of a key, in order, with their separators. -/
def endsKey (a b : String) : String :=
  if b < a then b ++ "\x00" ++ a ++ "\x00" else a ++ "\x00" ++ b ++ "\x00"

theorem linkKey_of_joins {l : AcceleratorLink} {a b : String} (h : Joins l a b) (hab : a ≠ b) :
    linkKey l = endsKey a b ++ l.type.text := by
  unfold linkKey endsKey
  rcases h with ⟨rfl, rfl⟩ | ⟨rfl, rfl⟩
  · split_ifs <;> rfl
  · rcases lt_or_gt_of_ne hab with hlt | hgt
    · rw [if_pos hlt, if_neg (not_lt.mpr hlt.le)]
    · rw [if_neg (not_lt.mpr hgt.le), if_pos hgt]

theorem le_of_append_le_append {p s t : String} (h : p ++ s ≤ p ++ t) : s ≤ t := by
  by_contra hlt
  rw [not_le, String.lt_iff_toList_lt] at hlt
  have happ : p ++ t < p ++ s := by
    rw [String.lt_iff_toList_lt, String.toList_append, String.toList_append]
    exact List.append_left_lt hlt
  exact absurd h (not_le.mpr happ)

/-- Of the links that join the pair, `l` is one with the greatest type. -/
structure IsGreatest (spec : AcceleratorTopologySpec) (a b : String) (l : AcceleratorLink) :
    Prop where
  mem : l ∈ spec.links
  joins : Joins l a b
  greatest : ∀ m ∈ spec.links, Joins m a b → m.type.text ≤ l.type.text

theorem isGreatest_of_getLast {spec : AcceleratorTopologySpec} {a b : String} (hab : a ≠ b)
    {l : AcceleratorLink} (h : (joining spec a b).getLast? = some l) : IsGreatest spec a b l := by
  have hmem : l ∈ joining spec a b := List.mem_of_getLast? h
  obtain ⟨hl, hj⟩ := mem_joining.mp hmem
  refine ⟨hl, hj, ?_⟩
  intro m hm hjm
  have hsorted : (joining spec a b).Pairwise (fun x y => linkKey x ≤ linkKey y) :=
    (List.pairwise_insertionSort _ spec.links).filter _
  obtain ⟨init, hinit⟩ := List.getLast?_eq_some_iff.mp h
  have hmem' : m ∈ joining spec a b := mem_joining.mpr ⟨hm, hjm⟩
  rw [hinit, List.mem_append, List.mem_singleton] at hmem'
  rcases hmem' with hbefore | rfl
  · rw [hinit, List.pairwise_append] at hsorted
    have hkey := hsorted.2.2 m hbefore l (List.mem_singleton.mpr rfl)
    rw [linkKey_of_joins hjm hab, linkKey_of_joins hj hab] at hkey
    exact le_of_append_le_append hkey
  · exact le_refl _

/-- Parallel links of a valid spec differ in their types. -/
theorem IsGreatest.unique [Kube] {spec : AcceleratorTopologySpec} (ha : Accepted spec)
    {a b : String} (hab : a ≠ b) {l m : AcceleratorLink} (hl : IsGreatest spec a b l)
    (hm : IsGreatest spec a b m) : l = m := by
  have htext : l.type.text = m.type.text :=
    le_antisymm (hm.greatest l hl.mem hl.joins) (hl.greatest m hm.mem hm.joins)
  have hkey : linkKey l = linkKey m := by
    rw [linkKey_of_joins hl.joins hab, linkKey_of_joins hm.joins hab, htext]
  exact List.inj_on_of_nodup_map ha.keys_nodup hl.mem hm.mem hkey

/-! ### Lost links -/

theorem qualifiesFabricLink_leaving (a : String) (l : AcceleratorLink)
    (policy : AcceleratorPlacementPolicySpec) :
    qualifiesFabricLink (leaving a l) policy = qualifiesFabricLink l policy := by
  unfold leaving
  split_ifs <;> rfl

section lost

variable [Kube]

/-- `LinkBetween` finds a qualifying link exactly if the spec has one. -/
def LinkKept (spec : AcceleratorTopologySpec) (snapshot : Snapshot)
    (policy : AcceleratorPlacementPolicySpec) (a b : String) : Prop :=
  (∃ l, snapshot.linkBetween a b = some l ∧ qualifiesFabricLink l policy = true) ↔
    ∃ l ∈ spec.links, Joins l a b ∧ qualifiesFabricLink l policy = true

theorem linkBetween_qualifies_iff {spec : AcceleratorTopologySpec} {snapshot : Snapshot}
    (hbuild : build spec = .ok snapshot) (policy : AcceleratorPlacementPolicySpec) {a b : String}
    (hab : a ≠ b) :
    (∃ l, snapshot.linkBetween a b = some l ∧ qualifiesFabricLink l policy = true) ↔
      ∃ l, IsGreatest spec a b l ∧ qualifiesFabricLink l policy = true := by
  have ha := ((build_eq_ok_iff spec snapshot).mp hbuild).1
  rw [linkBetween_eq hbuild hab]
  constructor
  · rintro ⟨l, hl, hq⟩
    obtain ⟨last, hlast, rfl⟩ := Option.map_eq_some_iff.mp hl
    rw [qualifiesFabricLink_leaving] at hq
    exact ⟨last, isGreatest_of_getLast hab hlast, hq⟩
  · rintro ⟨l, hl, hq⟩
    have hne : joining spec a b ≠ [] := List.ne_nil_of_mem (mem_joining.mpr ⟨hl.mem, hl.joins⟩)
    have hlast := List.getLast?_eq_some_getLast hne
    have heq := hl.unique ha hab (isGreatest_of_getLast hab hlast)
    refine ⟨leaving a l, ?_, by rw [qualifiesFabricLink_leaving]; exact hq⟩
    rw [hlast, ← heq]
    rfl

/-- **When no link is lost**: for every valid spec, policy and pair of different devices,
`LinkBetween` finds a qualifying link exactly if the spec has one, if and only if a pair with a
qualifying link has one among its links of the greatest type. -/
theorem linkBetween_agrees_iff (spec : AcceleratorTopologySpec) (snapshot : Snapshot)
    (hbuild : build spec = .ok snapshot) (policy : AcceleratorPlacementPolicySpec) (a b : String)
    (hab : a ≠ b) : LinkKept spec snapshot policy a b ↔
      ((∃ l ∈ spec.links, Joins l a b ∧ qualifiesFabricLink l policy = true) →
        ∃ l, IsGreatest spec a b l ∧ qualifiesFabricLink l policy = true) := by
  unfold LinkKept
  rw [linkBetween_qualifies_iff hbuild policy hab]
  constructor
  · exact fun h => h.mpr
  · intro h
    refine ⟨?_, h⟩
    rintro ⟨l, hl, hq⟩
    exact ⟨l, hl.mem, hl.joins, hq⟩

end lost

/-- Two devices joined by an NVLink and, in the same spec, by PCIe. -/
def doublyLinked : AcceleratorTopologySpec :=
  sampleSpec [sampleDevice "gpu0", sampleDevice "gpu1"]
    [⟨"gpu0", "gpu1", .nvlink, 400, 1, .healthy⟩, ⟨"gpu0", "gpu1", .pcie, 64, 1, .healthy⟩]

theorem linkBetween_agrees_on_linked_pair :
    let : Kube := sampleKube
    ∃ snapshot, build PolicyController.linkedPair.spec = .ok snapshot ∧
      LinkKept PolicyController.linkedPair.spec snapshot (samplePolicy .fabricClique .failClosed)
        "gpu0" "gpu1" := by
  intro kube
  refine ⟨_, rfl, (linkBetween_agrees_iff _ _ rfl _ _ _ (by decide)).mpr ?_⟩
  intro _
  refine ⟨⟨"gpu0", "gpu1", .nvlink, 400, 1, .healthy⟩, ⟨?_, ?_, ?_⟩, by decide⟩
  · decide +kernel
  · decide +kernel
  · decide +kernel

/-- The PCIe link replaces the NVLink in the adjacency. -/
theorem doublyLinked_loses_link :
    ¬ ∀ (_ : Kube) (spec : AcceleratorTopologySpec) (snapshot : Snapshot),
      build spec = .ok snapshot → ∀ (policy : AcceleratorPlacementPolicySpec) (a b : String),
        a ∈ spec.devices.map (·.id) → b ∈ spec.devices.map (·.id) → a ≠ b →
          LinkKept spec snapshot policy a b := by
  intro h
  let : Kube := sampleKube
  obtain ⟨snapshot, hbuild⟩ : ∃ snapshot, build doublyLinked = .ok snapshot := ⟨_, rfl⟩
  have hkept := h sampleKube doublyLinked snapshot hbuild (samplePolicy .fabricClique .failClosed)
    "gpu0" "gpu1" (by decide) (by decide) (by decide)
  obtain ⟨l, hl, hq⟩ := hkept.mpr (by decide +kernel)
  have hlast : (joining doublyLinked "gpu0" "gpu1").getLast? =
      some ⟨"gpu0", "gpu1", .pcie, 64, 1, .healthy⟩ := by decide +kernel
  rw [linkBetween_eq hbuild (by decide), hlast] at hl
  cases hl
  revert hq
  decide

end AcceleratorFabric.Topology
