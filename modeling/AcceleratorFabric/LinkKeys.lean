import AcceleratorFabric.ParallelLinks

/-! # Link keys

`Build` detects duplicate links by their keys, the two endpoints and the type with a NUL character
between them.  Device IDs are arbitrary texts, so a NUL inside an ID can be read as a separator:
the keys of two links with different endpoints are equal exactly if one ID takes over a part of
the other (`linkKey_eq_iff`).

`build_accepts_valid_iff`: when `Build` accepts exactly the valid graphs. -/

namespace AcceleratorFabric.Topology

open AcceleratorFabric.PolicyController (Joins)

/-! ### Texts with a separator -/

/-- Two ways to read the same text as two parts around a separator. -/
theorem append_separator_eq_iff {α : Type} {sep : α} {a b c d : List α} :
    a ++ sep :: b = c ++ sep :: d ↔
      (a = c ∧ b = d) ∨ (∃ y, c = a ++ sep :: y ∧ b = y ++ sep :: d) ∨
        ∃ y, a = c ++ sep :: y ∧ d = y ++ sep :: b := by
  constructor
  · intro h
    rcases List.append_eq_append_iff.mp h with ⟨y, hc, hb⟩ | ⟨y, ha, hd⟩
    · cases y with
      | nil =>
          rw [List.append_nil] at hc
          exact .inl ⟨hc.symm, (List.cons.inj hb).2⟩
      | cons s y =>
          obtain ⟨rfl, hrest⟩ := List.cons.inj hb
          exact .inr (.inl ⟨y, hc, hrest⟩)
    · cases y with
      | nil =>
          rw [List.append_nil] at ha
          exact .inl ⟨ha, (List.cons.inj hd).2.symm⟩
      | cons s y =>
          obtain ⟨rfl, hrest⟩ := List.cons.inj hd
          exact .inr (.inr ⟨y, ha, hrest⟩)
  · rintro (⟨rfl, rfl⟩ | ⟨y, rfl, rfl⟩ | ⟨y, rfl, rfl⟩)
    · rfl
    · simp
    · simp

/-- A last part without the separator is determined. -/
theorem append_separator_inj {α : Type} {sep : α} {a b c d : List α} (hb : sep ∉ b) (hd : sep ∉ d) :
    a ++ sep :: b = c ++ sep :: d ↔ a = c ∧ b = d := by
  rw [append_separator_eq_iff]
  constructor
  · rintro (h | ⟨y, _, rfl⟩ | ⟨y, _, rfl⟩)
    · exact h
    · exact absurd (by simp) hb
    · exact absurd (by simp) hd
  · exact .inl

/-! ### Keys -/

/-- The separator. -/
def nul : Char := Char.ofNat 0

/-- Both endpoints in order, with the separator between them. -/
def endsText (l : AcceleratorLink) : List Char :=
  (orient l).source.toList ++ nul :: (orient l).target.toList

theorem toList_linkKey (l : AcceleratorLink) :
    (linkKey l).toList = endsText l ++ nul :: l.type.text.toList := by
  have hnul : "\x00".toList = [nul] := by decide
  unfold linkKey endsText orient swapEnds
  split_ifs
  · simp [hnul]
  · simp [hnul]

theorem nul_not_mem_type {t : LinkType} (h : validLinkType t = true) : nul ∉ t.text.toList := by
  cases t with
  | other text => cases h
  | nvlink => decide
  | hccs => decide
  | xgmi => decide
  | pcie => decide

/-- The links join the same two devices. -/
def SameEnds (l m : AcceleratorLink) : Prop := Joins m l.source l.target

instance (l m : AcceleratorLink) : Decidable (SameEnds l m) :=
  inferInstanceAs (Decidable (Joins _ _ _))

/-- The endpoints of `l` and `m` make the same text, since the first endpoint of `m` takes over
a part of the second endpoint of `l`. -/
def Overlap (l m : AcceleratorLink) : Prop :=
  ∃ part, (orient m).source.toList = (orient l).source.toList ++ nul :: part ∧
    (orient l).target.toList = part ++ nul :: (orient m).target.toList

theorem sameEnds_iff_orient {l m : AcceleratorLink} :
    SameEnds l m ↔ (orient l).source = (orient m).source ∧ (orient l).target = (orient m).target := by
  unfold SameEnds Joins orient swapEnds
  constructor
  · rintro (⟨hs, ht⟩ | ⟨hs, ht⟩)
    · rw [hs, ht]
      split_ifs
      · exact ⟨rfl, rfl⟩
      · exact ⟨hs.symm, ht.symm⟩
    · rw [hs, ht]
      rcases lt_trichotomy l.source l.target with h | h | h
      · rw [if_neg (not_lt.mpr h.le), if_pos h]
        exact ⟨rfl, rfl⟩
      · rw [if_neg (not_lt.mpr h.le), if_neg (not_lt.mpr h.ge), hs, ht]
        exact ⟨h, h.symm⟩
      · rw [if_pos h, if_neg (not_lt.mpr h.le)]
        exact ⟨hs.symm, ht.symm⟩
  · split_ifs
    · rintro ⟨hs, ht⟩
      exact .inl ⟨ht.symm, hs.symm⟩
    · rintro ⟨hs, ht⟩
      exact .inr ⟨hs.symm, ht.symm⟩
    · rintro ⟨hs, ht⟩
      exact .inr ⟨ht.symm, hs.symm⟩
    · rintro ⟨hs, ht⟩
      exact .inl ⟨hs.symm, ht.symm⟩

/-- **When two keys are equal.** -/
theorem linkKey_eq_iff {l m : AcceleratorLink} (hl : validLinkType l.type = true)
    (hm : validLinkType m.type = true) :
    linkKey l = linkKey m ↔
      l.type = m.type ∧ (SameEnds l m ∨ Overlap l m ∨ Overlap m l) := by
  have htext : l.type.text.toList = m.type.text.toList ↔ l.type = m.type :=
    ⟨fun h => type_text_inj hl hm (String.toList_inj.mp h), fun h => by rw [h]⟩
  rw [← String.toList_inj, toList_linkKey, toList_linkKey,
    append_separator_inj (nul_not_mem_type hl) (nul_not_mem_type hm), htext, and_comm,
    endsText, endsText, append_separator_eq_iff, String.toList_inj, String.toList_inj,
    ← sameEnds_iff_orient]
  rfl

/-! ### Acceptance -/

/-- The valid graphs: every check of `Build` taken at its word. -/
structure Valid [Kube] (spec : AcceleratorTopologySpec) : Prop where
  nodeName_ne : spec.nodeName ≠ ""
  generation_pos : 1 ≤ spec.observedGeneration
  devices_ne : spec.devices ≠ []
  device_ok : ∀ d ∈ spec.devices, validateDevice d = none
  ids_nodup : (spec.devices.map (·.id)).Nodup
  link_ok : ∀ l ∈ spec.links, LinkOk spec l
  links_distinct : spec.links.Pairwise (fun l m => ¬ (SameEnds l m ∧ l.type = m.type))

/-- No two links of one type have endpoints that make the same text. -/
def KeysUnambiguous (spec : AcceleratorTopologySpec) : Prop :=
  spec.links.Pairwise (fun l m => l.type = m.type → ¬ Overlap l m ∧ ¬ Overlap m l)

/-- The duplicate check compares keys, so it misses no duplicate but sees some that are none. -/
theorem keys_nodup_iff {spec : AcceleratorTopologySpec} (hok : ∀ l ∈ spec.links, LinkOk spec l) :
    (spec.links.map linkKey).Nodup ↔
      spec.links.Pairwise (fun l m => ¬ (SameEnds l m ∧ l.type = m.type)) ∧
        KeysUnambiguous spec := by
  have htype : ∀ l ∈ spec.links, validLinkType l.type = true := fun l hl => (hok l hl).2.2.2.1
  unfold KeysUnambiguous
  rw [List.Nodup, List.pairwise_map, ← List.pairwise_and_iff]
  constructor
  · refine List.Pairwise.imp_of_mem ?_
    intro l m hl hm h
    rw [Ne, linkKey_eq_iff (htype l hl) (htype m hm)] at h
    tauto
  · refine List.Pairwise.imp_of_mem ?_
    intro l m hl hm h
    rw [Ne, linkKey_eq_iff (htype l hl) (htype m hm)]
    tauto

theorem not_overlap_of_no_nul {l m : AcceleratorLink} (hl : nul ∉ l.source.toList)
    (ht : nul ∉ l.target.toList) : ¬ Overlap l m := by
  rintro ⟨part, _, htarget⟩
  have hmem : nul ∈ (orient l).target.toList := by
    rw [htarget]
    simp
  unfold orient swapEnds at hmem
  split_ifs at hmem
  · exact hl hmem
  · exact ht hmem

section accepted

variable [Kube] {spec : AcceleratorTopologySpec}

theorem accepted_iff_valid : Accepted spec ↔ Valid spec ∧ KeysUnambiguous spec := by
  constructor
  · intro h
    obtain ⟨hdistinct, hkeys⟩ := (keys_nodup_iff h.link_ok).mp h.keys_nodup
    exact ⟨⟨h.nodeName_ne, h.generation_pos, h.devices_ne, h.device_ok, h.ids_nodup, h.link_ok,
      hdistinct⟩, hkeys⟩
  · rintro ⟨h, hkeys⟩
    exact ⟨h.nodeName_ne, h.generation_pos, h.devices_ne, h.device_ok, h.ids_nodup, h.link_ok,
      (keys_nodup_iff h.link_ok).mpr ⟨h.links_distinct, hkeys⟩⟩

/-- Without NUL characters in the device IDs, `Build` accepts exactly the valid graphs. -/
theorem build_accepts_valid_of_no_nul (hids : ∀ d ∈ spec.devices, nul ∉ d.id.toList) :
    (∃ s, build spec = .ok s) ↔ Valid spec := by
  rw [build_isOk_iff, accepted_iff_valid]
  refine ⟨fun h => h.1, fun h => ⟨h, ?_⟩⟩
  have hends : ∀ l ∈ spec.links, nul ∉ l.source.toList ∧ nul ∉ l.target.toList := by
    intro l hl
    obtain ⟨_, hs, ht, _⟩ := h.link_ok l hl
    obtain ⟨d, hd, hsource⟩ := List.mem_map.mp hs
    obtain ⟨e, he, htarget⟩ := List.mem_map.mp ht
    rw [← hsource, ← htarget]
    exact ⟨hids d hd, hids e he⟩
  refine List.Pairwise.imp_of_mem (fun {l m} hl hm _ _ => ?_) h.links_distinct
  exact ⟨not_overlap_of_no_nul (hends l hl).1 (hends l hl).2,
    not_overlap_of_no_nul (hends m hm).1 (hends m hm).2⟩

end accepted

/-- **`Build` accepts exactly the valid graphs** if and only if the graph, when it is valid, has no
two links of one type whose endpoints make the same text. -/
theorem build_accepts_valid_iff [Kube] (spec : AcceleratorTopologySpec) :
    ((∃ s, build spec = .ok s) ↔ Valid spec) ↔ (Valid spec → KeysUnambiguous spec) := by
  rw [build_isOk_iff, accepted_iff_valid]
  constructor
  · exact fun h hvalid => (h.mpr hvalid).2
  · exact fun h => ⟨fun hboth => hboth.1, fun hvalid => ⟨hvalid, h hvalid⟩⟩

/-- Two links between four devices whose IDs share their parts. -/
def overlappingIDs : AcceleratorTopologySpec :=
  sampleSpec [sampleDevice "a", sampleDevice "b\x00c", sampleDevice "a\x00b", sampleDevice "c"]
    [⟨"a", "b\x00c", .nvlink, 400, 1, .healthy⟩, ⟨"a\x00b", "c", .nvlink, 400, 1, .healthy⟩]

/-- `Build` rejects a valid graph, since two of its links have the same key. -/
theorem overlappingIDs_rejected :
    ¬ ∀ (_ : Kube) (spec : AcceleratorTopologySpec),
      (∃ s, build spec = .ok s) ↔ Valid spec := by
  intro h
  let : Kube := sampleKube
  have hvalid : Valid overlappingIDs := by
    refine ⟨by decide, by decide, by decide, by decide, by decide, ?_, by decide⟩
    unfold LinkOk
    decide +kernel
  obtain ⟨s, hs⟩ := (h sampleKube overlappingIDs).mpr hvalid
  have hkeys := ((build_eq_ok_iff _ _).mp hs).1.keys_nodup
  exact absurd hkeys (by decide)

end AcceleratorFabric.Topology
