import AcceleratorFabric.Providers

/-! # NVLink groups

`completeNVLinkGroups` walks over the connected components of the NVLink matrix and labels the
devices of those that are complete.  The worklist of a component grows while it is walked over;
the devices before the cursor are those whose neighbours are all in it.

* `collect_ends`: the walk over a component ends, and it has then collected the component.
* `completeNVLinkGroups_spec`: a device has a label exactly if its component is complete, and two
  labels are equal exactly for devices of one component. -/

namespace AcceleratorFabric.Discovery

open GoText

/-! ### The graph of a matrix -/

/-- A symmetric matrix with `n` rows of `n` flags. -/
structure Matrix.Symmetric (matrix : Matrix) (n : ℕ) : Prop where
  length_eq : matrix.length = n
  row_length : ∀ row ∈ matrix, row.length = n
  linked_comm : ∀ i < n, ∀ j < n, matrix.linked i j = matrix.linked j i

/-- The devices as vertices, joined where the matrix has a flag. -/
def nvlinkGraph (matrix : Matrix) : SimpleGraph ℕ :=
  SimpleGraph.fromRel fun i j => matrix.linked i j = true

section matrix

variable {matrix : Matrix} {n : ℕ}

theorem Matrix.Symmetric.row_length_le (h : matrix.Symmetric n) (i : ℕ) :
    (matrix.getD i []).length ≤ n := by
  rw [List.getD_eq_getElem?_getD]
  cases hrow : matrix[i]? with
  | none => simp
  | some row => exact (h.row_length row (List.mem_of_getElem? hrow)).le

theorem Matrix.Symmetric.lt_of_linked (h : matrix.Symmetric n) {i j : ℕ}
    (hij : matrix.linked i j = true) : i < n ∧ j < n := by
  have hrow := h.row_length_le i
  unfold Matrix.linked at hij
  constructor
  · by_contra hge
    rw [List.getD_eq_default matrix [] (by rw [h.length_eq]; omega)] at hij
    cases hij
  · by_contra hge
    rw [List.getD_eq_default _ false (by omega)] at hij
    cases hij

theorem Matrix.Symmetric.symm (h : matrix.Symmetric n) {i j : ℕ}
    (hij : matrix.linked i j = true) : matrix.linked j i = true := by
  obtain ⟨hi, hj⟩ := h.lt_of_linked hij
  rw [← h.linked_comm i hi j hj]
  exact hij

theorem Matrix.Symmetric.adj_iff (h : matrix.Symmetric n) {i j : ℕ} :
    (nvlinkGraph matrix).Adj i j ↔ i ≠ j ∧ matrix.linked i j = true := by
  unfold nvlinkGraph
  rw [SimpleGraph.fromRel_adj]
  constructor
  · rintro ⟨hne, hij | hji⟩
    · exact ⟨hne, hij⟩
    · exact ⟨hne, h.symm hji⟩
  · rintro ⟨hne, hij⟩
    exact ⟨hne, .inl hij⟩

end matrix

/-! ### Visiting the neighbours of a device -/

/-- The device was visited. -/
def Visited (visited : List Bool) (k : ℕ) : Prop := visited.getD k true = true

/-- The neighbours of a device that are still to be visited, in order. -/
def newNeighbors (row visited : List Bool) : List ℕ :=
  (row.zipIdx.filter (fun p => p.1 && !visited.getD p.2 true)).map Prod.snd

theorem mem_newNeighbors {row visited : List Bool} {k : ℕ} :
    k ∈ newNeighbors row visited ↔ row.getD k false = true ∧ ¬ Visited visited k := by
  unfold newNeighbors Visited
  rw [List.mem_map]
  constructor
  · rintro ⟨⟨flag, k⟩, hp, rfl⟩
    obtain ⟨hmem, hnew⟩ := List.mem_filter.mp hp
    rw [List.mem_zipIdx_iff_getElem?] at hmem
    simp only [Bool.and_eq_true, Bool.not_eq_true'] at hnew
    rw [List.getD_eq_getElem?_getD, hmem, Option.getD_some]
    exact ⟨hnew.1, by rw [hnew.2]; exact Bool.false_ne_true⟩
  · rintro ⟨hflag, hnew⟩
    rw [List.getD_eq_getElem?_getD] at hflag
    cases hrow : row[k]? with
    | none =>
        rw [hrow] at hflag
        cases hflag
    | some flag =>
        rw [hrow, Option.getD_some] at hflag
        refine ⟨(flag, k), List.mem_filter.mpr ⟨List.mem_zipIdx_iff_getElem?.mpr hrow, ?_⟩, rfl⟩
        simpa [hflag] using hnew

theorem nodup_newNeighbors (row visited : List Bool) : (newNeighbors row visited).Nodup := by
  have hindexes : (row.zipIdx.map Prod.snd).Nodup := by
    rw [List.zipIdx_map_snd]
    exact List.nodup_range'
  exact (List.filter_sublist.map Prod.snd).nodup hindexes

theorem visited_set {visited : List Bool} {k neighbor : ℕ} (h : neighbor < visited.length) :
    Visited (visited.set neighbor true) k ↔ k = neighbor ∨ Visited visited k := by
  unfold Visited
  rw [List.getD_eq_getElem?_getD, List.getElem?_set, List.getD_eq_getElem?_getD]
  by_cases hk : neighbor = k
  · subst hk
    simp [h]
  · have hk' : ¬ k = neighbor := fun e => hk e.symm
    simp [hk, hk']

/-- A scan of neighbours with different indexes visits those that were not visited before. -/
theorem visitNeighbors_eq : ∀ (pairs : List (Bool × ℕ)) (visited : List Bool)
    (component : List ℕ), (pairs.map Prod.snd).Nodup → (∀ p ∈ pairs, p.2 < visited.length) →
      (visitNeighbors visited component pairs).2 = component ++
        (pairs.filter (fun p => p.1 && !visited.getD p.2 true)).map Prod.snd ∧
      (visitNeighbors visited component pairs).1.length = visited.length ∧
      ∀ k, Visited (visitNeighbors visited component pairs).1 k ↔ Visited visited k ∨
        k ∈ (pairs.filter (fun p => p.1 && !visited.getD p.2 true)).map Prod.snd
  | [], visited, component, _, _ => by simp [visitNeighbors]
  | (flag, neighbor) :: row, visited, component, hnodup, hlt => by
      rw [List.map_cons, List.nodup_cons] at hnodup
      rw [List.forall_mem_cons] at hlt
      rw [visitNeighbors]
      split_ifs with hnew
      · -- the later neighbours have other indexes, so the mark does not matter for them
        have hsame : row.filter (fun p => p.1 && !(visited.set neighbor true).getD p.2 true) =
            row.filter (fun p => p.1 && !visited.getD p.2 true) := by
          apply List.filter_congr
          intro p hp
          have hne : neighbor ≠ p.2 := by
            intro he
            have hmem : p.2 ∈ row.map Prod.snd := List.mem_map_of_mem hp
            exact hnodup.1 (he ▸ hmem)
          rw [List.getD_eq_getElem?_getD, List.getElem?_set_ne hne, ← List.getD_eq_getElem?_getD]
        obtain ⟨hcomponent, hlength, hvisited⟩ := visitNeighbors_eq row (visited.set neighbor true)
          (component ++ [neighbor]) hnodup.2 (by rw [List.length_set]; exact hlt.2)
        rw [hsame] at hcomponent hvisited
        rw [List.filter_cons_of_pos (by simpa using hnew), List.map_cons]
        refine ⟨?_, ?_, ?_⟩
        · rw [hcomponent, List.append_assoc]
          rfl
        · rw [hlength, List.length_set]
        · intro k
          rw [hvisited, visited_set hlt.1, List.mem_cons]
          tauto
      · obtain ⟨hcomponent, hlength, hvisited⟩ :=
          visitNeighbors_eq row visited component hnodup.2 hlt.2
        rw [List.filter_cons_of_neg (by simpa using hnew)]
        exact ⟨hcomponent, hlength, hvisited⟩

/-- **What visiting a device does**: its new neighbours join the component. -/
theorem visitNeighbors_row {row visited : List Bool} (hlength : row.length ≤ visited.length)
    (component : List ℕ) :
    (visitNeighbors visited component row.zipIdx).2 = component ++ newNeighbors row visited ∧
      (visitNeighbors visited component row.zipIdx).1.length = visited.length ∧
      ∀ k, Visited (visitNeighbors visited component row.zipIdx).1 k ↔
        Visited visited k ∨ k ∈ newNeighbors row visited := by
  refine visitNeighbors_eq row.zipIdx visited component ?_ ?_
  · rw [List.zipIdx_map_snd]
    exact List.nodup_range'
  · rintro ⟨flag, k⟩ hp
    have hk := List.snd_lt_of_mem_zipIdx hp
    omega

/-! ### Collecting a component -/

/-- The state of the loop that completes a component. -/
structure CollectState where
  cursor : ℕ
  visited : List Bool
  component : List ℕ

/-- One round of the loop. -/
def CollectState.next (matrix : Matrix) (s : CollectState) : CollectState :=
  let (visited, component) := visitNeighbors s.visited s.component
    (matrix.getD (s.component.getD s.cursor 0) []).zipIdx
  ⟨s.cursor + 1, visited, component⟩

/-- The loop goes on. -/
def CollectRound (matrix : Matrix) (s s' : CollectState) : Prop :=
  s.cursor < s.component.length ∧ s' = s.next matrix

/-- The loop is over. -/
def CollectState.Ended (s : CollectState) : Prop := s.component.length ≤ s.cursor

/-- What holds in the loop from `start`, when the devices in `old` were visited before: the
neighbours of all devices before the cursor were collected. -/
structure Collecting (matrix : Matrix) (n : ℕ) (old : Set ℕ) (start : ℕ) (s : CollectState) :
    Prop where
  length_eq : s.visited.length = n
  nodup : s.component.Nodup
  fresh : ∀ k ∈ s.component, k < n ∧ k ∉ old
  visited_iff : ∀ k < n, Visited s.visited k ↔ k ∈ old ∨ k ∈ s.component
  start_mem : start ∈ s.component
  reached : ∀ k ∈ s.component, (nvlinkGraph matrix).Reachable start k
  closed : ∀ i ∈ s.component.take s.cursor, ∀ j, matrix.linked i j = true →
    j ∈ s.component ∨ j ∈ old
  cursor_le : s.cursor ≤ s.component.length

section collect

variable {matrix : Matrix} {n start : ℕ} {old : Set ℕ} {s : CollectState}

theorem Collecting.length_le (h : Collecting matrix n old start s) : s.component.length ≤ n := by
  have hsub : s.component ⊆ List.range n := fun k hk => List.mem_range.mpr (h.fresh k hk).1
  have hle := (h.nodup.subperm hsub).length_le
  rwa [List.length_range] at hle

theorem Collecting.next (hm : matrix.Symmetric n) (h : Collecting matrix n old start s)
    (hcursor : s.cursor < s.component.length) :
    Collecting matrix n old start (s.next matrix) := by
  have hcurrent : s.component.getD s.cursor 0 = s.component[s.cursor] :=
    List.getD_eq_getElem _ _ hcursor
  set current := s.component[s.cursor] with hdef
  have hmem : current ∈ s.component := List.getElem_mem _
  have hrow := hm.row_length_le current
  rw [← h.length_eq] at hrow
  obtain ⟨hcomponent, hlength, hvisited⟩ := visitNeighbors_row hrow s.component
  have hnew : ∀ {k}, k ∈ newNeighbors (matrix.getD current []) s.visited ↔
      matrix.linked current k = true ∧ ¬ Visited s.visited k := mem_newNeighbors
  have hnext : s.next matrix = ⟨s.cursor + 1,
      (visitNeighbors s.visited s.component (matrix.getD current []).zipIdx).1,
      s.component ++ newNeighbors (matrix.getD current []) s.visited⟩ := by
    unfold CollectState.next
    rw [hcurrent, ← hcomponent]
  rw [hnext]
  exact {
    length_eq := hlength.trans h.length_eq
    nodup := by
      refine h.nodup.append (nodup_newNeighbors _ _) ?_
      intro k hk hk'
      obtain ⟨hlinked, hfresh⟩ := hnew.mp hk'
      exact hfresh ((h.visited_iff k (hm.lt_of_linked hlinked).2).mpr (.inr hk))
    fresh := by
      intro k hk
      rcases List.mem_append.mp hk with hk | hk
      · exact h.fresh k hk
      · obtain ⟨hlinked, hfresh⟩ := hnew.mp hk
        have hlt := (hm.lt_of_linked hlinked).2
        exact ⟨hlt, fun hold => hfresh ((h.visited_iff k hlt).mpr (.inl hold))⟩
    visited_iff := by
      intro k hk
      rw [hvisited, h.visited_iff k hk, List.mem_append, or_assoc]
    start_mem := List.mem_append_left _ h.start_mem
    reached := by
      intro k hk
      rcases List.mem_append.mp hk with hk | hk
      · exact h.reached k hk
      · obtain ⟨hlinked, _⟩ := hnew.mp hk
        have hcur := h.reached current hmem
        by_cases he : current = k
        · rwa [← he]
        · exact hcur.trans (hm.adj_iff.mpr ⟨he, hlinked⟩).reachable
    closed := by
      intro i hi j hij
      rw [List.take_append_of_le_length (by exact hcursor), List.take_succ_eq_append_getElem hcursor,
        List.mem_append, List.mem_singleton] at hi
      rcases hi with hi | rfl
      · rcases h.closed i hi j hij with hj | hj
        · exact .inl (List.mem_append_left _ hj)
        · exact .inr hj
      · by_cases hseen : Visited s.visited j
        · rcases (h.visited_iff j (hm.lt_of_linked hij).2).mp hseen with hj | hj
          · exact .inr hj
          · exact .inl (List.mem_append_left _ hj)
        · exact .inl (List.mem_append_right _ (hnew.mpr ⟨hij, hseen⟩))
    cursor_le := by
      show s.cursor + 1 ≤ (s.component ++ _).length
      rw [List.length_append]
      omega }

/-- **The loop ends**: `n` rounds are enough. -/
theorem collect_ends (hm : matrix.Symmetric n) : ∀ (fuel : ℕ) (s : CollectState),
    Collecting matrix n old start s → n ≤ fuel + s.cursor →
      ∃ final, Relation.ReflTransGen (CollectRound matrix) s final ∧ final.Ended ∧
        Collecting matrix n old start final ∧
        collect matrix fuel s.cursor s.visited s.component = (final.visited, final.component)
  | 0, s, h, hfuel => by
      have hle := h.length_le
      refine ⟨s, .refl, ?_, h, rfl⟩
      unfold CollectState.Ended
      omega
  | fuel + 1, s, h, hfuel => by
      rw [collect]
      split_ifs with hcursor
      · have hcursor' : (s.next matrix).cursor = s.cursor + 1 := rfl
        obtain ⟨final, hrounds, hended, hfinal, hrun⟩ :=
          collect_ends hm fuel (s.next matrix) (h.next hm hcursor) (by omega)
        exact ⟨final, .head ⟨hcursor, rfl⟩ hrounds, hended, hfinal, hrun⟩
      · exact ⟨s, .refl, not_lt.mp hcursor, h, rfl⟩

/-- The component of a vertex, once its loop is over, when the vertices visited before are a union
of components. -/
theorem Collecting.mem_iff (hm : matrix.Symmetric n) (h : Collecting matrix n old start s)
    (hended : s.Ended) (hold : ∀ i j, (nvlinkGraph matrix).Adj i j → i ∈ old → j ∈ old) {k : ℕ} :
    k ∈ s.component ↔ (nvlinkGraph matrix).Reachable start k := by
  refine ⟨h.reached k, fun hk => ?_⟩
  -- the collected vertices are closed under links, and the start is one of them
  have hclosed := h.closed
  rw [List.take_of_length_le hended] at hclosed
  rw [SimpleGraph.reachable_iff_reflTransGen] at hk
  induction hk with
  | refl => exact h.start_mem
  | tail _ hadj ih =>
      rcases hclosed _ ih _ (hm.adj_iff.mp hadj).2 with hj | hj
      · exact hj
      · exact absurd (hold _ _ hadj.symm hj) (h.fresh _ ih).2

theorem collecting_start {visited : List Bool} (hlength : visited.length = n) (hstart : start < n)
    (hfresh : ¬ Visited visited start) : Collecting matrix n {k | Visited visited k} start
      ⟨0, visited.set start true, [start]⟩ where
  length_eq := by rw [List.length_set]; exact hlength
  nodup := List.nodup_singleton start
  fresh := by
    intro k hk
    rw [List.mem_singleton.mp hk]
    exact ⟨hstart, hfresh⟩
  visited_iff := by
    intro k _
    rw [visited_set (by omega), List.mem_singleton, or_comm]
    rfl
  start_mem := List.mem_singleton_self start
  reached := by
    intro k hk
    rw [List.mem_singleton.mp hk]
  closed := by
    intro i hi
    cases hi
  cursor_le := Nat.zero_le _

end collect

/-! ### Labels -/

/-- The component has at least two members, and every two of them are linked. -/
def CompleteComponent {G : SimpleGraph ℕ} (c : G.ConnectedComponent) : Prop :=
  c.supp.Nontrivial ∧ G.IsClique c.supp

theorem allLinked_iff (matrix : Matrix) : ∀ l : List ℕ,
    allLinked matrix l = true ↔ l.Pairwise (fun i j => matrix.linked i j = true)
  | [] => by simp [allLinked]
  | i :: rest => by
      rw [allLinked, Bool.and_eq_true, allLinked_iff matrix rest, List.pairwise_cons,
        List.all_eq_true]

theorem one_lt_length_iff {l : List ℕ} (hnodup : l.Nodup) :
    1 < l.length ↔ {k | k ∈ l}.Nontrivial := by
  match l, hnodup with
  | [], _ => simp
  | [a], _ => simp
  | a :: b :: rest, hnodup =>
      refine iff_of_true (by simp) ⟨a, by simp, b, by simp, ?_⟩
      rintro rfl
      simp at hnodup

/-- What the check of a collected component decides. -/
theorem complete_iff {matrix : Matrix} {n : ℕ} (hm : matrix.Symmetric n) {component : List ℕ}
    (hnodup : component.Nodup) {c : (nvlinkGraph matrix).ConnectedComponent}
    (hmem : ∀ k, k ∈ component ↔ k ∈ c.supp) :
    (1 < component.length ∧ allLinked matrix component = true) ↔ CompleteComponent c := by
  have hset : c.supp = {k | k ∈ component} := by
    ext k
    exact (hmem k).symm
  unfold CompleteComponent
  rw [hset]
  refine and_congr (one_lt_length_iff hnodup) ?_
  rw [allLinked_iff]
  constructor
  · intro hpairs i hi j hj hij
    have hsymm : Std.Symm (fun i j => matrix.linked i j = true) :=
      ⟨fun _ _ h => hm.symm h⟩
    exact hm.adj_iff.mpr ⟨hij, hpairs.forall hi hj hij⟩
  · intro hclique
    refine hnodup.pairwise_of_forall_ne ?_
    intro i hi j hj hij
    exact (hm.adj_iff.mp (hclique hi hj hij)).2

/-- The label of the `k`-th complete component. -/
def cliqueName (k : ℕ) : String := "nvlink-clique-" ++ formatInt k

theorem cliqueName_ne (k : ℕ) : cliqueName k ≠ "" := by
  intro h
  have := congrArg String.toList h
  simp [cliqueName] at this

theorem cliqueName_injective {k l : ℕ} (h : cliqueName k = cliqueName l) : k = l := by
  have hint := formatInt_injective ((String.append_right_inj _).mp h)
  exact_mod_cast hint

/-- Labelling the members of a component leaves the other labels as they are. -/
theorem getD_foldl_set (name : String) : ∀ (component : List ℕ) (groups : List String) (i : ℕ),
    i < groups.length →
      (component.foldl (fun groups device => groups.set device name) groups).getD i "" =
        if i ∈ component then name else groups.getD i ""
  | [], groups, i, _ => by simp
  | device :: component, groups, i, hi => by
      rw [List.foldl_cons, getD_foldl_set name component _ i (by rw [List.length_set]; exact hi)]
      by_cases hmem : i ∈ component
      · simp [hmem]
      · by_cases he : i = device
        · subst he
          simp [hmem, hi]
        · have he' : ¬ device = i := fun e => he e.symm
          simp [hmem, he, List.getElem?_set_ne he']

/-- What the labels mean after the first `count` starts: the visited devices are a union of
components, and among them exactly the members of complete components are labelled. -/
structure Labelling (matrix : Matrix) (n count : ℕ) (s : CliqueState) : Prop where
  groups_length : s.groups.length = n
  visited_length : s.visited.length = n
  seen : ∀ i < count, Visited s.visited i
  closed : ∀ i j, (nvlinkGraph matrix).Adj i j → Visited s.visited i → Visited s.visited j
  blank : ∀ i < n, ¬ Visited s.visited i → s.groups.getD i "" = ""
  labelled : ∀ i < n, Visited s.visited i → (s.groups.getD i "" ≠ "" ↔
    CompleteComponent ((nvlinkGraph matrix).connectedComponentMk i))
  same : ∀ i < n, ∀ j < n, s.groups.getD i "" ≠ "" → s.groups.getD j "" ≠ "" →
    (s.groups.getD i "" = s.groups.getD j "" ↔ (nvlinkGraph matrix).Reachable i j)
  named : ∀ i < n, s.groups.getD i "" ≠ "" →
    ∃ k < s.groupIndex, s.groups.getD i "" = cliqueName k

section labelling

variable {matrix : Matrix} {n count : ℕ} {s : CliqueState}

/-- A further component keeps the meaning of the labels: if it is complete, its members get a
label that no other device has. -/
theorem Labelling.extend (hm : matrix.Symmetric n) (h : Labelling matrix n count s)
    {component : List ℕ} {t : CliqueState}
    (hmem : ∀ k, k ∈ component ↔ (nvlinkGraph matrix).Reachable count k)
    (hfresh : ∀ k ∈ component, k < n ∧ ¬ Visited s.visited k)
    (hvisited : ∀ k < n, Visited t.visited k ↔ Visited s.visited k ∨ k ∈ component)
    (hlengths : t.groups.length = n ∧ t.visited.length = n) (hcount : count < n)
    (hnamed : CompleteComponent ((nvlinkGraph matrix).connectedComponentMk count) →
      s.groupIndex < t.groupIndex ∧
        ∀ i ∈ component, t.groups.getD i "" = cliqueName s.groupIndex)
    (hkept : ∀ i < n, i ∉ component → t.groups.getD i "" = s.groups.getD i "")
    (hblank : ¬ CompleteComponent ((nvlinkGraph matrix).connectedComponentMk count) →
      ∀ i ∈ component, t.groups.getD i "" = "")
    (hindex : s.groupIndex ≤ t.groupIndex) : Labelling matrix n (count + 1) t := by
  have hvalue : ∀ i ∈ component, t.groups.getD i "" ≠ "" → (s.groupIndex < t.groupIndex ∧
      t.groups.getD i "" = cliqueName s.groupIndex) := by
    intro i hi hne
    by_cases hc : CompleteComponent ((nvlinkGraph matrix).connectedComponentMk count)
    · exact ⟨(hnamed hc).1, (hnamed hc).2 i hi⟩
    · exact absurd (hblank hc i hi) hne
  -- a label of this component is not one of another device
  have hother : ∀ i ∈ component, t.groups.getD i "" ≠ "" → ∀ j < n, j ∉ component →
      t.groups.getD j "" ≠ "" → t.groups.getD i "" ≠ t.groups.getD j "" := by
    intro i hi hne j hj hjc hnej heq
    rw [hkept j hj hjc] at hnej heq
    obtain ⟨k, hk, hname⟩ := h.named j hj hnej
    rw [(hvalue i hi hne).2, hname] at heq
    have := cliqueName_injective heq
    omega
  exact {
    groups_length := hlengths.1
    visited_length := hlengths.2
    seen := by
      intro i hi
      rcases Nat.lt_succ_iff_lt_or_eq.mp hi with hi | rfl
      · exact (hvisited i (by omega)).mpr (.inl (h.seen i hi))
      · exact (hvisited i hcount).mpr (.inr ((hmem i).mpr (SimpleGraph.Reachable.refl i)))
    closed := by
      intro i j hadj hi
      obtain ⟨hi', hj⟩ := hm.lt_of_linked (hm.adj_iff.mp hadj).2
      rcases (hvisited i hi').mp hi with hi | hi
      · exact (hvisited j hj).mpr (.inl (h.closed i j hadj hi))
      · exact (hvisited j hj).mpr (.inr ((hmem j).mpr (((hmem i).mp hi).trans hadj.reachable)))
    blank := by
      intro i hi hnot
      rw [hvisited i hi, not_or] at hnot
      rw [hkept i hi hnot.2]
      exact h.blank i hi hnot.1
    labelled := by
      intro i hi hseen
      rcases (hvisited i hi).mp hseen with hold | hi'
      · have hnot : i ∉ component := fun hmem' => (hfresh i hmem').2 hold
        rw [hkept i hi hnot]
        exact h.labelled i hi hold
      · have hsame : (nvlinkGraph matrix).connectedComponentMk i =
            (nvlinkGraph matrix).connectedComponentMk count :=
          (SimpleGraph.ConnectedComponent.eq.mpr ((hmem i).mp hi')).symm
        rw [hsame]
        constructor
        · intro hne
          by_contra hc
          exact hne (hblank hc i hi')
        · intro hc
          rw [(hnamed hc).2 i hi']
          exact cliqueName_ne _
    same := by
      intro i hi j hj hnei hnej
      by_cases hic : i ∈ component
      · by_cases hjc : j ∈ component
        · refine iff_of_true ?_ (((hmem i).mp hic).symm.trans ((hmem j).mp hjc))
          rw [(hvalue i hic hnei).2, (hvalue j hjc hnej).2]
        · refine iff_of_false (hother i hic hnei j hj hjc hnej) ?_
          intro hreach
          exact hjc ((hmem j).mpr (((hmem i).mp hic).trans hreach))
      · by_cases hjc : j ∈ component
        · refine iff_of_false (fun heq => hother j hjc hnej i hi hic hnei heq.symm) ?_
          intro hreach
          exact hic ((hmem i).mpr (((hmem j).mp hjc).trans hreach.symm))
        · rw [hkept i hi hic] at hnei ⊢
          rw [hkept j hj hjc] at hnej ⊢
          exact h.same i hi j hj hnei hnej
    named := by
      intro i hi hne
      by_cases hic : i ∈ component
      · exact ⟨s.groupIndex, hvalue i hic hne⟩
      · rw [hkept i hi hic] at hne ⊢
        obtain ⟨k, hk, hname⟩ := h.named i hi hne
        exact ⟨k, by omega, hname⟩ }

theorem Labelling.step (hm : matrix.Symmetric n) (h : Labelling matrix n count s)
    (hcount : count < n) : Labelling matrix n (count + 1) (cliqueStep matrix s count) := by
  unfold cliqueStep
  split_ifs with hseen
  · refine { h with seen := ?_ }
    intro i hi
    rcases Nat.lt_succ_iff_lt_or_eq.mp hi with hi | rfl
    · exact h.seen i hi
    · exact hseen
  · have hstart : Collecting matrix n {k | Visited s.visited k} count
        ⟨0, s.visited.set count true, [count]⟩ := collecting_start h.visited_length hcount hseen
    obtain ⟨final, _, hended, hfinal, hrun⟩ :=
      collect_ends hm matrix.length _ hstart (by rw [hm.length_eq]; omega)
    simp only at hrun
    rw [hrun]
    have hmem : ∀ k, k ∈ final.component ↔ (nvlinkGraph matrix).Reachable count k :=
      fun k => hfinal.mem_iff hm hended h.closed
    have hcomplete := complete_iff hm hfinal.nodup
      (c := (nvlinkGraph matrix).connectedComponentMk count) (fun k => by
        rw [hmem, SimpleGraph.ConnectedComponent.mem_supp_iff, SimpleGraph.ConnectedComponent.eq]
        exact ⟨fun hk => hk.symm, fun hk => hk.symm⟩)
    have hset : ∀ i < n, (final.component.foldl (fun groups device =>
        groups.set device (cliqueName s.groupIndex)) s.groups).getD i "" =
          if i ∈ final.component then cliqueName s.groupIndex else s.groups.getD i "" :=
      fun i hi => getD_foldl_set _ _ _ i (by rw [h.groups_length]; exact hi)
    simp only
    split_ifs with hcheck
    · refine h.extend hm hmem hfinal.fresh hfinal.visited_iff ?_ hcount ?_ ?_ ?_ (Nat.le_succ _)
      · exact ⟨by rw [length_foldl_set]; exact h.groups_length, hfinal.length_eq⟩
      · intro _
        refine ⟨Nat.lt_succ_self _, fun i hi => ?_⟩
        exact (hset i (hfinal.fresh i hi).1).trans (if_pos hi)
      · intro i hi hnot
        exact (hset i hi).trans (if_neg hnot)
      · intro hnot
        exact absurd (hcomplete.mp hcheck) hnot
    · refine h.extend hm hmem hfinal.fresh hfinal.visited_iff ⟨h.groups_length, hfinal.length_eq⟩
        hcount ?_ ?_ ?_ le_rfl
      · intro hc
        exact absurd (hcomplete.mpr hc) hcheck
      · exact fun _ _ _ => rfl
      · intro _ i hi
        obtain ⟨hlt, hfresh⟩ := hfinal.fresh i hi
        exact h.blank i hlt hfresh

theorem labelling_start (hm : matrix.Symmetric n) : Labelling matrix n 0
    ⟨List.replicate matrix.length "", List.replicate matrix.length false, 0⟩ := by
  have hblank : ∀ i : ℕ, (List.replicate matrix.length "").getD i "" = "" := by
    intro i
    simp
  have hunseen : ∀ i < n, ¬ Visited (List.replicate matrix.length false) i := by
    intro i hi
    unfold Visited
    simp [hm.length_eq, hi]
  exact {
    groups_length := by rw [List.length_replicate]; exact hm.length_eq
    visited_length := by rw [List.length_replicate]; exact hm.length_eq
    seen := by
      intro i hi
      omega
    closed := by
      intro i j hadj hi
      have hlt := (hm.lt_of_linked (hm.adj_iff.mp hadj).2).1
      exact absurd hi (hunseen i hlt)
    blank := fun i _ _ => hblank i
    labelled := fun i hi hseen => absurd hseen (hunseen i hi)
    same := fun i _ _ _ hne => absurd (hblank i) hne
    named := fun i _ hne => absurd (hblank i) hne }

/-- The labels after the walk over the first starts. -/
theorem labelling_run (hm : matrix.Symmetric n) : ∀ count ≤ n, Labelling matrix n count
    ((List.range count).foldl (cliqueStep matrix)
      ⟨List.replicate matrix.length "", List.replicate matrix.length false, 0⟩) := by
  intro count
  induction count with
  | zero => exact fun _ => labelling_start hm
  | succ count ih =>
      intro hcount
      rw [List.range_succ, List.foldl_append]
      exact (ih (by omega)).step hm (by omega)

theorem labelling_groups (hm : matrix.Symmetric n) :
    ∃ s, Labelling matrix n n s ∧ s.groups = completeNVLinkGroups matrix := by
  refine ⟨_, labelling_run hm n le_rfl, ?_⟩
  unfold completeNVLinkGroups
  rw [hm.length_eq]

end labelling

/-- The label of a device. -/
def groupLabel (matrix : Matrix) (i : ℕ) : String := (completeNVLinkGroups matrix).getD i ""

/-- **Only complete components become groups.**  The walk over every component ends; a device has
a label exactly if its component has two members at least and all of them are linked; two labels
are equal exactly for devices of one component; so devices with one label are linked. -/
theorem completeNVLinkGroups_spec (matrix : Matrix) (n : ℕ) (hm : matrix.Symmetric n) :
    (∀ (visited : List Bool) (start : ℕ), visited.length = n → start < n →
      ¬ Visited visited start → ∃ final, Relation.ReflTransGen (CollectRound matrix)
          ⟨0, visited.set start true, [start]⟩ final ∧ final.Ended ∧
        collect matrix matrix.length 0 (visited.set start true) [start] =
          (final.visited, final.component)) ∧
    (completeNVLinkGroups matrix).length = n ∧
    (∀ i < n, groupLabel matrix i ≠ "" ↔
      CompleteComponent ((nvlinkGraph matrix).connectedComponentMk i)) ∧
    (∀ i < n, ∀ j < n, groupLabel matrix i ≠ "" → groupLabel matrix j ≠ "" →
      (groupLabel matrix i = groupLabel matrix j ↔
        (nvlinkGraph matrix).connectedComponentMk i = (nvlinkGraph matrix).connectedComponentMk j)) ∧
    ∀ i < n, ∀ j < n, i ≠ j → groupLabel matrix i ≠ "" →
      groupLabel matrix i = groupLabel matrix j → matrix.linked i j = true := by
  obtain ⟨s, hs, hgroups⟩ := labelling_groups hm
  have hlabel : ∀ i, groupLabel matrix i = s.groups.getD i "" := by
    intro i
    rw [groupLabel, hgroups]
  have hlabelled : ∀ i < n, groupLabel matrix i ≠ "" ↔
      CompleteComponent ((nvlinkGraph matrix).connectedComponentMk i) := by
    intro i hi
    rw [hlabel]
    exact hs.labelled i hi (hs.seen i hi)
  have hsame : ∀ i < n, ∀ j < n, groupLabel matrix i ≠ "" → groupLabel matrix j ≠ "" →
      (groupLabel matrix i = groupLabel matrix j ↔ (nvlinkGraph matrix).connectedComponentMk i =
        (nvlinkGraph matrix).connectedComponentMk j) := by
    intro i hi j hj hnei hnej
    rw [hlabel] at hnei hnej ⊢
    rw [hlabel, SimpleGraph.ConnectedComponent.eq]
    exact hs.same i hi j hj hnei hnej
  refine ⟨?_, ?_, hlabelled, hsame, ?_⟩
  · intro visited start hlength hstart hfresh
    obtain ⟨final, hrounds, hended, _, hrun⟩ := collect_ends hm matrix.length _
      (collecting_start hlength hstart hfresh) (by rw [hm.length_eq]; omega)
    exact ⟨final, hrounds, hended, hrun⟩
  · rw [← hgroups]
    exact hs.groups_length
  · intro i hi j hj hij hne heq
    have hcomponent := (hsame i hi j hj hne (heq ▸ hne)).mp heq
    have hclique := ((hlabelled i hi).mp hne).2
    exact (hm.adj_iff.mp (hclique rfl hcomponent.symm hij)).2

theorem completeNVLinkGroups_of_pair :
    groupLabel [[false, true, false], [true, false, false], [false, false, false]] 0 ≠ "" ∧
      CompleteComponent ((nvlinkGraph [[false, true, false], [true, false, false],
        [false, false, false]]).connectedComponentMk 0) := by
  obtain ⟨_, _, hlabelled, _⟩ := completeNVLinkGroups_spec
    [[false, true, false], [true, false, false], [false, false, false]] 3
    ⟨by decide, by decide, by decide⟩
  have hlabel : groupLabel [[false, true, false], [true, false, false], [false, false, false]] 0 ≠
      "" := by decide +kernel
  exact ⟨hlabel, (hlabelled 0 (by decide)).mp hlabel⟩

end AcceleratorFabric.Discovery
