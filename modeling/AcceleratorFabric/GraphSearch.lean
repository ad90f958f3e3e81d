import Mathlib

/-! # Searching a finite graph

Two searches over an adjacency test `adj : α → α → Bool` on a list of vertices.

* `cliqueSearch` extends a clique by backtracking over the remaining candidates and gives up
  as soon as too few of them are left.  What it returns is a clique of the requested size, in
  candidate order (`cliqueSearch_sound`), and the first one there is (`cliqueSearch_first`).
* `breadthFirst` collects vertices from a start in breadth-first order until it has enough of
  them.  What it collects is distinct and reached from the start through collected vertices
  (`breadthFirst_sound`); every round collects one vertex, so the requested number of rounds is
  enough (`breadthFirst_ends`).  It collects the requested number exactly if so many are reached
  from the start (`breadthFirst_length_eq_iff`), that is, if the start's component in `graphOn` is
  that large (`le_ncard_component_iff`).

Both sets exist exactly if they do in the same graph under other names (`Naming`). -/

namespace AcceleratorFabric.GraphSearch

variable {α : Type} (adj : α → α → Bool)

/-! ### Cliques -/

/-- The two exits of a search step; `rest` is what the loop over the candidates finds. -/
def cutoff (requested : ℕ) (chosen candidates rest : List α) : List α :=
  if requested ≤ chosen.length then chosen
  else if chosen.length + candidates.length < requested then []
  else rest

/-- The loop over the candidates: each is tried as the next member, and skipped if it is not
adjacent to all members so far or if the search with it finds nothing. -/
def cliqueLoop (requested : ℕ) : List α → List α → List α
  | [], _ => []
  | c :: rest, chosen =>
      if chosen.all (fun m => adj c m) then
        let selected := cutoff requested (chosen ++ [c]) rest
          (cliqueLoop requested rest (chosen ++ [c]))
        if selected.isEmpty then cliqueLoop requested rest chosen else selected
      else cliqueLoop requested rest chosen

def cliqueSearch (requested : ℕ) (chosen candidates : List α) : List α :=
  cutoff requested chosen candidates (cliqueLoop adj requested candidates chosen)

/-- Every member is adjacent to all members before it. -/
def IsClique (l : List α) : Prop := l.Pairwise (fun m c => adj c m = true)

/-- What a successful search from `chosen` returns. -/
structure CliqueFrom (requested : ℕ) (chosen candidates found : List α) : Prop where
  extends_chosen : ∃ added, added.Sublist candidates ∧ found = chosen ++ added
  length_eq : found.length = requested
  clique : IsClique adj found

variable {adj}

theorem CliqueFrom.skip {requested : ℕ} {chosen rest found : List α} {c : α}
    (h : CliqueFrom adj requested chosen rest found) :
    CliqueFrom adj requested chosen (c :: rest) found := by
  obtain ⟨added, hsub, he⟩ := h.extends_chosen
  exact ⟨⟨added, hsub.cons c, he⟩, h.length_eq, h.clique⟩

theorem CliqueFrom.take {requested : ℕ} {chosen rest found : List α} {c : α}
    (h : CliqueFrom adj requested (chosen ++ [c]) rest found) :
    CliqueFrom adj requested chosen (c :: rest) found := by
  obtain ⟨added, hsub, he⟩ := h.extends_chosen
  refine ⟨⟨c :: added, hsub.cons_cons c, ?_⟩, h.length_eq, h.clique⟩
  rw [he, List.append_assoc]
  rfl

theorem isClique_concat {chosen : List α} {c : α} (h : IsClique adj chosen)
    (hc : ∀ m ∈ chosen, adj c m = true) : IsClique adj (chosen ++ [c]) := by
  unfold IsClique
  rw [List.pairwise_append]
  refine ⟨h, List.pairwise_singleton _ _, ?_⟩
  intro m hm x hx
  rw [List.mem_singleton.mp hx]
  exact hc m hm

/-- A search step returns nothing, the clique it was given, or what its loop found. -/
theorem cutoff_sound {requested : ℕ} {chosen candidates rest : List α}
    (hq : IsClique adj chosen) (hlen : chosen.length ≤ requested)
    (hrest : chosen.length < requested → rest ≠ [] →
      CliqueFrom adj requested chosen candidates rest)
    (hne : cutoff requested chosen candidates rest ≠ []) :
    CliqueFrom adj requested chosen candidates (cutoff requested chosen candidates rest) := by
  unfold cutoff at hne ⊢
  split_ifs at hne ⊢ with h1 h2
  · exact ⟨⟨[], List.nil_sublist _, (List.append_nil _).symm⟩, le_antisymm hlen h1, hq⟩
  · exact absurd rfl hne
  · exact hrest (not_le.mp h1) hne

theorem cliqueLoop_sound {requested : ℕ} : ∀ (candidates chosen : List α),
    IsClique adj chosen → chosen.length < requested →
      cliqueLoop adj requested candidates chosen ≠ [] →
        CliqueFrom adj requested chosen candidates (cliqueLoop adj requested candidates chosen)
  | [], _, _, _, hne => absurd rfl hne
  | c :: rest, chosen, hq, hlen, hne => by
      have hskip := cliqueLoop_sound rest chosen hq hlen
      simp only [cliqueLoop] at hne ⊢
      split_ifs at hne ⊢ with hall hempty
      · exact (hskip hne).skip
      · have hadj : ∀ m ∈ chosen, adj c m = true := fun m hm => List.all_eq_true.mp hall m hm
        have hq' := isClique_concat hq hadj
        have hlen' : (chosen ++ [c]).length ≤ requested := by
          rw [List.length_append]
          exact hlen
        refine (cutoff_sound hq' hlen' ?_ hne).take
        exact cliqueLoop_sound rest (chosen ++ [c]) hq'
      · exact (hskip hne).skip

/-- **The clique search returns cliques**: of the requested size and in candidate order. -/
theorem cliqueSearch_sound {requested : ℕ} {candidates : List α}
    (hne : cliqueSearch adj requested [] candidates ≠ []) :
    (cliqueSearch adj requested [] candidates).length = requested ∧
      (cliqueSearch adj requested [] candidates).Sublist candidates ∧
      IsClique adj (cliqueSearch adj requested [] candidates) := by
  have hq : IsClique adj ([] : List α) := List.Pairwise.nil
  have h := cutoff_sound hq (Nat.zero_le requested) (cliqueLoop_sound candidates [] hq) hne
  obtain ⟨added, hsub, he⟩ := h.extends_chosen
  refine ⟨h.length_eq, ?_, h.clique⟩
  rw [List.nil_append] at he
  unfold cliqueSearch
  rw [he]
  exact hsub

/-! ### Completeness of the clique search -/

section first

variable {κ : Type} [LinearOrder κ] {pos : α → κ} {requested : ℕ}

/-- `found` extends `chosen` by members that come no later than `added` in the lexicographic order
of positions. -/
def NoLater (pos : α → κ) (chosen added found : List α) : Prop :=
  ∃ first, found = chosen ++ first ∧ first.map pos ≤ added.map pos

theorem NoLater.take {chosen added found : List α} {c : α}
    (h : NoLater pos (chosen ++ [c]) added found) : NoLater pos chosen (c :: added) found := by
  obtain ⟨first, he, hle⟩ := h
  refine ⟨c :: first, by rw [he, List.append_assoc]; rfl, ?_⟩
  rw [List.map_cons, List.map_cons]
  exact List.cons_le_cons (pos c) hle

/-- A search step with a clique in reach finds one, if its loop does. -/
theorem cutoff_first {chosen candidates rest added : List α} (hsub : added.Sublist candidates)
    (hsize : (chosen ++ added).length = requested) (hlen : 0 < requested)
    (hrest : chosen.length < requested → rest ≠ [] ∧ NoLater pos chosen added rest) :
    cutoff requested chosen candidates rest ≠ [] ∧
      NoLater pos chosen added (cutoff requested chosen candidates rest) := by
  rw [List.length_append] at hsize
  unfold cutoff
  split_ifs with hfull hfew
  · have hadded : added = [] := List.length_eq_zero_iff.mp (by omega)
    refine ⟨?_, [], (List.append_nil _).symm, by rw [hadded]⟩
    rintro rfl
    rw [List.length_nil] at hfull
    omega
  · -- the missing members are among the candidates
    have := hsub.length_le
    omega
  · exact hrest (not_le.mp hfull)

/-- **The loop finds a clique if there is one**, and no clique that extends `chosen` comes before
it in the lexicographic order of positions. -/
theorem cliqueLoop_first : ∀ (candidates chosen added : List α),
    candidates.Pairwise (fun a b => pos a < pos b) → IsClique adj chosen →
    chosen.length < requested → added.Sublist candidates → IsClique adj (chosen ++ added) →
    (chosen ++ added).length = requested →
      cliqueLoop adj requested candidates chosen ≠ [] ∧
        NoLater pos chosen added (cliqueLoop adj requested candidates chosen)
  | [], chosen, added, _, _, hlen, hsub, _, hsize => by
      rw [List.sublist_nil.mp hsub, List.append_nil] at hsize
      omega
  | c :: rest, chosen, added, hpos, hq, hlen, hsub, hclique, hsize => by
      rw [List.pairwise_cons] at hpos
      have hstep : (chosen ++ [c]).length ≤ requested := by
        rw [List.length_append]
        exact hlen
      simp only [cliqueLoop]
      cases hsub with
      | cons_cons _ hsub =>
          -- `c` is the next member: it passes the test, and the search with it succeeds
          rename_i added
          have hadj : chosen.all (fun m => adj c m) = true := by
            rw [List.all_eq_true]
            intro m hm
            exact (List.pairwise_append.mp hclique).2.2 m hm c List.mem_cons_self
          rw [List.append_cons] at hclique hsize
          have hq' : IsClique adj (chosen ++ [c]) := (List.pairwise_append.mp hclique).1
          have hfound := cutoff_first hsub hsize (by omega) fun hlen' =>
            cliqueLoop_first rest (chosen ++ [c]) added hpos.2 hq' hlen' hsub hclique hsize
          rw [if_pos hadj, if_neg (by simpa using hfound.1)]
          exact ⟨hfound.1, hfound.2.take⟩
      | cons _ hsub =>
          have hskip := cliqueLoop_first rest chosen added hpos.2 hq hlen hsub hclique hsize
          split_ifs with hadj hempty
          · exact hskip
          · -- the search with `c` found a clique, which comes before all cliques without `c`
            have hq' := isClique_concat hq (fun m hm => List.all_eq_true.mp hadj m hm)
            have hne : cutoff requested (chosen ++ [c]) rest
                (cliqueLoop adj requested rest (chosen ++ [c])) ≠ [] := by simpa using hempty
            obtain ⟨more, _, he⟩ := (cutoff_sound hq' hstep
              (cliqueLoop_sound rest (chosen ++ [c]) hq') hne).extends_chosen
            refine ⟨hne, c :: more, by rw [he, List.append_assoc]; rfl, ?_⟩
            cases added with
            | nil =>
                rw [List.append_nil] at hsize
                omega
            | cons a added =>
                rw [List.map_cons, List.map_cons]
                exact le_of_lt (List.Lex.rel (hpos.1 a (hsub.subset List.mem_cons_self)))
          · exact hskip

/-- **The clique search is complete and canonical**: if some clique of the requested size is a
sublist of the candidates, the search finds the first such clique. -/
theorem cliqueSearch_first {candidates c : List α}
    (hpos : candidates.Pairwise (fun a b => pos a < pos b)) (hrequested : 0 < requested)
    (hsub : c.Sublist candidates) (hclique : IsClique adj c) (hsize : c.length = requested) :
    cliqueSearch adj requested [] candidates ≠ [] ∧
      (cliqueSearch adj requested [] candidates).map pos ≤ c.map pos := by
  have h : cliqueSearch adj requested [] candidates ≠ [] ∧
      NoLater pos [] c (cliqueSearch adj requested [] candidates) :=
    cutoff_first hsub hsize hrequested fun hlen =>
      cliqueLoop_first candidates [] c hpos List.Pairwise.nil hlen hsub hclique hsize
  obtain ⟨hne, first, he, hle⟩ := h
  refine ⟨hne, ?_⟩
  rw [he]
  exact hle

end first

/-! ### Breadth-first collection -/

variable (adj)

/-- Steps between vertices that leave only vertices of `s`. -/
def StepIn (s : List α) (a b : α) : Prop := a ∈ s ∧ adj a b = true

/-- Steps between vertices of `s`. -/
def StepWithin (s : List α) (a b : α) : Prop := a ∈ s ∧ b ∈ s ∧ adj a b = true

/-- What the loop keeps true of its three lists. -/
structure SearchState (vertices : List α) (start : α) (visited queue selected : List α) : Prop where
  nodup : (selected ++ queue).Nodup
  seen : ∀ x ∈ selected ++ queue, x ∈ visited
  known : ∀ x ∈ selected ++ queue, x ∈ vertices
  reached : ∀ x ∈ selected ++ queue, Relation.ReflTransGen (StepIn adj selected) start x

variable {adj}

theorem reached_mono {s t : List α} (h : s ⊆ t) {a b : α}
    (hr : Relation.ReflTransGen (StepIn adj s) a b) : Relation.ReflTransGen (StepIn adj t) a b :=
  Relation.ReflTransGen.mono (fun _ _ hs => ⟨h hs.1, hs.2⟩) _ _ hr

theorem within_of_reached {s : List α} {start x : α}
    (h : Relation.ReflTransGen (StepIn adj s) start x) (hx : x ∈ s) :
    Relation.ReflTransGen (StepWithin adj s) start x := by
  induction h with
  | refl => exact .refl
  | tail _ hstep ih => exact (ih hstep.1).tail ⟨hstep.1, hx, hstep.2⟩

theorem within_mono {s t : List α} (h : s ⊆ t) {a b : α}
    (hr : Relation.ReflTransGen (StepWithin adj s) a b) :
    Relation.ReflTransGen (StepWithin adj t) a b :=
  Relation.ReflTransGen.mono (fun _ _ hs => ⟨h hs.1, h hs.2.1, hs.2.2⟩) _ _ hr

/-- In an undirected graph, vertices reached from one start through `s` are connected in `s`. -/
theorem connected_of_reached {s : List α} {start : α}
    (hsymm : ∀ a b, adj a b = true → adj b a = true)
    (hreach : ∀ x ∈ s, Relation.ReflTransGen (StepIn adj s) start x) :
    ∀ a ∈ s, ∀ b ∈ s, Relation.ReflTransGen (StepWithin adj s) a b := by
  have hstep : Std.Symm (StepWithin adj s) := ⟨fun a b h => ⟨h.2.1, h.1, hsymm a b h.2.2⟩⟩
  intro a ha b hb
  exact (Std.Symm.symm _ _ (within_of_reached (hreach a ha) ha)).trans
    (within_of_reached (hreach b hb) hb)

theorem SearchState.init {vertices : List α} {start : α} (h : start ∈ vertices) :
    SearchState adj vertices start [start] [start] [] where
  nodup := List.nodup_singleton start
  seen := by simp
  known := by simpa using h
  reached := by
    intro x hx
    rw [List.nil_append, List.mem_singleton] at hx
    rw [hx]

variable (adj) [LinearOrder α]

/-- The vertices that a visit of `current` discovers, in order. -/
def discovered (vertices visited : List α) (current : α) : List α :=
  (vertices.filter (fun c => !visited.contains c && adj current c)).insertionSort (· ≤ ·)

/-- The loop: a round takes the head of the queue and enqueues what it discovers. -/
def breadthFirst (vertices : List α) (requested : ℕ) :
    ℕ → List α → List α → List α → List α
  | 0, _, _, selected => selected
  | _ + 1, _, [], selected => selected
  | fuel + 1, visited, current :: queue, selected =>
      if selected.length < requested then
        let new := discovered adj vertices visited current
        breadthFirst vertices requested fuel (visited ++ new) (queue ++ new) (selected ++ [current])
      else selected

variable {adj}

theorem mem_discovered {vertices visited : List α} {current x : α} :
    x ∈ discovered adj vertices visited current ↔
      x ∈ vertices ∧ x ∉ visited ∧ adj current x = true := by
  unfold discovered
  rw [(List.perm_insertionSort _ _).mem_iff]
  simp

theorem nodup_discovered {vertices : List α} (h : vertices.Nodup) (visited : List α)
    (current : α) : (discovered adj vertices visited current).Nodup := by
  unfold discovered
  rw [(List.perm_insertionSort _ _).nodup_iff]
  exact h.filter _

/-- One round. -/
theorem SearchState.step {vertices visited queue selected : List α} {start current : α}
    (hv : vertices.Nodup) (h : SearchState adj vertices start visited (current :: queue) selected) :
    SearchState adj vertices start (visited ++ discovered adj vertices visited current)
      (queue ++ discovered adj vertices visited current) (selected ++ [current]) := by
  have hlists : (selected ++ [current]) ++ (queue ++ discovered adj vertices visited current) =
      (selected ++ current :: queue) ++ discovered adj vertices visited current := by simp
  have hcur : current ∈ selected ++ current :: queue := by simp
  have hgrow : selected ⊆ selected ++ [current] := List.subset_append_left _ _
  refine ⟨?_, ?_, ?_, ?_⟩
  · rw [hlists, List.nodup_append']
    refine ⟨h.nodup, nodup_discovered hv visited current, ?_⟩
    intro x hx hd
    exact (mem_discovered.mp hd).2.1 (h.seen x hx)
  · rw [hlists]
    intro x hx
    rcases List.mem_append.mp hx with hx | hx
    · exact List.mem_append_left _ (h.seen x hx)
    · exact List.mem_append_right _ hx
  · rw [hlists]
    intro x hx
    rcases List.mem_append.mp hx with hx | hx
    · exact h.known x hx
    · exact (mem_discovered.mp hx).1
  · rw [hlists]
    intro x hx
    rcases List.mem_append.mp hx with hx | hx
    · exact reached_mono hgrow (h.reached x hx)
    · -- a discovered vertex is one step from the vertex just collected
      refine (reached_mono hgrow (h.reached current hcur)).tail ?_
      exact ⟨List.mem_append_right _ (List.mem_singleton.mpr rfl), (mem_discovered.mp hx).2.2⟩

theorem SearchState.run {vertices : List α} {start : α} (hv : vertices.Nodup) (requested : ℕ) :
    ∀ (fuel : ℕ) (visited queue selected : List α),
      SearchState adj vertices start visited queue selected →
        ∃ visited' queue', SearchState adj vertices start visited' queue'
          (breadthFirst adj vertices requested fuel visited queue selected)
  | 0, visited, queue, _, h => ⟨visited, queue, h⟩
  | _ + 1, visited, [], _, h => ⟨visited, [], h⟩
  | fuel + 1, visited, current :: queue, selected, h => by
      simp only [breadthFirst]
      split_ifs
      · exact SearchState.run hv requested fuel _ _ _ (h.step hv)
      · exact ⟨visited, current :: queue, h⟩

/-- **What the breadth-first loop collects** is distinct, and reached from the start through
collected vertices. -/
theorem breadthFirst_sound {vertices : List α} {start : α} (hv : vertices.Nodup)
    (hs : start ∈ vertices) (requested fuel : ℕ) :
    (breadthFirst adj vertices requested fuel [start] [start] []).Nodup ∧
      (∀ x ∈ breadthFirst adj vertices requested fuel [start] [start] [], x ∈ vertices ∧
        Relation.ReflTransGen
          (StepIn adj (breadthFirst adj vertices requested fuel [start] [start] [])) start x) := by
  have hinit : SearchState adj vertices start [start] [start] [] := SearchState.init hs
  obtain ⟨visited, queue, h⟩ := SearchState.run hv requested fuel _ _ _ hinit
  refine ⟨(List.nodup_append'.mp h.nodup).1, ?_⟩
  intro x hx
  exact ⟨h.known x (List.mem_append_left _ hx), h.reached x (List.mem_append_left _ hx)⟩

/-! ### Runs of the loop -/

/-- The lists of the loop: the vertices that are marked, that wait, and that are collected. -/
structure Frontier (α : Type) where
  visited : List α
  queue : List α
  selected : List α

/-- The condition of the loop is false. -/
def Frontier.Ended (requested : ℕ) (f : Frontier α) : Prop :=
  f.queue = [] ∨ requested ≤ f.selected.length

/-- One round, taken while a vertex waits and not enough are collected. -/
inductive Round (adj : α → α → Bool) (vertices : List α) (requested : ℕ) :
    Frontier α → Frontier α → Prop
  | take {visited queue selected : List α} {current : α} (h : selected.length < requested) :
      Round adj vertices requested ⟨visited, current :: queue, selected⟩
        ⟨visited ++ discovered adj vertices visited current,
          queue ++ discovered adj vertices visited current, selected ++ [current]⟩

/-- **The loop ends**: with as many rounds as there are vertices to collect, it comes to a state
where its condition is false. -/
theorem breadthFirst_ends (vertices : List α) (requested : ℕ) : ∀ (fuel : ℕ)
    (visited queue selected : List α), requested ≤ fuel + selected.length →
      ∃ final, Relation.ReflTransGen (Round adj vertices requested) ⟨visited, queue, selected⟩
          final ∧ final.Ended requested ∧
        final.selected = breadthFirst adj vertices requested fuel visited queue selected
  | 0, visited, queue, selected, h =>
      ⟨⟨visited, queue, selected⟩, .refl, .inr (by simpa using h), rfl⟩
  | _ + 1, visited, [], selected, _ => ⟨⟨visited, [], selected⟩, .refl, .inl rfl, rfl⟩
  | fuel + 1, visited, current :: queue, selected, h => by
      simp only [breadthFirst]
      split_ifs with hmore
      · have hlen : requested ≤ fuel + (selected ++ [current]).length := by
          rw [List.length_append, List.length_singleton]
          omega
        obtain ⟨final, hrun, hended, he⟩ := breadthFirst_ends vertices requested fuel
          (visited ++ discovered adj vertices visited current)
          (queue ++ discovered adj vertices visited current) (selected ++ [current]) hlen
        exact ⟨final, .head (.take hmore) hrun, hended, he⟩
      · exact ⟨⟨visited, current :: queue, selected⟩, .refl, .inr (not_lt.mp hmore), rfl⟩

/-- What the loop has explored: every marked vertex waits or is collected, and the neighbours of
collected vertices are marked. -/
structure Explored (adj : α → α → Bool) (vertices : List α) (requested : ℕ) (start : α)
    (f : Frontier α) : Prop where
  start_mem : start ∈ f.selected ++ f.queue
  marked : ∀ x ∈ f.visited, x ∈ f.selected ++ f.queue
  closed : ∀ x ∈ f.selected, ∀ y ∈ vertices, adj x y = true → y ∈ f.visited
  length_le : f.selected.length ≤ requested

theorem Explored.step {vertices : List α} {requested : ℕ} {start : α} {f g : Frontier α}
    (h : Explored adj vertices requested start f) (hr : Round adj vertices requested f g) :
    Explored adj vertices requested start g := by
  cases hr with
  | take hmore =>
      rename_i visited queue selected current
      have hlists : (selected ++ [current]) ++ (queue ++ discovered adj vertices visited current) =
          (selected ++ current :: queue) ++ discovered adj vertices visited current := by simp
      refine ⟨?_, ?_, ?_, ?_⟩
      · simp only [hlists]
        exact List.mem_append_left _ h.start_mem
      · simp only [hlists]
        intro x hx
        rcases List.mem_append.mp hx with hx | hx
        · exact List.mem_append_left _ (h.marked x hx)
        · exact List.mem_append_right _ hx
      · intro x hx y hy hxy
        rcases List.mem_append.mp hx with hx | hx
        · exact List.mem_append_left _ (h.closed x hx y hy hxy)
        · -- a neighbour of the vertex just collected is marked already or discovered now
          rw [List.mem_singleton.mp hx] at hxy
          by_cases hv : y ∈ visited
          · exact List.mem_append_left _ hv
          · exact List.mem_append_right _ (mem_discovered.mpr ⟨hy, hv, hxy⟩)
      · rw [List.length_append]
        exact hmore

theorem Explored.run {vertices : List α} {requested : ℕ} {start : α} {f g : Frontier α}
    (h : Explored adj vertices requested start f)
    (hrun : Relation.ReflTransGen (Round adj vertices requested) f g) :
    Explored adj vertices requested start g := by
  induction hrun with
  | refl => exact h
  | tail _ hr ih => exact ih.step hr

omit [LinearOrder α] in
/-- With an empty queue, everything that is reached from the start is collected. -/
theorem Explored.mem_selected {vertices : List α} {requested : ℕ} {start x : α} {f : Frontier α}
    (h : Explored adj vertices requested start f) (hqueue : f.queue = [])
    (hr : Relation.ReflTransGen (StepWithin adj vertices) start x) : x ∈ f.selected := by
  have hmarked := h.marked
  have hstart := h.start_mem
  rw [hqueue, List.append_nil] at hmarked hstart
  induction hr with
  | refl => exact hstart
  | tail _ hstep ih => exact hmarked _ (h.closed _ ih _ hstep.2.1 hstep.2.2)

/-- **The breadth-first loop is exhaustive**: it collects the requested number of vertices, or all
that are reached from the start. -/
theorem breadthFirst_exhausts (adj : α → α → Bool) (vertices : List α) (requested : ℕ) (start : α) :
    (breadthFirst adj vertices requested requested [start] [start] []).length ≤ requested ∧
      ((breadthFirst adj vertices requested requested [start] [start] []).length = requested ∨
        ∀ x, Relation.ReflTransGen (StepWithin adj vertices) start x →
          x ∈ breadthFirst adj vertices requested requested [start] [start] []) := by
  obtain ⟨final, hrun, hended, he⟩ : ∃ final, Relation.ReflTransGen (Round adj vertices requested)
      ⟨[start], [start], []⟩ final ∧ final.Ended requested ∧
        final.selected = breadthFirst adj vertices requested requested [start] [start] [] :=
    breadthFirst_ends vertices requested requested _ _ _ (Nat.le_add_right _ _)
  have hinit : Explored adj vertices requested start ⟨[start], [start], []⟩ :=
    ⟨by simp, by simp, by simp, Nat.zero_le _⟩
  have hfinal := hinit.run hrun
  rw [← he]
  refine ⟨hfinal.length_le, ?_⟩
  rcases hended with hqueue | hfull
  · exact .inr fun x hx => hfinal.mem_selected hqueue hx
  · exact .inl (le_antisymm hfinal.length_le hfull)

/-- The loop collects the requested number of vertices exactly if so many are reached from the
start. -/
theorem breadthFirst_length_eq_iff {vertices : List α} {start : α} (hv : vertices.Nodup)
    (hs : start ∈ vertices) (requested : ℕ) :
    (breadthFirst adj vertices requested requested [start] [start] []).length = requested ↔
      ∃ t : Finset α, t.card = requested ∧
        ∀ x ∈ t, Relation.ReflTransGen (StepWithin adj vertices) start x := by
  obtain ⟨hle, hall⟩ := breadthFirst_exhausts adj vertices requested start
  obtain ⟨hnodup, hreach⟩ :
      (breadthFirst adj vertices requested requested [start] [start] []).Nodup ∧ _ :=
    breadthFirst_sound hv hs requested requested
  constructor
  · intro hlen
    refine ⟨(breadthFirst adj vertices requested requested [start] [start] []).toFinset, ?_, ?_⟩
    · rw [List.toFinset_card_of_nodup hnodup, hlen]
    · intro x hx
      rw [List.mem_toFinset] at hx
      exact within_mono (fun y hy => (hreach y hy).1) (within_of_reached (hreach x hx).2 hx)
  · rintro ⟨t, hcard, ht⟩
    rcases hall with hlen | hall
    · exact hlen
    · have hsub : t ⊆ (breadthFirst adj vertices requested requested [start] [start] []).toFinset :=
        fun x hx => List.mem_toFinset.mpr (hall x (ht x hx))
      have hcards := Finset.card_le_card hsub
      rw [List.toFinset_card_of_nodup hnodup, hcard] at hcards
      exact le_antisymm hle hcards

/-! ### Components -/

omit [LinearOrder α]

/-- The graph of the adjacency test on the listed vertices. -/
def graphOn (adj : α → α → Bool) (vertices : List α) : SimpleGraph {x // x ∈ vertices} :=
  SimpleGraph.fromRel fun a b => adj a b = true

theorem reachable_graphOn_iff (hsymm : ∀ a b, adj a b = true → adj b a = true)
    {vertices : List α} (a b : {x // x ∈ vertices}) :
    (graphOn adj vertices).Reachable a b ↔
      Relation.ReflTransGen (StepWithin adj vertices) a.1 b.1 := by
  rw [SimpleGraph.reachable_iff_reflTransGen]
  constructor
  · intro h
    refine Relation.ReflTransGen.lift Subtype.val ?_ _ _ h
    rintro x y ⟨_, hxy | hyx⟩
    · exact ⟨x.2, y.2, hxy⟩
    · exact ⟨x.2, y.2, hsymm _ _ hyx⟩
  · obtain ⟨a, ha⟩ := a
    obtain ⟨b, hb⟩ := b
    intro h
    simp only at h
    induction h with
    | refl => exact .refl
    | tail _ hstep ih =>
        rename_i y z _
        by_cases hyz : y = z
        · subst hyz
          exact ih hb
        · refine (ih hstep.1).tail ⟨?_, .inl hstep.2.2⟩
          exact fun e => hyz (congrArg Subtype.val e)

theorem mem_of_reached {vertices : List α} {start x : α} (hs : start ∈ vertices)
    (h : Relation.ReflTransGen (StepWithin adj vertices) start x) : x ∈ vertices := by
  rcases Relation.ReflTransGen.cases_tail h with rfl | ⟨_, _, hstep⟩
  · exact hs
  · exact hstep.2.1

/-- The size of a component, counted by reachability. -/
theorem le_ncard_component_iff (hsymm : ∀ a b, adj a b = true → adj b a = true)
    {vertices : List α} {start : α} (hs : start ∈ vertices) (requested : ℕ) :
    requested ≤ ((graphOn adj vertices).connectedComponentMk ⟨start, hs⟩).supp.ncard ↔
      ∃ t : Finset α, t.card = requested ∧
        ∀ x ∈ t, Relation.ReflTransGen (StepWithin adj vertices) start x := by
  have himage : Subtype.val '' ((graphOn adj vertices).connectedComponentMk ⟨start, hs⟩).supp =
      {x | Relation.ReflTransGen (StepWithin adj vertices) start x} := by
    ext x
    simp only [Set.mem_image, SimpleGraph.ConnectedComponent.mem_supp_iff,
      SimpleGraph.ConnectedComponent.eq, Set.mem_ofPred_eq]
    constructor
    · rintro ⟨v, hv, rfl⟩
      exact (reachable_graphOn_iff hsymm _ _).mp hv.symm
    · intro hx
      exact ⟨⟨x, mem_of_reached hs hx⟩, ((reachable_graphOn_iff hsymm _ _).mpr hx).symm, rfl⟩
  have hfinite : {x | Relation.ReflTransGen (StepWithin adj vertices) start x}.Finite :=
    vertices.finite_toSet.subset fun _ hx => mem_of_reached hs hx
  rw [← Set.ncard_image_of_injective _ Subtype.val_injective, himage]
  constructor
  · intro h
    obtain ⟨t, ht, hcard⟩ := Set.exists_subset_card_eq h
    refine ⟨(hfinite.subset ht).toFinset, ?_, ?_⟩
    · rw [← Set.ncard_eq_toFinset_card t (hfinite.subset ht), hcard]
    · intro x hx
      exact ht ((hfinite.subset ht).mem_toFinset.mp hx)
  · rintro ⟨t, rfl, ht⟩
    rw [← Set.ncard_coe_finset t]
    exact Set.ncard_le_ncard ht hfinite

/-! ### Other names for the vertices -/

section naming

variable {ι : Type} {name : ι → α} {vertices : List α} {wired : ι → ι → Prop} {nodes : Finset ι}

/-- The listed vertices are the nodes under other names, and the test says which are wired. -/
structure Naming (name : ι → α) (adj : α → α → Bool) (vertices : List α) (wired : ι → ι → Prop)
    (nodes : Finset ι) : Prop where
  injective : Function.Injective name
  mem_iff : ∀ x, x ∈ vertices ↔ ∃ i ∈ nodes, name i = x
  adj_iff : ∀ i ∈ nodes, ∀ j ∈ nodes, i ≠ j → (adj (name i) (name j) = true ↔ wired i j)

/-- One step along a wire. -/
def Hop (wired : ι → ι → Prop) (nodes : Finset ι) (i j : ι) : Prop :=
  i ∈ nodes ∧ j ∈ nodes ∧ i ≠ j ∧ wired i j

variable [DecidableEq α]

theorem Naming.exists_image (h : Naming name adj vertices wired nodes) {t : Finset α}
    (ht : ∀ x ∈ t, x ∈ vertices) : ∃ s ⊆ nodes, s.image name = t := by
  refine Finset.subset_image_iff.mp fun x hx => ?_
  exact Finset.mem_image.mpr ((h.mem_iff x).mp (ht x hx))

/-- The vertices hold a clique exactly if the nodes do. -/
theorem Naming.exists_clique_iff (h : Naming name adj vertices wired nodes) (requested : ℕ) :
    (∃ t : Finset α, (∀ x ∈ t, x ∈ vertices) ∧ t.card = requested ∧
        ∀ a ∈ t, ∀ b ∈ t, a ≠ b → adj a b = true) ↔
      ∃ s ⊆ nodes, s.card = requested ∧ ∀ i ∈ s, ∀ j ∈ s, i ≠ j → wired i j := by
  constructor
  · rintro ⟨t, ht, hcard, hclique⟩
    obtain ⟨s, hs, rfl⟩ := h.exists_image ht
    rw [Finset.card_image_of_injective s h.injective] at hcard
    refine ⟨s, hs, hcard, fun i hi j hj hne => (h.adj_iff i (hs hi) j (hs hj) hne).mp ?_⟩
    exact hclique _ (Finset.mem_image_of_mem name hi) _ (Finset.mem_image_of_mem name hj)
      (h.injective.ne hne)
  · rintro ⟨s, hs, hcard, hclique⟩
    refine ⟨s.image name, ?_, by rw [Finset.card_image_of_injective s h.injective, hcard], ?_⟩
    · intro x hx
      obtain ⟨i, hi, rfl⟩ := Finset.mem_image.mp hx
      exact (h.mem_iff _).mpr ⟨i, hs hi, rfl⟩
    · intro a ha b hb hne
      obtain ⟨i, hi, rfl⟩ := Finset.mem_image.mp ha
      obtain ⟨j, hj, rfl⟩ := Finset.mem_image.mp hb
      have hij : i ≠ j := fun e => hne (congrArg name e)
      exact (h.adj_iff i (hs hi) j (hs hj) hij).mpr (hclique i hi j hj hij)

omit [DecidableEq α] in
theorem Naming.reached_iff (h : Naming name adj vertices wired nodes) {start i : ι} :
    Relation.ReflTransGen (StepWithin adj vertices) (name start) (name i) ↔
      Relation.ReflTransGen (Hop wired nodes) start i := by
  constructor
  · intro hr
    -- every vertex on the way has a node, and a step to itself is no hop
    have hall : ∀ x, Relation.ReflTransGen (StepWithin adj vertices) (name start) x →
        ∀ j, name j = x → Relation.ReflTransGen (Hop wired nodes) start j := by
      intro x hx
      induction hx with
      | refl =>
          intro j hj
          rw [h.injective hj]
      | tail _ hstep ih =>
          rintro k rfl
          obtain ⟨j, hj, rfl⟩ := (h.mem_iff _).mp hstep.1
          obtain ⟨k', hk, hname⟩ := (h.mem_iff _).mp hstep.2.1
          obtain rfl := h.injective hname
          by_cases hjk : j = k'
          · subst hjk
            exact ih j rfl
          · exact (ih j rfl).tail ⟨hj, hk, hjk, (h.adj_iff j hj k' hk hjk).mp hstep.2.2⟩
    exact hall _ hr i rfl
  · refine Relation.ReflTransGen.lift name ?_ _ _
    rintro j k ⟨hj, hk, hne, hwired⟩
    exact ⟨(h.mem_iff _).mpr ⟨j, hj, rfl⟩, (h.mem_iff _).mpr ⟨k, hk, rfl⟩,
      (h.adj_iff j hj k hk hne).mpr hwired⟩

/-- So many vertices are reached from a vertex exactly if so many nodes are from a node. -/
theorem Naming.exists_reached_iff (h : Naming name adj vertices wired nodes) (requested : ℕ) :
    (∃ start ∈ vertices, ∃ t : Finset α, t.card = requested ∧
        ∀ x ∈ t, Relation.ReflTransGen (StepWithin adj vertices) start x) ↔
      ∃ start ∈ nodes, ∃ s : Finset ι, s.card = requested ∧
        ∀ i ∈ s, Relation.ReflTransGen (Hop wired nodes) start i := by
  constructor
  · rintro ⟨x, hx, t, hcard, ht⟩
    obtain ⟨start, hstart, rfl⟩ := (h.mem_iff x).mp hx
    obtain ⟨s, _, rfl⟩ := h.exists_image fun y hy => mem_of_reached hx (ht y hy)
    rw [Finset.card_image_of_injective s h.injective] at hcard
    exact ⟨start, hstart, s, hcard, fun i hi =>
      h.reached_iff.mp (ht _ (Finset.mem_image_of_mem name hi))⟩
  · rintro ⟨start, hstart, s, hcard, hs⟩
    refine ⟨name start, (h.mem_iff _).mpr ⟨start, hstart, rfl⟩, s.image name, ?_, ?_⟩
    · rw [Finset.card_image_of_injective s h.injective, hcard]
    · intro x hx
      obtain ⟨i, hi, rfl⟩ := Finset.mem_image.mp hx
      exact h.reached_iff.mpr (hs i hi)

end naming

end AcceleratorFabric.GraphSearch
