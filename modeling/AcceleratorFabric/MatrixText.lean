import AcceleratorFabric.Providers

/-! # The matrix as `nvidia-smi` prints it

`nvidia-smi topo -m` prints a header with the names of the devices, then one line per device with
its relationships, and explanations around them.  `parseNVIDIATopology` takes every line for a row
that starts with a device name and has enough words, which the header has too as soon as there are
further columns; the row of the first device comes after it and replaces it.

`parseNVIDIATopology_renderText`: the parser reads back every matrix, whatever the layout. -/

namespace AcceleratorFabric.Discovery

open GoMap GoText GoScan

/-! ### Relationship codes -/

/-- The codes of a pair of devices; NVLink codes continue with anything. -/
inductive PairCode where
  | nv (suffix : String)
  | pix
  | pxb
  | phb
  | node
  | sys
deriving DecidableEq, Repr

namespace PairCode

def text : PairCode → String
  | nv suffix => "NV" ++ suffix
  | pix => "PIX"
  | pxb => "PXB"
  | phb => "PHB"
  | node => "NODE"
  | sys => "SYS"

/-- Type and hops that the code denotes. -/
def relation : PairCode → LinkType × ℤ
  | nv _ => (.nvlink, 1)
  | pix => (.pcie, 1)
  | pxb => (.pcie, 2)
  | phb => (.pcie, 3)
  | node => (.pcie, 4)
  | sys => (.pcie, 5)

def isNV : PairCode → Bool
  | nv _ => true
  | _ => false

theorem startsWith_text (code : PairCode) : startsWith code.text "NV" = code.isNV := by
  cases code with
  | nv suffix => exact startsWith_append "NV" suffix
  | pix => decide
  | pxb => decide
  | phb => decide
  | node => decide
  | sys => decide

theorem linkOfCode_text (code : PairCode) : linkOfCode code.text = some code.relation := by
  cases code with
  | nv suffix => exact if_pos (startsWith_append "NV" suffix)
  | pix => decide
  | pxb => decide
  | phb => decide
  | node => decide
  | sys => decide

end PairCode

/-! ### The printed lines -/

/-- The name of a device in the matrix. -/
def gpuName (index : ℕ) : String := "GPU" ++ formatInt index

/-- The first word of the line starts with `GPU`. -/
def IsGpuLine : List String → Bool
  | [] => false
  | first :: _ => startsWith first "GPU"

/-- The cells of a row: the codes, and anything on the diagonal. -/
def cellsOf (n : ℕ) (code : ℕ → ℕ → PairCode) (diagonal : ℕ → String) (i : ℕ) : List String :=
  (List.range n).map fun j => if j = i then diagonal i else (code i j).text

/-- The lines show the matrix of codes: apart from lines whose first word does not start with `GPU`
they are the header and then the rows in order, each with its further columns. -/
def ShowsMatrix (n : ℕ) (code : ℕ → ℕ → PairCode) (text : List (List String)) : Prop :=
  ∃ (diagonal : ℕ → String) (more : List String) (columns : ℕ → List String),
    text.filter IsGpuLine = ((List.range n).map gpuName ++ more) ::
      (List.range n).map fun i => gpuName i :: (cellsOf n code diagonal i ++ columns i)

/-- The square matrix of a relation. -/
def Matrix.ofFlags (n : ℕ) (f : ℕ → ℕ → Bool) : Matrix :=
  (List.range n).map fun i => (List.range n).map (f i)

/-- The NVLink relation as a matrix. -/
def nvMatrix (n : ℕ) (code : ℕ → ℕ → PairCode) : Matrix :=
  Matrix.ofFlags n fun i j => decide (i ≠ j) && (code i j).isNV

/-! ### Rows -/

theorem matrixRow_render (count : ℕ) (line : Line) :
    matrixRow count line.render = wordsRow count line.words := by
  rw [matrixRow, fields_render]

theorem wordsRow_of_not_gpu {count : ℕ} {words : List String} (h : IsGpuLine words = false) :
    wordsRow count words = none := by
  cases words with
  | nil => rfl
  | cons first rest =>
      have hfirst : startsWith first "GPU" = false := h
      simp [wordsRow, hfirst]

/-- A line that starts with a device name is a row if it has enough words. -/
theorem wordsRow_gpuName {count index : ℕ} (hint : count < 2 ^ 63) (hindex : index < count)
    (rest : List String) : wordsRow count (gpuName index :: rest) =
      if rest.length < count then none else some (index, rest.take count) := by
  have hparse : parseInt64 (trimStart (gpuName index) "GPU") = .ok (index : ℤ) := by
    rw [gpuName, trimStart_append, parseInt64_formatInt (by omega)]
  have hstarts : startsWith (gpuName index) "GPU" = true := startsWith_append _ _
  have hrange : (0 : ℤ) ≤ index ∧ (index : ℤ) < count := by omega
  simp [wordsRow, hparse, hstarts, hrange]

theorem length_cellsOf (n : ℕ) (code : ℕ → ℕ → PairCode) (diagonal : ℕ → String) (i : ℕ) :
    (cellsOf n code diagonal i).length = n := by
  simp [cellsOf]

/-- The row of a device in the text. -/
theorem wordsRow_cellsOf {n i : ℕ} (hint : n < 2 ^ 63) (hi : i < n) (code : ℕ → ℕ → PairCode)
    (diagonal : ℕ → String) (columns : List String) :
    wordsRow n (gpuName i :: (cellsOf n code diagonal i ++ columns)) =
      some (i, cellsOf n code diagonal i) := by
  have hlength := length_cellsOf n code diagonal i
  rw [wordsRow_gpuName hint hi, if_neg (by rw [List.length_append]; omega),
    List.take_append_of_le_length hlength.ge, List.take_of_length_le hlength.le]

/-- The header is no row, or a row of the first device. -/
theorem wordsRow_header {n : ℕ} (hpos : 1 ≤ n) (hint : n < 2 ^ 63) (more : List String) :
    wordsRow n ((List.range n).map gpuName ++ more) = none ∨
      ∃ row, wordsRow n ((List.range n).map gpuName ++ more) = some (0, row) := by
  obtain ⟨m, rfl⟩ : ∃ m, n = m + 1 := ⟨n - 1, by omega⟩
  rw [List.range_succ_eq_map, List.map_cons, List.cons_append, wordsRow_gpuName hint hpos]
  split_ifs
  · exact .inl rfl
  · exact .inr ⟨_, rfl⟩

/-- The entries that the lines add to the map of rows, in order. -/
theorem filterMap_matrixRow {n : ℕ} (hint : n < 2 ^ 63) (text : List Line) {header : List String}
    {code : ℕ → ℕ → PairCode} {diagonal : ℕ → String} {columns : ℕ → List String}
    (h : (text.map Line.words).filter IsGpuLine = header ::
      (List.range n).map fun i => gpuName i :: (cellsOf n code diagonal i ++ columns i)) :
    (text.map Line.render).filterMap (matrixRow n) =
      (wordsRow n header).toList ++
        (List.range n).map fun i => (i, cellsOf n code diagonal i) := by
  have hgpu : (text.map Line.render).filterMap (matrixRow n) =
      ((text.map Line.words).filter IsGpuLine).filterMap (wordsRow n) := by
    rw [List.filterMap_filter, List.filterMap_map, List.filterMap_map]
    refine List.filterMap_congr fun line _ => ?_
    show matrixRow n line.render = if IsGpuLine line.words then wordsRow n line.words else none
    rw [matrixRow_render]
    split_ifs with hline
    · rfl
    · exact wordsRow_of_not_gpu (by simpa using hline)
  have hrows : ((List.range n).map fun i =>
      gpuName i :: (cellsOf n code diagonal i ++ columns i)).filterMap (wordsRow n) =
        (List.range n).map fun i => (i, cellsOf n code diagonal i) := by
    rw [List.filterMap_map, ← List.filterMap_eq_map]
    refine List.filterMap_congr fun i hi => ?_
    exact wordsRow_cellsOf hint (List.mem_range.mp hi) code diagonal (columns i)
  rw [hgpu, h]
  cases hheader : wordsRow n header with
  | none => rw [List.filterMap_cons_none hheader, hrows, Option.toList_none, List.nil_append]
  | some row =>
      rw [List.filterMap_cons_some hheader, hrows, Option.toList_some, List.singleton_append]

/-- Of two entries of a literal for one key the later counts. -/
theorem lookup_literal_numbered {V : Type} (before : List (ℕ × V)) (f : ℕ → V) (k : ℕ) :
    ∀ n, (literal (before ++ (List.range n).map fun i => (i, f i))).lookup k =
      if k < n then some (f k) else (literal before).lookup k
  | 0 => by simp
  | n + 1 => by
      have hconcat : literal (before ++ (List.range (n + 1)).map fun i => (i, f i)) =
          (literal (before ++ (List.range n).map fun i => (i, f i))).insert n (f n) := by
        simp [literal, List.range_succ]
      rw [hconcat, lookup_insert_ite, lookup_literal_numbered before f k n]
      by_cases hk : k = n
      · rw [if_pos hk, if_pos (by omega), hk]
      · rw [if_neg hk]
        by_cases hlt : k < n
        · rw [if_pos hlt, if_pos (by omega)]
        · rw [if_neg hlt, if_neg (by omega)]

section shown

variable {n : ℕ} {code : ℕ → ℕ → PairCode} {text : List Line}

/-- The map of rows that the parser reads. -/
theorem lookup_matrixRows (hpos : 1 ≤ n) (hint : n < 2 ^ 63)
    (h : ShowsMatrix n code (text.map Line.words)) :
    ∃ diagonal, ∀ k, (matrixRows n (renderText text)).lookup k =
      if k < n then some (cellsOf n code diagonal k) else none := by
  obtain ⟨diagonal, more, columns, hlines⟩ := h
  have hne : text ≠ [] := by
    rintro rfl
    cases hlines
  refine ⟨diagonal, fun k => ?_⟩
  rw [matrixRows, lines_renderText hne, filterMap_matrixRow hint text hlines,
    lookup_literal_numbered]
  by_cases hk : k < n
  · rw [if_pos hk, if_pos hk]
  · rw [if_neg hk, if_neg hk]
    rcases wordsRow_header hpos hint more with hnone | ⟨row, hsome⟩
    · rw [hnone]
      rfl
    · rw [hsome]
      show (literal [(0, row)]).lookup k = none
      rw [literal, List.foldl_cons, List.foldl_nil, lookup_insert_ite, if_neg (by omega)]
      rfl

theorem card_keys_of_lookup {V : Type} {rows : GoMap ℕ V} {f : ℕ → V}
    (h : ∀ k, rows.lookup k = if k < n then some (f k) else none) : rows.keys.card = n := by
  have hkeys : rows.keys = Finset.range n := by
    ext k
    rw [Finmap.mem_keys, ← Finmap.lookup_isSome, h, Finset.mem_range]
    split_ifs with hk
    · simpa using hk
    · simpa using hk
  rw [hkeys, Finset.card_range]

theorem codeAt_of_lookup {rows : GoMap ℕ (List String)} {diagonal : ℕ → String}
    (h : ∀ k, rows.lookup k = if k < n then some (cellsOf n code diagonal k) else none)
    {i j : ℕ} (hi : i < n) (hj : j < n) (hne : i ≠ j) : codeAt rows i j = (code i j).text := by
  rw [codeAt, h, if_pos hi, Option.getD_some, List.getD_eq_getElem?_getD, cellsOf,
    List.getElem?_map, List.getElem?_range hj]
  show (if j = i then _ else _) = _
  rw [if_neg hne.symm]

end shown

/-! ### Flags -/

theorem Matrix.ofFlags_congr {n : ℕ} {f g : ℕ → ℕ → Bool}
    (h : ∀ i < n, ∀ j < n, f i j = g i j) : ofFlags n f = ofFlags n g := by
  refine List.map_congr_left fun i hi => List.map_congr_left fun j hj => ?_
  exact h i (List.mem_range.mp hi) j (List.mem_range.mp hj)

theorem Matrix.ofFlags_false (n : ℕ) :
    ofFlags n (fun _ _ => false) = List.replicate n (List.replicate n false) := by
  simp [ofFlags]

theorem modify_map_range {α : Type} (n j : ℕ) (f : ℕ → α) (g : α → α) :
    ((List.range n).map f).modify j g =
      (List.range n).map fun k => if k = j then g (f k) else f k := by
  apply List.ext_getElem?
  intro k
  rw [List.getElem?_modify, List.getElem?_map, List.getElem?_map]
  by_cases hk : k < n
  · rw [List.getElem?_range hk]
    by_cases hj : j = k
    · subst hj
      simp
    · simp [hj, Ne.symm hj]
  · have hnone : (List.range n)[k]? = none := by simpa using hk
    rw [hnone]
    rfl

theorem Matrix.modify_ofFlags (n i j : ℕ) (f : ℕ → ℕ → Bool) :
    (ofFlags n f).modify i (fun row => row.set j true) =
      ofFlags n fun a b => f a b || decide (a = i ∧ b = j) := by
  unfold ofFlags
  rw [modify_map_range]
  refine List.map_congr_left fun a _ => ?_
  by_cases ha : a = i
  · rw [if_pos ha, List.set_eq_modify, modify_map_range]
    refine List.map_congr_left fun b _ => ?_
    by_cases hb : b = j
    · simp [ha, hb]
    · simp [hb]
  · simp [ha]

theorem Matrix.join_ofFlags (n i j : ℕ) (f : ℕ → ℕ → Bool) :
    (ofFlags n f).join i j =
      ofFlags n fun a b => f a b || decide ((a, b) = (i, j) ∨ (b, a) = (i, j)) := by
  rw [join, modify_ofFlags, modify_ofFlags]
  refine ofFlags_congr fun a _ b _ => ?_
  simp [Bool.or_assoc, and_comm]

/-- The flag of `(a, b)` after the pairs of the rows. -/
theorem foldl_joinPair_ofFlags (rows : GoMap ℕ (List String)) (n : ℕ) :
    ∀ (pairs : List (ℕ × ℕ)) (f : ℕ → ℕ → Bool),
      pairs.foldl (joinPair rows) (.ofFlags n f) =
        Matrix.ofFlags n fun a b => f a b || pairs.any fun p =>
          startsWith (codeAt rows p.1 p.2) "NV" && decide ((a, b) = p ∨ (b, a) = p)
  | [], f => by simp
  | (i, j) :: pairs, f => by
      have hjoin : joinPair rows (.ofFlags n f) (i, j) = Matrix.ofFlags n fun a b => f a b ||
          (startsWith (codeAt rows i j) "NV" && decide ((a, b) = (i, j) ∨ (b, a) = (i, j))) := by
        unfold joinPair
        split_ifs with hcode
        · simp only [hcode, Bool.true_and]
          exact Matrix.join_ofFlags n i j f
        · simp [hcode]
      rw [List.foldl_cons, hjoin, foldl_joinPair_ofFlags rows n pairs]
      simp only [List.any_cons, Bool.or_assoc]

/-- The flags that the parser sets are those of the NVLink relation. -/
theorem nvlinkFlags_eq {n : ℕ} {code : ℕ → ℕ → PairCode} {rows : GoMap ℕ (List String)}
    (hsymm : ∀ i < n, ∀ j < n, code i j = code j i)
    (hcode : ∀ i < n, ∀ j < n, i ≠ j → codeAt rows i j = (code i j).text) :
    nvlinkFlags rows n = nvMatrix n code := by
  rw [nvlinkFlags, ← Matrix.ofFlags_false, foldl_joinPair_ofFlags, nvMatrix]
  refine Matrix.ofFlags_congr fun a ha b hb => ?_
  rw [Bool.false_or, Bool.eq_iff_iff, List.any_eq_true, Bool.and_eq_true, decide_eq_true_eq]
  constructor
  · rintro ⟨p, hp, hnv⟩
    obtain ⟨_, hlt, hpn⟩ := mem_pairsFrom.mp hp
    rw [hcode p.1 (by omega) p.2 (by omega) (by omega), PairCode.startsWith_text, Bool.and_eq_true,
      decide_eq_true_eq] at hnv
    obtain ⟨hnv, rfl | rfl⟩ := hnv
    · exact ⟨hlt.ne, hnv⟩
    · rw [hsymm a ha b hb]
      exact ⟨hlt.ne', hnv⟩
  · rintro ⟨hne, hnv⟩
    rcases Nat.lt_or_gt_of_ne hne with hlt | hlt
    · refine ⟨(a, b), mem_pairsFrom.mpr ⟨Nat.zero_le _, hlt, by omega⟩, ?_⟩
      simp [hcode a ha b hb hne, PairCode.startsWith_text, hnv]
    · refine ⟨(b, a), mem_pairsFrom.mpr ⟨Nat.zero_le _, hlt, by omega⟩, ?_⟩
      simp [hcode b hb a ha hne.symm, PairCode.startsWith_text, hsymm b hb a ha, hnv]

/-! ### The round trip -/

/-- **The parser inverts the printing of a matrix.**  For every symmetric matrix of codes and every
layout of a text that shows it, there is one link per pair of devices, row by row, with the type and
hops of its code, and the groups are those of the NVLink relation. -/
theorem parseNVIDIATopology_renderText {n : ℕ} (hpos : 1 ≤ n) (hint : n < 2 ^ 63)
    {code : ℕ → ℕ → PairCode} (hsymm : ∀ i < n, ∀ j < n, code i j = code j i) {text : List Line}
    (h : ShowsMatrix n code (text.map Line.words)) :
    parseNVIDIATopology (renderText text) n =
      .ok ((pairsFrom 0 n).map (fun p => relationLink p (code p.1 p.2).relation),
        completeNVLinkGroups (nvMatrix n code)) := by
  obtain ⟨diagonal, hrows⟩ := lookup_matrixRows hpos hint h
  have hcode : ∀ i < n, ∀ j < n, i ≠ j →
      codeAt (matrixRows n (renderText text)) i j = (code i j).text :=
    fun i hi j hj hne => codeAt_of_lookup hrows hi hj hne
  refine parseNVIDIATopology_eq_ok_iff.mpr ⟨card_keys_of_lookup hrows, ?_, ?_, ?_⟩
  · intro p hp
    obtain ⟨_, hlt, hpn⟩ := mem_pairsFrom.mp hp
    rw [hcode p.2 (by omega) p.1 (by omega) (by omega),
      hcode p.1 (by omega) p.2 (by omega) (by omega), hsymm p.1 (by omega) p.2 (by omega)]
  · rw [List.map_map]
    refine List.map_congr_left fun p hp => ?_
    obtain ⟨_, hlt, hpn⟩ := mem_pairsFrom.mp hp
    rw [pairLink, hcode p.1 (by omega) p.2 (by omega) (by omega), PairCode.linkOfCode_text]
    rfl
  · rw [nvlinkFlags_eq hsymm hcode]

/-- A word with a tab before it. -/
def tabbed (chars : List Char) (hne : chars ≠ []) (h : chars.any isSpace = false) :
    Blank × Word :=
  (⟨['\t'], by simp [isSpace], by decide⟩, ⟨chars, hne, by simpa using h⟩)

/-- A matrix of two devices as `nvidia-smi` prints it, with a further column. -/
def twoGpus : List Line :=
  let line (cells : List (Blank × Word)) (h : ∀ cell ∈ cells.tail, cell.1.chars ≠ []) : Line :=
    ⟨cells, ⟨[' '], by simp [isSpace], by decide⟩, h⟩
  let gpu0 := tabbed ['G', 'P', 'U', '0'] (by decide) (by decide)
  let gpu1 := tabbed ['G', 'P', 'U', '1'] (by decide) (by decide)
  let code := tabbed ['N', 'V', '4'] (by decide) (by decide)
  let self := tabbed ['X'] (by decide) (by decide)
  let affinity := tabbed ['N', 'U', 'M', 'A'] (by decide) (by decide)
  [line [gpu0, gpu1, affinity] (by decide), line [gpu0, self, code, affinity] (by decide),
    line [gpu1, code, self, affinity] (by decide), line [] (by decide), line [code] (by decide)]

/-- The header of `twoGpus` has enough words to be a row of the first device. -/
theorem twoGpus_parsed :
    ShowsMatrix 2 (fun _ _ => .nv "4") (twoGpus.map Line.words) ∧
      parseNVIDIATopology (renderText twoGpus) 2 =
        .ok ([⟨"gpu0", "gpu1", .nvlink, 0, 1, .unknown⟩], ["nvlink-clique-0", "nvlink-clique-0"]) := by
  have hshows : ShowsMatrix 2 (fun _ _ => .nv "4") (twoGpus.map Line.words) :=
    ⟨fun _ => "X", ["NUMA"], fun _ => ["NUMA"], by decide +kernel⟩
  refine ⟨hshows, ?_⟩
  rw [parseNVIDIATopology_renderText (by decide) (by decide) (fun _ _ _ _ => rfl) hshows]
  decide +kernel

end AcceleratorFabric.Discovery
