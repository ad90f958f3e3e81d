import Mathlib
import AcceleratorFabric.GoText

/-! # Text read by Go's string functions

The functions of `strings` and `strconv` that parsers of command output use: splitting into
lines and words, trimming, and decimal integers with their errors.

A `Line` is a list of words laid out with white space, and a text is a list of lines.  The
functions read back what was laid out (`fields_render`, `lines_renderText`), and a formatted
integer is parsed to itself (`parseInt64_formatInt`). -/

namespace AcceleratorFabric.GoScan

open GoText

/-- `unicode.IsSpace`. -/
def isSpace (c : Char) : Bool :=
  let n := c.toNat
  decide (9 ≤ n ∧ n ≤ 13) || decide (0x2000 ≤ n ∧ n ≤ 0x200a) ||
    n ∈ [0x20, 0x85, 0xA0, 0x1680, 0x2028, 0x2029, 0x202f, 0x205f, 0x3000]

/-- `strings.TrimSpace`. -/
def trimSpace (s : String) : String :=
  String.ofList ((s.toList.dropWhile isSpace).rdropWhile isSpace)

/-- `strings.Fields`: the words between white space. -/
def fields (s : String) : List String :=
  ((s.toList.splitOnP isSpace).filter (fun word => !word.isEmpty)).map String.ofList

/-- `strings.Split` at the ends of lines. -/
def lines (s : String) : List String := (s.toList.splitOn '\n').map String.ofList

/-- `strings.Split` at a character. -/
def split (separator : Char) (s : String) : List String :=
  (s.toList.splitOn separator).map String.ofList

/-- `strings.HasPrefix`. -/
def startsWith (s start : String) : Bool := start.toList.isPrefixOf s.toList

/-- `strings.TrimPrefix`. -/
def trimStart (s start : String) : String :=
  if startsWith s start then String.ofList (s.toList.drop start.toList.length) else s

/-- The two ways in which `strconv` refuses a number. -/
inductive NumError where
  | invalidSyntax
  | outOfRange
deriving DecidableEq, Repr

/-- The text of a `strconv.NumError` for the function and its argument. -/
def NumError.message [IsPrint] (function argument : String) : NumError → String
  | invalidSyntax => "strconv." ++ function ++ ": parsing " ++ quote argument ++ ": invalid syntax"
  | outOfRange => "strconv." ++ function ++ ": parsing " ++ quote argument ++
      ": value out of range"

/-- The loop of `strconv.ParseUint` over the digits: it stops at the first character that is not a
digit, or when the number so far is no `uint64`. -/
def parseDigits : ℕ → List Char → Except NumError ℕ
  | n, [] => .ok n
  | n, c :: rest =>
      if !c.isDigit then .error .invalidSyntax
      else if 2 ^ 64 ≤ 10 * n + (c.toNat - '0'.toNat) then .error .outOfRange
      else parseDigits (10 * n + (c.toNat - '0'.toNat)) rest

/-- A decimal `int64` with an optional sign: `strconv.ParseInt(s, 10, 64)`, and `strconv.Atoi` on
64-bit platforms. -/
def parseInt64 (s : String) : Except NumError ℤ :=
  let (negative, digits) := match s.toList with
    | '-' :: rest => (true, rest)
    | '+' :: rest => (false, rest)
    | rest => (false, rest)
  if digits.isEmpty then .error .invalidSyntax
  else match parseDigits 0 digits with
    | .error e => .error e
    | .ok magnitude =>
        let value : ℤ := if negative then -(magnitude : ℤ) else magnitude
        if -2 ^ 63 ≤ value ∧ value ≤ 2 ^ 63 - 1 then .ok value else .error .outOfRange

example : parseInt64 "-42" = .ok (-42) := by decide +kernel

example : fields "GPU0   X\tNV4 " = ["GPU0", "X", "NV4"] := by decide +kernel

/-! ### Words of a list of characters -/

/-- The words of `fields` as lists of characters. -/
def wordsOf (cs : List Char) : List (List Char) :=
  (cs.splitOnP isSpace).filter fun word => !word.isEmpty

theorem wordsOf_append_space (before : List Char) {c : Char} (hc : isSpace c = true)
    (cs : List Char) : wordsOf (before ++ c :: cs) = wordsOf before ++ wordsOf cs := by
  unfold wordsOf
  rw [List.splitOnP_append_cons before cs hc, List.filter_append]

theorem wordsOf_blank_append : ∀ {gap : List Char} (cs : List Char),
    (∀ c ∈ gap, isSpace c = true) → wordsOf (gap ++ cs) = wordsOf cs
  | [], _, _ => rfl
  | c :: gap, cs, h => by
      have hcons := wordsOf_append_space [] (h c List.mem_cons_self) (gap ++ cs)
      rw [List.nil_append] at hcons
      have ih := wordsOf_blank_append cs fun d hd => h d (List.mem_cons_of_mem c hd)
      rw [List.cons_append, hcons, ih]
      rfl

theorem wordsOf_blank {gap : List Char} (h : ∀ c ∈ gap, isSpace c = true) : wordsOf gap = [] := by
  rw [← List.append_nil gap, wordsOf_blank_append [] h]
  rfl

theorem wordsOf_word {word : List Char} (hne : word ≠ []) (h : ∀ c ∈ word, isSpace c = false) :
    wordsOf word = [word] := by
  unfold wordsOf
  rw [List.splitOnP_eq_singleton h]
  simp [hne]

/-! ### Lines laid out with white space -/

/-- White space within a line. -/
structure Blank where
  chars : List Char
  space : ∀ c ∈ chars, isSpace c = true
  no_newline : '\n' ∉ chars

/-- A word. -/
structure Word where
  chars : List Char
  ne_nil : chars ≠ []
  no_space : ∀ c ∈ chars, isSpace c = false

/-- Words, each after its white space, and the white space at the end of the line.  Only the first
word may stand without white space before it. -/
structure Line where
  cells : List (Blank × Word)
  trail : Blank
  separated : ∀ cell ∈ cells.tail, cell.1.chars ≠ []

namespace Line

/-- The characters of cells and of the end of the line. -/
def charsOf (cells : List (Blank × Word)) (trail : Blank) : List Char :=
  cells.flatMap (fun cell => cell.1.chars ++ cell.2.chars) ++ trail.chars

def chars (line : Line) : List Char := charsOf line.cells line.trail

def render (line : Line) : String := String.ofList line.chars

/-- The words of the line. -/
def words (line : Line) : List String := line.cells.map fun cell => String.ofList cell.2.chars

end Line

/-- Lines with the ends of lines between them. -/
def renderText (text : List Line) : String :=
  String.ofList (['\n'].intercalate (text.map Line.chars))

theorem Word.no_newline (word : Word) : '\n' ∉ word.chars := by
  intro h
  exact absurd (word.no_space _ h) (by decide)

theorem Line.charsOf_cons (cell : Blank × Word) (cells : List (Blank × Word)) (trail : Blank) :
    charsOf (cell :: cells) trail = cell.1.chars ++ (cell.2.chars ++ charsOf cells trail) := by
  simp [charsOf]

/-- After a word comes white space or the end. -/
theorem Line.charsOf_eq {cells : List (Blank × Word)} (trail : Blank)
    (h : ∀ cell ∈ cells, cell.1.chars ≠ []) :
    charsOf cells trail = [] ∨ ∃ c cs, charsOf cells trail = c :: cs ∧ isSpace c = true := by
  cases cells with
  | nil =>
      cases htrail : trail.chars with
      | nil => exact .inl htrail
      | cons c cs =>
          refine .inr ⟨c, cs, htrail, trail.space c ?_⟩
          rw [htrail]
          exact List.mem_cons_self
  | cons cell cells =>
      obtain ⟨c, cs, hgap⟩ := List.exists_cons_of_ne_nil (h cell List.mem_cons_self)
      refine .inr ⟨c, cs ++ (cell.2.chars ++ charsOf cells trail), ?_, ?_⟩
      · rw [charsOf_cons, hgap, List.cons_append]
      · exact cell.1.space c (by rw [hgap]; exact List.mem_cons_self)

theorem Line.wordsOf_charsOf (trail : Blank) : ∀ (cells : List (Blank × Word)),
    (∀ cell ∈ cells.tail, cell.1.chars ≠ []) →
      wordsOf (charsOf cells trail) = cells.map fun cell => cell.2.chars
  | [], _ => wordsOf_blank trail.space
  | (gap, word) :: cells, h => by
      rw [List.tail_cons] at h
      have ih := wordsOf_charsOf trail cells fun cell hcell => h cell (List.mem_of_mem_tail hcell)
      rw [charsOf_cons, wordsOf_blank_append _ gap.space, List.map_cons, ← ih]
      rcases charsOf_eq trail h with hnil | ⟨c, cs, hcons, hc⟩
      · rw [hnil, List.append_nil, wordsOf_word word.ne_nil word.no_space]
        rfl
      · have hspace := wordsOf_append_space [] hc cs
        rw [List.nil_append] at hspace
        rw [hcons, wordsOf_append_space _ hc, wordsOf_word word.ne_nil word.no_space, hspace]
        rfl

/-- `strings.Fields` reads the words of a line. -/
theorem fields_render (line : Line) : fields line.render = line.words := by
  have hwords := Line.wordsOf_charsOf line.trail line.cells line.separated
  unfold wordsOf at hwords
  rw [fields, Line.render, String.toList_ofList, Line.chars, hwords, List.map_map]
  rfl

theorem Line.newline_not_mem (line : Line) : '\n' ∉ line.chars := by
  unfold chars charsOf
  intro h
  rcases List.mem_append.mp h with h | h
  · obtain ⟨cell, _, hcell⟩ := List.mem_flatMap.mp h
    rcases List.mem_append.mp hcell with hgap | hword
    · exact cell.1.no_newline hgap
    · exact cell.2.no_newline hword
  · exact line.trail.no_newline h

/-- `strings.Split` reads the lines of a text. -/
theorem lines_renderText {text : List Line} (hne : text ≠ []) :
    lines (renderText text) = text.map Line.render := by
  have hnewline : ∀ l ∈ text.map Line.chars, '\n' ∉ l := by
    intro l hl
    obtain ⟨line, _, rfl⟩ := List.mem_map.mp hl
    exact line.newline_not_mem
  have hsplit := List.splitOn_intercalate '\n' hnewline (by simpa using hne)
  rw [lines, renderText, String.toList_ofList, hsplit, List.map_map]
  rfl

/-- `strings.Split` inverts `strings.Join`. -/
theorem split_intercalate (separator : Char) {parts : List String} (hne : parts ≠ [])
    (h : ∀ s ∈ parts, separator ∉ s.toList) :
    split separator ((String.ofList [separator]).intercalate parts) = parts := by
  have habsent : ∀ l ∈ parts.map String.toList, separator ∉ l := by
    intro l hl
    obtain ⟨s, hs, rfl⟩ := List.mem_map.mp hl
    exact h s hs
  have hsplit := List.splitOn_intercalate separator habsent (by simpa using hne)
  rw [split, String.toList_intercalate, String.toList_ofList, hsplit, List.map_map]
  exact List.map_id'' (fun s => String.ofList_toList) parts

/-- Only a blank text is trimmed to the empty one. -/
theorem trimSpace_eq_empty_iff {s : String} :
    trimSpace s = "" ↔ ∀ c ∈ s.toList, isSpace c = true := by
  have htext : trimSpace s = "" ↔ (s.toList.dropWhile isSpace).rdropWhile isSpace = [] := by
    rw [trimSpace, ← String.toList_inj, String.toList_ofList]
    rfl
  rw [htext, List.rdropWhile_eq_nil_iff]
  constructor
  · intro h c hc
    rw [← List.takeWhile_append_dropWhile (p := isSpace) (l := s.toList), List.mem_append] at hc
    rcases hc with hc | hc
    · exact List.mem_takeWhile_imp hc
    · exact h c hc
  · intro h c hc
    exact h c ((List.dropWhile_sublist isSpace).subset hc)

/-! ### Numbers and constant beginnings -/

theorem startsWith_append (start s : String) : startsWith (start ++ s) start = true := by
  rw [startsWith, List.isPrefixOf_iff_prefix, String.toList_append]
  exact List.prefix_append _ _

theorem trimStart_append (start s : String) : trimStart (start ++ s) start = s := by
  rw [trimStart, if_pos (startsWith_append start s), String.toList_append, List.drop_left,
    String.ofList_toList]

theorem le_ofDigitChars (digits : List Char) (n : ℕ) : n ≤ Nat.ofDigitChars 10 digits n := by
  have hpos : 0 < 10 ^ digits.length := by positivity
  rw [Nat.ofDigitChars_eq_ofDigitChars_zero]
  exact (Nat.le_mul_of_pos_left n hpos).trans (Nat.le_add_right _ _)

theorem parseDigits_eq : ∀ {digits : List Char} {n : ℕ}, (∀ c ∈ digits, c.isDigit = true) →
    Nat.ofDigitChars 10 digits n < 2 ^ 64 →
      parseDigits n digits = .ok (Nat.ofDigitChars 10 digits n)
  | [], n, _, _ => rfl
  | c :: rest, n, hdigit, hlt => by
      rw [List.forall_mem_cons] at hdigit
      rw [Nat.ofDigitChars_cons] at hlt ⊢
      have hgrows := le_ofDigitChars rest (10 * n + (c.toNat - '0'.toNat))
      have hfits : ¬ 2 ^ 64 ≤ 10 * n + (c.toNat - '0'.toNat) := by omega
      rw [parseDigits, hdigit.1, if_neg (by simp), if_neg hfits]
      exact parseDigits_eq hdigit.2 hlt

/-- A formatted number is parsed to itself. -/
theorem parseInt64_formatInt {n : ℕ} (h : n < 2 ^ 63) : parseInt64 (formatInt n) = .ok (n : ℤ) := by
  have hdigit : ∀ c ∈ Nat.toDigits 10 n, c.isDigit = true := fun c hc =>
    Nat.isDigit_of_mem_toDigits (by decide) (by decide) hc
  have htext : (formatInt n).toList = Nat.toDigits 10 n := by simp [formatInt]
  have hrange : -2 ^ 63 ≤ (n : ℤ) ∧ (n : ℤ) ≤ 2 ^ 63 - 1 := by omega
  unfold parseInt64
  rw [htext]
  split
  rename_i negative digits hsign
  split at hsign
  · rename_i rest hdash
    exact absurd (hdigit '-' (by rw [hdash]; exact List.mem_cons_self)) (by decide)
  · rename_i rest hplus
    exact absurd (hdigit '+' (by rw [hplus]; exact List.mem_cons_self)) (by decide)
  · obtain ⟨rfl, rfl⟩ := Prod.mk.inj hsign
    have hempty : (Nat.toDigits 10 n).isEmpty = false := by simp
    have hdigits : parseDigits 0 (Nat.toDigits 10 n) = .ok n := by
      have hparse := parseDigits_eq (n := 0) hdigit (by rw [Nat.ofDigitChars_ten_toDigits]; omega)
      rwa [Nat.ofDigitChars_ten_toDigits] at hparse
    simp only [hempty, hdigits, Bool.false_eq_true, if_false]
    exact if_pos hrange

end AcceleratorFabric.GoScan
