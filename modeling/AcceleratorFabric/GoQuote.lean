import AcceleratorFabric.GoText

/-! # Quoted texts

`strconv.Quote` makes a literal that ends at its closing quote whatever text it was given: every
quote and backslash of the text is escaped.  So literals form a prefix code
(`quote_append_inj`), and a list of them in brackets determines its texts (`quotedList_inj`). -/

namespace AcceleratorFabric.GoText

/-! ### One character -/

/-- The value of a lower-case hexadecimal digit. -/
def hexValue (c : Char) : ℕ := if c.isDigit then c.toNat - 48 else c.toNat - 87

/-- The value of a text of hexadecimal digits. -/
def hexNumber (digits : List Char) : ℕ := digits.foldl (fun n c => 16 * n + hexValue c) 0

theorem hexValue_digitChar : ∀ d < 16, hexValue (Nat.digitChar d) = d := by decide

theorem length_hexDigits : ∀ width n : ℕ, (hexDigits width n).length = width
  | 0, _ => rfl
  | width + 1, n => by rw [hexDigits, List.length_append, length_hexDigits, List.length_singleton]

theorem hexNumber_hexDigits : ∀ {width n : ℕ}, n < 16 ^ width → hexNumber (hexDigits width n) = n
  | 0, n, h => by
      rw [Nat.pow_zero, Nat.lt_one_iff] at h
      rw [h]
      rfl
  | width + 1, n, h => by
      have hshort : n / 16 < 16 ^ width := by
        rw [Nat.pow_succ] at h
        omega
      have ih : (hexDigits width (n / 16)).foldl (fun n c => 16 * n + hexValue c) 0 = n / 16 :=
        hexNumber_hexDigits hshort
      rw [hexNumber, hexDigits, List.foldl_append, ih, List.foldl_cons, List.foldl_nil,
        hexValue_digitChar _ (Nat.mod_lt _ (by decide))]
      omega

/-- The character whose number has so many hexadecimal digits, and what follows them. -/
def unquoteHex (width : ℕ) (cs : List Char) : Option (Char × List Char) :=
  some (Char.ofNat (hexNumber (cs.take width)), cs.drop width)

theorem unquoteHex_hexDigits {width n : ℕ} (h : n < 16 ^ width) (rest : List Char) :
    unquoteHex width (hexDigits width n ++ rest) = some (Char.ofNat n, rest) := by
  have hlength := length_hexDigits width n
  rw [unquoteHex, List.take_left' hlength, List.drop_left' hlength, hexNumber_hexDigits h]

/-- The first character of a quoted text and what follows it; a closing quote is none. -/
def unquoteChar : List Char → Option (Char × List Char)
  | [] => none
  | '"' :: _ => none
  | '\\' :: 'a' :: rest => some (Char.ofNat 7, rest)
  | '\\' :: 'b' :: rest => some (Char.ofNat 8, rest)
  | '\\' :: 't' :: rest => some (Char.ofNat 9, rest)
  | '\\' :: 'n' :: rest => some (Char.ofNat 10, rest)
  | '\\' :: 'v' :: rest => some (Char.ofNat 11, rest)
  | '\\' :: 'f' :: rest => some (Char.ofNat 12, rest)
  | '\\' :: 'r' :: rest => some (Char.ofNat 13, rest)
  | '\\' :: '"' :: rest => some ('"', rest)
  | '\\' :: '\\' :: rest => some ('\\', rest)
  | '\\' :: 'x' :: rest => unquoteHex 2 rest
  | '\\' :: 'u' :: rest => unquoteHex 4 rest
  | '\\' :: 'U' :: rest => unquoteHex 8 rest
  | '\\' :: _ => none
  | c :: rest => some (c, rest)

/-- A character that needs no escape stands for itself. -/
theorem unquoteChar_cons {c : Char} (hquote : c ≠ '"') (hslash : c ≠ '\\') (rest : List Char) :
    unquoteChar (c :: rest) = some (c, rest) := by
  unfold unquoteChar
  split <;> simp_all

theorem unquoteChar_quoteChar [IsPrint] (c : Char) (rest : List Char) :
    unquoteChar (quoteChar c ++ rest) = some (c, rest) := by
  have hc : Char.ofNat c.toNat = c := Char.ofNat_toNat c
  have hrange : c.toNat < 16 ^ 8 := c.val.toNat_lt
  unfold quoteChar
  split_ifs with hescaped hprint
  · rcases hescaped with rfl | rfl <;> rfl
  · rw [not_or] at hescaped
    exact unquoteChar_cons hescaped.1 hescaped.2 rest
  · split
    case h_8 =>
      split_ifs with hcontrol hshort
      · exact (unquoteHex_hexDigits (show c.toNat < 16 ^ 2 by omega) rest).trans (by rw [hc])
      · exact (unquoteHex_hexDigits (show c.toNat < 16 ^ 4 from hshort) rest).trans (by rw [hc])
      · exact (unquoteHex_hexDigits hrange rest).trans (by rw [hc])
    all_goals
      rename_i hn
      rw [hn] at hc
      rw [← hc]
      rfl

/-- A text is cut at the first of a kind of characters. -/
theorem cut_inj {c : Char} : ∀ {a b x y : List Char}, c ∉ a → c ∉ b → a ++ c :: x = b ++ c :: y →
    a = b ∧ x = y
  | [], [], _, _, _, _, h => ⟨rfl, (List.cons.inj h).2⟩
  | [], _ :: _, _, _, _, hb, h => absurd (List.mem_cons.mpr (.inl (List.cons.inj h).1)) hb
  | _ :: _, [], _, _, ha, _, h => absurd (List.mem_cons.mpr (.inl (List.cons.inj h).1.symm)) ha
  | d :: a, e :: b, x, y, ha, hb, h => by
      obtain ⟨rfl, hrest⟩ := List.cons.inj h
      obtain ⟨rfl, hxy⟩ := cut_inj (fun hm => ha (List.mem_cons_of_mem _ hm))
        (fun hm => hb (List.mem_cons_of_mem _ hm)) hrest
      exact ⟨rfl, hxy⟩

/-! ### Literals -/

variable [IsPrint]

/-- What stands between the quotes. -/
def quoted (s : List Char) : List Char := s.flatMap quoteChar

theorem quoted_append_inj : ∀ {s t x y : List Char},
    quoted s ++ '"' :: x = quoted t ++ '"' :: y → s = t ∧ x = y
  | [], [], _, _, h => ⟨rfl, (List.cons.inj h).2⟩
  | [], c :: t, x, y, h => by
      have hread := congrArg unquoteChar h.symm
      rw [quoted, List.flatMap_cons, List.append_assoc, unquoteChar_quoteChar] at hread
      cases hread
  | c :: s, [], x, y, h => by
      have hread := congrArg unquoteChar h
      rw [quoted, List.flatMap_cons, List.append_assoc, unquoteChar_quoteChar] at hread
      cases hread
  | c :: s, d :: t, x, y, h => by
      have hread := congrArg unquoteChar h
      rw [quoted, quoted, List.flatMap_cons, List.flatMap_cons, List.append_assoc,
        List.append_assoc, unquoteChar_quoteChar, unquoteChar_quoteChar] at hread
      obtain ⟨rfl, hrest⟩ := Prod.mk.inj (Option.some.inj hread)
      obtain ⟨rfl, hxy⟩ := quoted_append_inj hrest
      exact ⟨rfl, hxy⟩

theorem toList_quote (s : String) : (quote s).toList = '"' :: (quoted s.toList ++ ['"']) := by
  simp [quote, quoted]

/-- **No text leaves its quotes**: a text that begins with a literal determines it and the rest. -/
theorem quote_append_inj {s t : String} {x y : List Char}
    (h : (quote s).toList ++ x = (quote t).toList ++ y) : s = t ∧ x = y := by
  rw [toList_quote, toList_quote, List.cons_append, List.cons_append, List.append_assoc,
    List.append_assoc] at h
  obtain ⟨hst, hxy⟩ := quoted_append_inj (List.cons.inj h).2
  exact ⟨String.toList_inj.mp hst, hxy⟩

theorem quote_injective {s t : String} (h : quote s = quote t) : s = t :=
  (quote_append_inj (x := []) (y := []) (by rw [h])).1

/-! ### Lists of literals -/

/-- The literals after the first, each with its comma, and the closing bracket. -/
def quotedTail : List String → List Char
  | [] => [']']
  | s :: l => ',' :: ((quote s).toList ++ quotedTail l)

theorem toList_intercalate_quote (s : String) : ∀ l : List String,
    (",".intercalate ((s :: l).map quote)).toList ++ [']'] = (quote s).toList ++ quotedTail l
  | [] => by simp [quotedTail]
  | t :: l => by
      have ih := toList_intercalate_quote t l
      rw [quotedTail, ← ih]
      simp [String.toList_intercalate]

theorem quotedTail_injective : ∀ {l m : List String}, quotedTail l = quotedTail m → l = m
  | [], [], _ => rfl
  | [], _ :: _, h => by cases (List.cons.inj h).1
  | _ :: _, [], h => by cases (List.cons.inj h).1
  | _ :: _, _ :: _, h => by
      obtain ⟨rfl, hrest⟩ := quote_append_inj (List.cons.inj h).2
      rw [quotedTail_injective hrest]

/-- **A list of literals determines its texts.** -/
theorem quotedList_inj {l m : List String}
    (h : (",".intercalate (l.map quote)).toList ++ [']'] =
      (",".intercalate (m.map quote)).toList ++ [']']) : l = m := by
  -- a literal begins with a quote, the empty list with the closing bracket
  have hne : ∀ (s : String) (k : List String), (quote s).toList ++ quotedTail k ≠ [']'] := by
    intro s k heq
    rw [toList_quote] at heq
    cases (List.cons.inj heq).1
  cases l with
  | nil =>
      cases m with
      | nil => rfl
      | cons t m =>
          rw [toList_intercalate_quote] at h
          exact absurd h.symm (hne t m)
  | cons s l =>
      cases m with
      | nil =>
          rw [toList_intercalate_quote] at h
          exact absurd h (hne s l)
      | cons t m =>
          rw [toList_intercalate_quote, toList_intercalate_quote] at h
          obtain ⟨rfl, hrest⟩ := quote_append_inj h
          rw [quotedTail_injective hrest]

end AcceleratorFabric.GoText
