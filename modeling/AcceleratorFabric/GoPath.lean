import Mathlib

/-! # Slash-separated paths

`filepath.Clean` and `filepath.Join` as they behave on Unix.  `lastElement_join`: a file name
joined to a directory is the last element of the resulting path, so files of different names
have different paths whatever their directories.  A name that contains slashes still keeps its
last element (`lastElement_join_of_last`). -/

namespace AcceleratorFabric.GoPath

/-- One element of a path, with the elements kept so far, the last one first. -/
def cleanStep (rooted : Bool) (out : List (List Char)) (element : List Char) :
    List (List Char) :=
  if element = [] ∨ element = ['.'] then out
  else if element = ['.', '.'] then
    match out with
    | [] => if rooted then [] else [element]
    | top :: rest => if top = ['.', '.'] then element :: out else rest
  else element :: out

def cleanChars (path : List Char) : List Char :=
  let rooted := decide (path.head? = some '/')
  let out := ((path.splitOn '/').foldl (cleanStep rooted) []).reverse
  if rooted then '/' :: ['/'].intercalate out
  else if out = [] then ['.']
  else ['/'].intercalate out

/-- `filepath.Clean`. -/
def clean (path : String) : String := String.ofList (cleanChars path.toList)

/-- `filepath.Dir`: the path up to its last slash, cleaned. -/
def dir (path : String) : String :=
  String.ofList (cleanChars (path.toList.reverse.dropWhile (fun c => decide (c ≠ '/'))).reverse)

/-- `filepath.Join`. -/
def join (elements : List String) : String :=
  match elements.dropWhile (fun e => decide (e = "")) with
  | [] => ""
  | e :: rest => clean ("/".intercalate (e :: rest))

/-! ### The last element -/

/-- The characters after the last slash. -/
def lastElement (path : List Char) : List Char :=
  (path.reverse.takeWhile (fun c => decide (c ≠ '/'))).reverse

theorem lastElement_append (path : List Char) {name : List Char} (h : '/' ∉ name) :
    lastElement (path ++ name) = lastElement path ++ name := by
  have hall : ∀ c ∈ name.reverse, decide (c ≠ '/') = true := by
    intro c hc
    rw [decide_eq_true_iff]
    rintro rfl
    exact h (List.mem_reverse.mp hc)
  unfold lastElement
  rw [List.reverse_append, List.takeWhile_append_of_pos hall, List.reverse_append,
    List.reverse_reverse]

theorem lastElement_of_not_mem {name : List Char} (h : '/' ∉ name) : lastElement name = name :=
  lastElement_append [] h

theorem lastElement_slash (path rest : List Char) :
    lastElement (path ++ '/' :: rest) = lastElement rest := by
  unfold lastElement
  rw [List.reverse_append, List.reverse_cons, List.append_assoc, List.takeWhile_append]
  split
  · rename_i h
    have hself : rest.reverse.takeWhile (fun c => decide (c ≠ '/')) = rest.reverse :=
      (List.takeWhile_prefix _).eq_of_length h
    rw [hself]
    simp
  · rfl

theorem lastElement_intercalate {name : List Char} (h : '/' ∉ name) :
    ∀ elements : List (List Char), lastElement (['/'].intercalate (elements ++ [name])) = name
  | [] => by simpa using lastElement_of_not_mem h
  | element :: elements => by
      have hne : elements ++ [name] ≠ [] := List.append_ne_nil_of_right_ne_nil _ (by simp)
      rw [List.cons_append, List.intercalate_cons_of_ne_nil hne, List.append_assoc,
        List.singleton_append, lastElement_slash]
      exact lastElement_intercalate h elements

/-- A name that `filepath.Clean` keeps as it is. -/
structure IsFileName (name : List Char) : Prop where
  no_slash : '/' ∉ name
  ne_nil : name ≠ []
  ne_dot : name ≠ ['.']
  ne_dotdot : name ≠ ['.', '.']

theorem cleanStep_of_isFileName {name : List Char} (h : IsFileName name) (rooted : Bool)
    (out : List (List Char)) : cleanStep rooted out name = name :: out := by
  unfold cleanStep
  rw [if_neg (by simp [h.ne_nil, h.ne_dot]), if_neg h.ne_dotdot]

theorem lastElement_cleanChars {name path : List Char} (h : IsFileName name)
    (elements : List (List Char)) (hpath : path.splitOn '/' = elements ++ [name]) :
    lastElement (cleanChars path) = name := by
  unfold cleanChars
  simp only [hpath, List.foldl_append, List.foldl_cons, List.foldl_nil,
    cleanStep_of_isFileName h, List.reverse_cons]
  split_ifs with hrooted hempty
  · rw [← List.nil_append ('/' :: _), lastElement_slash]
    exact lastElement_intercalate h.no_slash _
  · exact absurd hempty (by simp)
  · exact lastElement_intercalate h.no_slash _

/-- The last piece between slashes is the last element. -/
theorem exists_splitOn_eq (path : List Char) :
    ∃ elements, path.splitOn '/' = elements ++ [lastElement path] := by
  induction hn : path.length using Nat.strong_induction_on generalizing path with
  | _ n ih =>
      by_cases hslash : '/' ∈ path
      · obtain ⟨front, back, rfl⟩ := List.append_of_mem hslash
        have hlength : back.length < n := by
          rw [← hn, List.length_append, List.length_cons]
          omega
        obtain ⟨elements, hback⟩ := ih back.length hlength back rfl
        refine ⟨front.splitOn '/' ++ elements, ?_⟩
        rw [List.splitOn_append_cons_self, hback, lastElement_slash, List.append_assoc]
      · refine ⟨[], ?_⟩
        rw [List.splitOn_eq_singleton hslash, lastElement_of_not_mem hslash]
        rfl

/-- **Joined paths end in the last element**, unless it is one that `filepath.Clean` drops. -/
theorem lastElement_join_of_last (dir : String) {name : String}
    (h : IsFileName (lastElement name.toList)) :
    lastElement (join [dir, name]).toList = lastElement name.toList := by
  have hname : name ≠ "" := by
    rintro rfl
    exact h.ne_nil rfl
  obtain ⟨elements, hsplit⟩ := exists_splitOn_eq name.toList
  by_cases hdir : dir = ""
  · have hjoin : join [dir, name] = clean name := by
      unfold join
      rw [List.dropWhile_cons_of_pos (by simp [hdir]),
        List.dropWhile_cons_of_neg (by simp [hname])]
      rfl
    rw [hjoin, clean, String.toList_ofList]
    exact lastElement_cleanChars h elements hsplit
  · have hjoin : join [dir, name] = clean (dir ++ "/" ++ name) := by
      unfold join
      rw [List.dropWhile_cons_of_neg (by simp [hdir])]
      rfl
    have hchars : (dir ++ "/" ++ name).toList = dir.toList ++ '/' :: name.toList := by simp
    rw [hjoin, clean, String.toList_ofList, hchars]
    apply lastElement_cleanChars h (dir.toList.splitOn '/' ++ elements)
    rw [List.splitOn_append_cons_self, hsplit, List.append_assoc]

theorem lastElement_join (dir : String) {name : String} (h : IsFileName name.toList) :
    lastElement (join [dir, name]).toList = name.toList := by
  have hlast := lastElement_of_not_mem h.no_slash
  rw [lastElement_join_of_last dir (by rw [hlast]; exact h), hlast]

theorem not_mem_lastElement (path : List Char) : '/' ∉ lastElement path := by
  unfold lastElement
  rw [List.mem_reverse]
  intro h
  simpa using List.mem_takeWhile_imp h

end AcceleratorFabric.GoPath
