/-
Texts as lists of characters: cutting one in two at a separator, trimming the blanks around one, and
spelling its line ends alike.
-/
namespace ClusterPilot.Text

/-! ## Separators -/

/-- What stands before the first separator, and what stands after it when there is one. -/
def cut (sep : Char) : List Char → List Char × Option (List Char)
  | [] => ([], none)
  | c :: cs => if c = sep then ([], some cs) else (c :: (cut sep cs).1, (cut sep cs).2)

theorem cut_join (sep : Char) (cs : List Char) :
    (cut sep cs).1 ++ ((cut sep cs).2.map (sep :: ·)).getD [] = cs := by
  induction cs with
  | nil => rfl
  | cons c cs ih =>
    by_cases h : c = sep
    · simp [cut, h]
    · simp only [cut, h, ↓reduceIte, List.cons_append, ih]

theorem not_mem_cut_fst (sep : Char) (cs : List Char) : sep ∉ (cut sep cs).1 := by
  induction cs with
  | nil => exact List.not_mem_nil
  | cons c cs ih =>
    by_cases h : c = sep
    · simp only [cut, h, ↓reduceIte]
      exact List.not_mem_nil
    · simp only [cut, h, ↓reduceIte]
      intro hmem
      rcases List.mem_cons.1 hmem with rfl | hrest
      · exact h rfl
      · exact ih hrest

theorem cut_fst (sep : Char) (cs : List Char) : (cut sep cs).1 = cs.takeWhile (· ≠ sep) := by
  induction cs with
  | nil => rfl
  | cons c cs ih =>
    by_cases h : c = sep
    · rw [cut, if_pos h, List.takeWhile_cons_of_neg (by simpa using h)]
    · rw [cut, if_neg h, List.takeWhile_cons_of_pos (by simpa using h), ih]

theorem cut_of_not_mem {sep : Char} {cs : List Char} (h : sep ∉ cs) : cut sep cs = (cs, none) := by
  induction cs with
  | nil => rfl
  | cons c cs ih =>
    rw [List.mem_cons, not_or] at h
    rw [cut, if_neg (Ne.symm h.1), ih h.2]

theorem cut_append {sep : Char} {cs : List Char} (h : sep ∉ cs) (ds : List Char) :
    cut sep (cs ++ sep :: ds) = (cs, some ds) := by
  induction cs with
  | nil => rw [List.nil_append, cut, if_pos rfl]
  | cons c cs ih =>
    rw [List.mem_cons, not_or] at h
    rw [List.cons_append, cut, if_neg (Ne.symm h.1), ih h.2]

/-! ## Blanks -/

/-- The characters that Unicode counts as white space, with the four separators of information
that ASCII has below the blank. -/
def isBlank (c : Char) : Bool :=
  let n := c.toNat
  (9 ≤ n && n ≤ 13) || (28 ≤ n && n ≤ 32) || n == 0x85 || n == 0xa0 || n == 0x1680
    || (0x2000 ≤ n && n ≤ 0x200a) || n == 0x2028 || n == 0x2029 || n == 0x202f || n == 0x205f
    || n == 0x3000

/-- A text without the characters of a class at either end. -/
def trimWhile (p : Char → Bool) (cs : List Char) : List Char :=
  ((cs.dropWhile p).reverse.dropWhile p).reverse

/-- A text without the blanks at either end. -/
def trim (cs : List Char) : List Char := trimWhile isBlank cs

/-! ## Line ends -/

/-- Every line end of a text, spelled as a line feed. -/
def unifyNewlines : List Char → List Char
  | [] => []
  | '\r' :: '\n' :: cs => '\n' :: unifyNewlines cs
  | '\r' :: cs => '\n' :: unifyNewlines cs
  | c :: cs => c :: unifyNewlines cs

end ClusterPilot.Text
