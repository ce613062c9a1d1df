/-
Places on one line of a text. Reading characters that neither end the line nor are a byte order mark
moves the index and the column by their number, so the place after them can be written down. Where
no error stands beyond the text, looking at characters never fails.
-/
import ClusterPilot.Yaml.Cursor

namespace ClusterPilot.Yaml

/-- A character that takes one column and does not end the line. -/
def IsInline (x : Char) : Prop := isBreak x = false ∧ x ≠ '\ufeff'

instance (x : Char) : Decidable (IsInline x) := inferInstanceAs (Decidable (_ ∧ _))

/-- The visible ASCII characters and the blank. -/
def IsPrintable (x : Char) : Prop := 0x20 ≤ x.toNat ∧ x.toNat < 0x7f

instance (x : Char) : Decidable (IsPrintable x) := inferInstanceAs (Decidable (_ ∧ _))

theorem IsPrintable.isInline {x : Char} (h : IsPrintable x) : IsInline x := by
  have hne : ∀ y : Char, ¬IsPrintable y → x ≠ y := by
    rintro y hy rfl
    exact hy h
  unfold IsInline isBreak
  simp [hne '\n' (by decide), hne '\r' (by decide), hne '\u0085' (by decide),
    hne '\u2028' (by decide), hne '\u2029' (by decide), hne '\ufeff' (by decide)]

theorem IsPrintable.isAllowed {x : Char} (h : IsPrintable x) : isAllowed x = true := by
  obtain ⟨hlow, hhigh⟩ := h
  unfold Yaml.isAllowed
  have : x.toNat ≤ 0x7e := by omega
  simp [hlow, this]

namespace Cursor

/-- The place some characters further on the line, before what is left there. -/
def along (c : Cursor) (n : Nat) (rest : List Char) : Cursor :=
  ⟨rest, c.beyond, c.index + n, c.line, c.column + n⟩

@[simp] theorem along_rest (c : Cursor) (n : Nat) (rest : List Char) :
    (c.along n rest).rest = rest := rfl

@[simp] theorem along_beyond (c : Cursor) (n : Nat) (rest : List Char) :
    (c.along n rest).beyond = c.beyond := rfl

@[simp] theorem along_index (c : Cursor) (n : Nat) (rest : List Char) :
    (c.along n rest).index = c.index + n := rfl

@[simp] theorem along_line (c : Cursor) (n : Nat) (rest : List Char) :
    (c.along n rest).line = c.line := rfl

@[simp] theorem along_column (c : Cursor) (n : Nat) (rest : List Char) :
    (c.along n rest).column = c.column + n := rfl

theorem along_along (c : Cursor) (n m : Nat) (cs ds : List Char) :
    (c.along n cs).along m ds = c.along (n + m) ds := by
  simp [along, Nat.add_assoc]

theorem along_zero {c : Cursor} {rest : List Char} (h : c.rest = rest) : c.along 0 rest = c := by
  subst h
  rfl

variable {c : Cursor} {x : Char} {cs rest : List Char}

theorem advance_inline (h : c.rest = x :: rest) (hx : IsInline x) : c.advance = c.along 1 rest := by
  unfold advance along
  rw [h]
  simp [hx.1, hx.2]

theorem advanceBy_inline (h : c.rest = cs ++ rest) (hcs : ∀ x ∈ cs, IsInline x) :
    c.advanceBy cs.length = c.along cs.length rest := by
  induction cs generalizing c with
  | nil => exact (along_zero h).symm
  | cons x cs ih =>
    have hone : c.advance = c.along 1 (cs ++ rest) :=
      advance_inline h (hcs x List.mem_cons_self)
    have hmore : ∀ y ∈ cs, IsInline y := fun y hy => hcs y (List.mem_cons_of_mem x hy)
    rw [List.length_cons, advanceBy, hone, ih (along_rest ..) hmore, along_along, Nat.add_comm]

/-- The longest run of a class is the part of the line up to the first character outside of it. -/
theorem span_inline {p : Char → Bool} (h : c.rest = cs ++ rest) (hcs : ∀ x ∈ cs, IsInline x)
    (inside : ∀ x ∈ cs, p x = true) (outside : ∀ x, rest.head? = some x → p x = false) :
    c.span p = (cs, c.along cs.length rest) := by
  have hstop : rest.takeWhile p = [] := by
    cases rest with
    | nil => rfl
    | cons x rest => exact List.takeWhile_cons_of_neg (by simp [outside x rfl])
  unfold span
  rw [h, List.takeWhile_append_of_pos inside, hstop, List.append_nil]
  simp only
  rw [advanceBy_inline h hcs]

theorem skip_inline {p : Char → Bool} (h : c.rest = cs ++ rest) (hcs : ∀ x ∈ cs, IsInline x)
    (inside : ∀ x ∈ cs, p x = true) (outside : ∀ x, rest.head? = some x → p x = false) :
    c.skip p = c.along cs.length rest := by
  unfold skip
  rw [span_inline h hcs inside outside]

/-- Where no character of the class stands there is no run of it. -/
theorem span_of_head? {p : Char → Bool} (outside : ∀ x, c.rest.head? = some x → p x = false) :
    c.span p = ([], c) := by
  have hempty : c.rest = [] ++ c.rest := rfl
  exact span_inline hempty nofun nofun outside

theorem skip_of_head? {p : Char → Bool} (outside : ∀ x, c.rest.head? = some x → p x = false) :
    c.skip p = c := by
  unfold skip
  rw [span_of_head? outside]

theorem lineBreak_newline (h : c.rest = '\n' :: rest) :
    c.lineBreak = (['\n'], ⟨rest, c.beyond, c.index + 1, c.line + 1, 0⟩) := by
  unfold lineBreak advance
  rw [h]
  rfl

/-! ## Looking ahead -/

theorem reach_ok (h : c.beyond = none) (n : Nat) : c.reach n = .ok () := by
  unfold reach
  rw [h]

theorem checkMark_ok (h : c.beyond = none) : c.checkMark = .ok c.atDocumentMark := by
  unfold checkMark
  rw [reach_ok h]
  rfl

end Cursor

end ClusterPilot.Yaml
