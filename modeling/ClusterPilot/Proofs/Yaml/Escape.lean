/-
Readers of parts of a text stay in the text. What is left after one is an end of what was left
before, so what makes a reader fail stands in the text or beyond what can be read of it. In the text
two failures are not promised: that of a quoted scalar with an escape for a code point beyond the
last one, which takes eight digits, and that of a version with a number that is too long.
-/
import ClusterPilot.Proofs.Yaml.Promise
import ClusterPilot.Yaml.Scalar
import Mathlib.Algebra.Group.Nat.Defs
import Mathlib.Data.List.TakeWhile

namespace ClusterPilot.Yaml

open ClusterPilot.Number

/-! ## Escapes -/

/-- An escape for a code point beyond the last one stands in a text, and leads to an error. -/
def IsBeyond (cs : List Char) (e : Error) : Prop :=
  ∃ ds, '\\' :: 'U' :: ds <:+: cs ∧ ds.length = 8 ∧ ds.all isHexDigit = true ∧
    0x110000 ≤ ofHexDigits ds ∧
    e = if 0x80000000 ≤ ofHexDigits ds then .hugeCodePoint else .noSuchValue

/-- A version stands in a text with a number of more digits than are read. Only blanks, or blanks
and the number before the point, are in front of the number. -/
def IsLongVersion (cs : List Char) (e : Error) : Prop :=
  ∃ front ds, '%' :: "YAML".toList ++ front ++ ds <:+: cs ∧
    (∀ x ∈ front, x = ' ' ∨ isDigit x = true ∨ x = '.') ∧ ds.all isDigit = true ∧
    maxDigits < ds.length ∧ e = .noSuchValue

/-- How reading in a source may fail. -/
inductive Breaks (src : Source) (e : Error) : Prop
  | promised (h : e.isPromised = true)
  | beyond (h : src.beyond = some e)
  | escape (h : IsBeyond src.chars e)
  | version (h : IsLongVersion src.chars e)

/-! ## Places in a text -/

/-- What is left at a place is an end of what can be read, and so is what stands beyond. -/
structure Cursor.IsIn (src : Source) (c : Cursor) : Prop where
  rest : c.rest <:+ src.chars
  beyond : c.beyond = src.beyond

variable {src : Source} {c : Cursor}

theorem Cursor.advance_rest (c : Cursor) : c.advance.rest = c.rest.tail := by
  unfold Cursor.advance
  split
  · rename_i hrest
    rw [hrest]
    rfl
  · rename_i hrest
    rw [hrest]
    split <;> rfl

theorem Cursor.advance_beyond (c : Cursor) : c.advance.beyond = c.beyond := by
  unfold Cursor.advance
  split
  · rfl
  · split <;> rfl

namespace Cursor.IsIn

theorem advance (h : c.IsIn src) : c.advance.IsIn src := by
  refine ⟨?_, (advance_beyond c).trans h.beyond⟩
  rw [advance_rest]
  exact (List.tail_suffix _).trans h.rest

theorem advanceBy (h : c.IsIn src) (n : Nat) : (c.advanceBy n).IsIn src := by
  induction n generalizing c with
  | zero => exact h
  | succ n ih => exact ih h.advance

theorem span (h : c.IsIn src) (p : Char → Bool) : (c.span p).2.IsIn src := h.advanceBy _

theorem skip (h : c.IsIn src) (p : Char → Bool) : (c.skip p).IsIn src := h.span p

theorem lineBreak (h : c.IsIn src) : c.lineBreak.2.IsIn src := by
  unfold Cursor.lineBreak
  split
  · exact h.advanceBy 2
  · split
    · exact h.advance
    · split
      · exact h.advance
      · exact h
  · exact h

end Cursor.IsIn

/-- Reading from a place stays in the text, and fails only as the text explains. -/
def Stays {α : Type} (src : Source) (x : Except Error (α × Cursor)) : Prop :=
  Meets (Breaks src) (fun r => r.2.IsIn src) x

namespace Stays

variable {α β : Type}

theorem ok {a : α} (h : c.IsIn src) : Stays src (.ok (a, c)) := h

theorem error {e : Error} (h : e.isPromised = true) :
    Stays src (.error e : Except Error (α × Cursor)) :=
  .promised h

theorem bind {x : Except Error (α × Cursor)} {f : α × Cursor → Except Error β} {Q : β → Prop}
    (hx : Stays src x) (hf : ∀ a {c : Cursor}, c.IsIn src → Meets (Breaks src) Q (f (a, c))) :
    Meets (Breaks src) Q (x >>= f) :=
  Meets.bind hx fun ⟨a, _⟩ hc => hf a hc

/-- Reading goes on after something that only looks at the text. -/
theorem after {x : Except Error α} {f : α → Except Error (β × Cursor)}
    (hx : OnlyFails (Breaks src) x) (hf : ∀ a, Stays src (f a)) : Stays src (x >>= f) :=
  Meets.bind hx fun a _ => hf a

theorem of_ok {x : Except Error (α × Cursor)} {a : α} (hx : Stays src x) (h : x = .ok (a, c)) :
    c.IsIn src := by
  subst h
  exact hx

theorem map {x : Except Error (α × Cursor)} (f : α → β) (hx : Stays src x) :
    Stays src (x.map fun r => (f r.1, r.2)) := by
  cases x with
  | ok r => exact hx
  | error e => exact hx

end Stays

/-! ## Names and tags -/

/-- What a token says about the text: a tag has its mark there, and a plain scalar ends with no line
end. -/
def Token.Fits (src : Source) : Token → Prop
  | .tag _ => '!' ∈ src.chars
  | .scalar text true => text.getLast? ≠ some '\n'
  | _ => True

end ClusterPilot.Yaml
