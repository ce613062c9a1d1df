/-
Where a scan breaks off. Every step of the scanner stays in the text, so a scan breaks off with an
error that is promised, with the one that stands beyond what can be read, at an escape for a code
point beyond the last one, or at a version with a number that is too long; and its tokens say what
is so: a tag has its exclamation mark in the text, and a plain scalar ends with no line end.
-/
import ClusterPilot.Proofs.Yaml.Escape
import ClusterPilot.Yaml.Scan

namespace ClusterPilot.Yaml

/-- A scan of a text: the text explains its error, without which it was one of the whole text, and
its tokens fit the text. -/
structure Scan.Fits (src : Source) (scan : Scan) : Prop where
  error : ∀ e, scan.error = some e → Breaks src e
  whole : scan.error = none → src.beyond = none
  tokens : ∀ t ∈ scan.tokens, t.Fits src

namespace Scanner

/-- The scanner is in a text, and the tokens it found fit it. -/
structure IsIn (src : Source) (s : Scanner) : Prop where
  cursor : s.cursor.IsIn src
  tokens : ∀ t ∈ s.found, t.Fits src

/-- A step of the scanner stays in the text, and fails only as the text explains. -/
def Stays (src : Source) (x : Except Error Scanner) : Prop := Meets (Breaks src) (IsIn src) x

variable {src : Source} {s : Scanner}

namespace IsIn

theorem emit {t : Token} (h : s.IsIn src) (ht : t.Fits src) : (s.emit t).IsIn src where
  cursor := h.cursor
  tokens := List.forall_mem_cons.2 ⟨ht, h.tokens⟩

theorem move (h : s.IsIn src) {c : Cursor} (hc : c.IsIn src) :
    IsIn src { s with cursor := c } :=
  ⟨hc, h.tokens⟩

theorem emitSign {t : Token} (h : s.IsIn src) (ht : t.Fits src) : (s.emitSign t).IsIn src :=
  (h.emit ht).move h.cursor.advance

theorem emitAt {t : Token} (h : s.IsIn src) (position : Nat) (ht : t.Fits src) :
    (s.emitAt position t).IsIn src where
  cursor := h.cursor
  tokens t' ht' := by
    rcases List.mem_append.1 ht' with ht' | ht'
    · exact h.tokens t' (List.mem_of_mem_take ht')
    rcases List.mem_cons.1 ht' with rfl | ht'
    · exact ht
    · exact h.tokens t' (List.mem_of_mem_drop ht')

theorem setKey (h : s.IsIn src) (k : Option KeyStart) : (s.setKey k).IsIn src := by
  unfold Scanner.setKey
  split <;> exact ⟨h.cursor, h.tokens⟩

theorem openAt (h : s.IsIn src) (column : Nat) : (s.openAt column).1.IsIn src := by
  unfold Scanner.openAt
  split
  · exact ⟨h.cursor, h.tokens⟩
  · exact h

theorem openHere {t : Token} (h : s.IsIn src) (ht : t.Fits src) : (s.openHere t).IsIn src := by
  unfold Scanner.openHere
  simp only
  split
  · exact (h.openAt _).emit ht
  · exact h.openAt _

theorem closeFrom {column : Int} {found : List Token} {count : Nat} {indent : Int}
    {outer : List Int} (h : ∀ t ∈ found, t.Fits src) :
    ∀ t ∈ (closeFrom column found count indent outer).1, t.Fits src := by
  induction outer generalizing found count indent with
  | nil => exact h
  | cons i outer ih =>
    unfold Scanner.closeFrom
    split
    · exact ih (List.forall_mem_cons.2 ⟨trivial, h⟩)
    · exact h

theorem unwind (h : s.IsIn src) (column : Int) : (s.unwind column).IsIn src := by
  unfold Scanner.unwind
  split
  · exact h
  · exact ⟨h.cursor, closeFrom h.tokens⟩

theorem skipBlank (h : s.IsIn src) (fuel : Nat) : (s.skipBlank fuel).IsIn src := by
  induction fuel generalizing s with
  | zero =>
    unfold Scanner.skipBlank
    exact h
  | succ fuel ih =>
    have hblank := h.cursor.skip (· = ' ')
    have hcomment := hblank.skip fun x => !isBreak x
    unfold Scanner.skipBlank
    simp only
    split
    · split
      · exact ih ⟨hcomment.lineBreak, h.tokens⟩
      · exact ⟨hcomment, h.tokens⟩
    · split
      · exact ih ⟨hblank.lineBreak, h.tokens⟩
      · exact ⟨hblank, h.tokens⟩

end IsIn

/-! ## Steps -/

end Scanner

end ClusterPilot.Yaml
