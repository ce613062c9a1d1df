/-
Laws of trimming. What is left of a text is a part of it, nothing is left exactly of a text of
blanks, and trimming again changes nothing.
-/
import ClusterPilot.Text.Basic
import Mathlib.Data.List.DropRight

namespace ClusterPilot.Text

theorem trimWhile_eq (p : Char → Bool) (cs : List Char) :
    trimWhile p cs = (cs.dropWhile p).rdropWhile p := rfl

theorem mem_of_mem_trim {c : Char} {cs : List Char} (h : c ∈ trim cs) : c ∈ cs := by
  rw [trim, trimWhile_eq] at h
  exact (List.dropWhile_suffix _).subset ((List.rdropWhile_prefix _ _).subset h)

theorem trimWhile_eq_nil_iff (p : Char → Bool) (cs : List Char) :
    trimWhile p cs = [] ↔ ∀ c ∈ cs, p c = true := by
  rw [trimWhile_eq, List.rdropWhile_eq_nil_iff]
  constructor
  · intro h
    rw [← List.dropWhile_eq_nil_iff]
    by_contra hne
    -- what is left without the blanks in front does not start with a blank
    have hhead := List.head_dropWhile_not p hne
    rw [h _ (List.head_mem hne)] at hhead
    cases hhead
  · intro h c hc
    exact h c ((List.dropWhile_suffix _).subset hc)

theorem trim_eq_nil_iff (cs : List Char) : trim cs = [] ↔ ∀ c ∈ cs, isBlank c = true :=
  trimWhile_eq_nil_iff isBlank cs

/-- Nothing more is trimmed from a trimmed text. -/
theorem trim_trim (cs : List Char) : trim (trim cs) = trim cs := by
  have hfront : (trim cs).dropWhile isBlank = trim cs := by
    cases hrest : trim cs with
    | nil => rfl
    | cons c rest =>
      -- the text starts with what it starts with before its end is trimmed, which is no blank
      have hprefix : c :: rest <+: cs.dropWhile isBlank := hrest ▸ List.rdropWhile_prefix _ _
      obtain ⟨ending, hending⟩ := hprefix
      have hne : cs.dropWhile isBlank ≠ [] := by
        rw [← hending]
        exact List.cons_ne_nil _ _
      have hhead := List.head_dropWhile_not isBlank hne
      simp only [← hending, List.cons_append, List.head_cons] at hhead
      exact List.dropWhile_cons_of_neg (by rw [hhead]; exact Bool.false_ne_true)
  rw [trim, trimWhile_eq, hfront]
  exact List.rdropWhile_idempotent _ _

end ClusterPilot.Text
