/-
Line ends in one spelling. A character that is part of no line end stays and parts a text in two, so
line ends are unified on each side of it alone. Whoever takes a carriage return for a line feed, and
the two together for one, finds in the unified text what the text itself has.
-/
import ClusterPilot.Text.Basic

namespace ClusterPilot.Text

theorem unifyNewlines_cons_of_ne {c : Char} (hr : c ≠ '\r') (cs : List Char) :
    unifyNewlines (c :: cs) = c :: unifyNewlines cs := by
  rw [unifyNewlines]
  · exact fun _ h _ => hr h
  · exact hr

theorem unifyNewlines_return {cs : List Char} (h : ∀ ds, cs ≠ '\n' :: ds) :
    unifyNewlines ('\r' :: cs) = '\n' :: unifyNewlines cs := by
  rw [unifyNewlines]
  exact h

/-- A character that is part of no line end parts a text in two. -/
theorem unifyNewlines_append_cons {c : Char} (hr : c ≠ '\r') (hn : c ≠ '\n') (cs ds : List Char) :
    unifyNewlines (cs ++ c :: ds) = unifyNewlines cs ++ c :: unifyNewlines ds := by
  fun_induction unifyNewlines cs with
  | case1 => exact unifyNewlines_cons_of_ne hr ds
  | case2 cs ih => exact congrArg ('\n' :: ·) ih
  | case3 cs h ih =>
    have hnext : ∀ es, cs ++ c :: ds ≠ '\n' :: es := by
      intro es heq
      cases cs with
      | nil => exact hn (List.cons.inj heq).1
      | cons d cs => exact h cs (congrArg (· :: cs) (List.cons.inj heq).1)
    rw [List.cons_append, unifyNewlines_return hnext, ih, List.cons_append]
  | case4 d cs h1 h2 ih =>
    rw [List.cons_append, unifyNewlines_cons_of_ne h2, ih, List.cons_append]

/-- A character that is part of no line end is not lost. -/
theorem mem_unifyNewlines {c : Char} (hr : c ≠ '\r') (hn : c ≠ '\n') {cs : List Char}
    (h : c ∈ cs) : c ∈ unifyNewlines cs := by
  obtain ⟨before, after, rfl⟩ := List.append_of_mem h
  rw [unifyNewlines_append_cons hr hn]
  exact List.mem_append_right _ List.mem_cons_self

/-- Characters that are part of no line end stay in front of what follows them. -/
theorem unifyNewlines_append_of_ne {cs : List Char} (hr : ∀ c ∈ cs, c ≠ '\r') (ds : List Char) :
    unifyNewlines (cs ++ ds) = cs ++ unifyNewlines ds := by
  induction cs with
  | nil => rfl
  | cons c cs ih =>
    rw [List.forall_mem_cons] at hr
    rw [List.cons_append, unifyNewlines_cons_of_ne hr.1, ih hr.2, List.cons_append]

/-- A carriage return in front of a line feed adds nothing to it. -/
theorem unifyNewlines_return_feed (cs : List Char) :
    unifyNewlines ('\r' :: '\n' :: cs) = unifyNewlines ('\n' :: cs) := by
  rw [unifyNewlines, unifyNewlines_cons_of_ne (by decide)]

/-- A text with every line end spelled as a line feed. -/
def unified (text : String) : String := String.ofList (unifyNewlines text.toList)

/-! ## Walking a text -/

section

variable {σ : Type}

/-- A walk to which a carriage return is a line feed, and the two together are one, ends alike on
the unified text. -/
theorem foldlM_unifyNewlines {m : Type → Type} [Monad m] [LawfulMonad m] {step : σ → Char → m σ}
    (lone : ∀ s, step s '\r' = step s '\n')
    (pair : ∀ s, (step s '\r' >>= fun s' => step s' '\n') = step s '\n') (s : σ) (cs : List Char) :
    (unifyNewlines cs).foldlM step s = cs.foldlM step s := by
  fun_induction unifyNewlines cs generalizing s with
  | case1 => rfl
  | case2 cs ih =>
    rw [List.foldlM_cons, List.foldlM_cons, ← pair, bind_assoc]
    simp only [ih, List.foldlM_cons]
  | case3 cs h ih =>
    rw [List.foldlM_cons, List.foldlM_cons, lone]
    simp only [ih]
  | case4 c cs h1 h2 ih =>
    rw [List.foldlM_cons, List.foldlM_cons]
    simp only [ih]

theorem foldl_unifyNewlines {step : σ → Char → σ} (lone : ∀ s, step s '\r' = step s '\n')
    (pair : ∀ s, step (step s '\r') '\n' = step s '\n') (s : σ) (cs : List Char) :
    (unifyNewlines cs).foldl step s = cs.foldl step s := by
  rw [List.foldl_eq_foldlM, List.foldl_eq_foldlM, foldlM_unifyNewlines]
  · exact fun s => congrArg pure (lone s)
  · exact fun s => congrArg pure (pair s)

end

end ClusterPilot.Text
