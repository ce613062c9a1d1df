/-
Separators of several characters. A text is cut at the first place where the separator stands, or
parted at every such place, from left to right and without overlaps. A word between two blanks is a
separator that can be found again: among parts that do not hold the word it stands nowhere but
between two of them, so parting the joined parts gives them back.
-/
namespace ClusterPilot.Text

/-- What stands before the first separator, and what stands after it when there is one. -/
def cutAt (sep : List Char) : List Char → List Char × Option (List Char)
  | [] => ([], none)
  | c :: cs =>
    if sep <+: c :: cs then ([], some ((c :: cs).drop sep.length))
    else (c :: (cutAt sep cs).1, (cutAt sep cs).2)

/-- The parts between separators, when `skip` more characters belong to one that has begun. -/
def partsFrom (sep : List Char) : Nat → List Char → List (List Char)
  | _, [] => [[]]
  | skip + 1, _ :: cs => partsFrom sep skip cs
  | 0, c :: cs =>
    if sep <+: c :: cs then [] :: partsFrom sep (sep.length - 1) cs
    else (partsFrom sep 0 cs).modifyHead (c :: ·)

/-- The parts of a text between all separators in it. -/
def parts (sep cs : List Char) : List (List Char) := partsFrom sep 0 cs

theorem partsFrom_skip (sep cs rest : List Char) :
    partsFrom sep cs.length (cs ++ rest) = partsFrom sep 0 rest := by
  induction cs with
  | nil => rfl
  | cons c cs ih => rw [List.length_cons, List.cons_append, partsFrom, ih]

/-! ## A word between two blanks -/

section

variable {blank : Char} {word cs : List Char}

/-- A word without a blank is in front of a text with a blank in it only when it is in front of what
stands before the blank. -/
theorem prefix_of_prefix_append (hblank : blank ∉ word) {rest : List Char}
    (h : word <+: cs ++ blank :: rest) : word <+: cs := by
  induction cs generalizing word with
  | nil =>
    cases word with
    | nil => exact List.nil_prefix
    | cons d word =>
      obtain ⟨rfl, -⟩ := List.cons_prefix_cons.1 h
      exact absurd List.mem_cons_self hblank
  | cons c cs ih =>
    cases word with
    | nil => exact List.nil_prefix
    | cons d word =>
      obtain ⟨rfl, htail⟩ := List.cons_prefix_cons.1 h
      have hnot : blank ∉ word := fun hmem => hblank (List.mem_cons_of_mem _ hmem)
      exact List.cons_prefix_cons.2 ⟨rfl, ih hnot htail⟩

/-- A word without a blank stands on one side of a blank when it stands anywhere. -/
theorem infix_of_infix_append (hblank : blank ∉ word) {rest : List Char}
    (h : word <:+: cs ++ blank :: rest) : word <:+: cs ∨ word <:+: rest := by
  induction cs with
  | nil =>
    rcases List.infix_cons_iff.1 h with hprefix | hinfix
    · exact .inl (prefix_of_prefix_append hblank hprefix).isInfix
    · exact .inr hinfix
  | cons c cs ih =>
    rcases List.infix_cons_iff.1 h with hprefix | hinfix
    · exact .inl (prefix_of_prefix_append hblank hprefix).isInfix
    · exact (ih hinfix).imp_left fun h => h.trans (List.suffix_cons c cs).isInfix

/-- The word with a blank on both sides. -/
def between (blank : Char) (word : List Char) : List Char := blank :: (word ++ [blank])

theorem between_not_starts (h : ¬ word <:+: cs) : ¬ between blank word <+: cs := by
  intro hprefix
  have hword : word <:+: between blank word := ⟨[blank], [blank], rfl⟩
  exact h (hword.trans hprefix.isInfix)

/-- A separator stands nowhere in a part and does not begin in one either. -/
theorem between_not_starts_append (hblank : blank ∉ word) {c : Char} (h : ¬ word <:+: c :: cs)
    (rest : List Char) : ¬ between blank word <+: c :: cs ++ between blank word ++ rest := by
  intro hprefix
  rw [between, List.append_assoc, List.cons_append, List.cons_prefix_cons, List.cons_append] at hprefix
  have hword : word <+: cs ++ blank :: (word ++ [blank] ++ rest) :=
    (List.prefix_append word [blank]).trans hprefix.2
  exact h ((prefix_of_prefix_append hblank hword).isInfix.trans (List.suffix_cons c cs).isInfix)

/-- The first separator after a part is the one at its end. -/
theorem cutAt_append (hblank : blank ∉ word) (h : ¬ word <:+: cs) (rest : List Char) :
    cutAt (between blank word) (cs ++ between blank word ++ rest) = (cs, some rest) := by
  induction cs with
  | nil =>
    have hstarts : between blank word <+: blank :: (word ++ [blank] ++ rest) :=
      List.prefix_append _ rest
    show cutAt (between blank word) (blank :: (word ++ [blank] ++ rest)) = _
    rw [cutAt, if_pos hstarts, ← List.cons_append]
    exact congrArg (fun after => ([], some after)) List.drop_left
  | cons c cs ih =>
    have hrest : ¬ word <:+: cs := fun hword => h (hword.trans (List.suffix_cons c cs).isInfix)
    rw [List.cons_append, List.cons_append, cutAt, ih hrest, if_neg]
    exact between_not_starts_append hblank h rest

theorem parts_of_not_infix (h : ¬ word <:+: cs) : parts (between blank word) cs = [cs] := by
  unfold parts
  induction cs with
  | nil => rfl
  | cons c cs ih =>
    have hrest : ¬ word <:+: cs := fun hword => h (hword.trans (List.suffix_cons c cs).isInfix)
    rw [partsFrom, if_neg (between_not_starts h), ih hrest]
    rfl

theorem parts_append (hblank : blank ∉ word) (h : ¬ word <:+: cs) (rest : List Char) :
    parts (between blank word) (cs ++ between blank word ++ rest) =
      cs :: parts (between blank word) rest := by
  unfold parts
  induction cs with
  | nil =>
    have hstarts : between blank word <+: blank :: (word ++ [blank] ++ rest) :=
      List.prefix_append _ rest
    show partsFrom (between blank word) 0 (blank :: (word ++ [blank] ++ rest)) = _
    rw [partsFrom, if_pos hstarts, between, List.length_cons, Nat.add_sub_cancel, partsFrom_skip]
  | cons c cs ih =>
    have hrest : ¬ word <:+: cs := fun hword => h (hword.trans (List.suffix_cons c cs).isInfix)
    rw [List.cons_append, List.cons_append, partsFrom, if_neg, ih hrest, List.modifyHead_cons]
    exact between_not_starts_append hblank h rest

/-- Parting the joined parts gives them back. -/
theorem parts_intercalate (hblank : blank ∉ word) {pieces : List (List Char)} (hne : pieces ≠ [])
    (h : ∀ piece ∈ pieces, ¬ word <:+: piece) :
    parts (between blank word) ((between blank word).intercalate pieces) = pieces := by
  induction pieces with
  | nil => exact absurd rfl hne
  | cons piece pieces ih =>
    rw [List.forall_mem_cons] at h
    cases pieces with
    | nil => rw [List.intercalate_singleton, parts_of_not_infix h.1]
    | cons piece' pieces =>
      rw [List.intercalate_cons_cons, parts_append hblank h.1, ih (List.cons_ne_nil _ _) h.2]

end

end ClusterPilot.Text
