/-
Words: texts that need no quotes. A word ends where the colon of a key, the end of its line or the
end of the text stands after it, and it is read as it is written; the line end and the indentation
of the next line are read with it.
-/
import ClusterPilot.Proofs.Yaml.Cursor
import ClusterPilot.Yaml.Scan

namespace ClusterPilot.Yaml

open Cursor (endsWith)

/-- The characters of words. -/
def isWordChar (x : Char) : Bool := x.isAlphanum || "_./+-".toList.contains x

/-- A text that needs no quotes. A dash alone is the sign of an entry. -/
structure IsWord (w : List Char) : Prop where
  nonempty : w ≠ []
  chars : ∀ x ∈ w, isWordChar x = true
  sign : w ≠ ['-']

instance (w : List Char) : Decidable (IsWord w) :=
  decidable_of_iff (w ≠ [] ∧ w.all isWordChar = true ∧ w ≠ ['-'])
    ⟨fun ⟨nonempty, chars, sign⟩ => ⟨nonempty, List.all_eq_true.1 chars, sign⟩,
      fun h => ⟨h.nonempty, List.all_eq_true.2 h.chars, h.sign⟩⟩

theorem isPrintable_of_isAlphanum {x : Char} (h : x.isAlphanum = true) : IsPrintable x := by
  unfold Char.isAlphanum Char.isAlpha Char.isUpper Char.isLower Char.isDigit at h
  simp only [Bool.or_eq_true, Bool.and_eq_true, decide_eq_true_eq] at h
  unfold IsPrintable
  rcases h with (⟨h1, h2⟩ | ⟨h1, h2⟩) | ⟨h1, h2⟩
  · change 65 ≤ x.toNat at h1
    change x.toNat ≤ 90 at h2
    omega
  · change 97 ≤ x.toNat at h1
    change x.toNat ≤ 122 at h2
    omega
  · change 48 ≤ x.toNat at h1
    change x.toNat ≤ 57 at h2
    omega

theorem isPrintable_of_isWordChar {x : Char} (h : isWordChar x = true) : IsPrintable x := by
  rcases Bool.or_eq_true_iff.1 h with h | h
  · exact isPrintable_of_isAlphanum h
  · have hall : ("_./+-".toList.all fun y => IsPrintable y) = true := by decide
    simpa using List.all_eq_true.1 hall x (List.contains_iff_mem.1 h)

/-- A character that is none of words is not one of them. -/
theorem ne_of_isWordChar {x y : Char} (h : isWordChar x = true) (hy : isWordChar y = false) :
    x ≠ y := by
  rintro rfl
  rw [h] at hy
  cases hy

theorem not_endsPlain {x : Char} (h : isWordChar x = true) (rest : List Char) :
    endsPlain false x rest = false := by
  have hbreak := (isPrintable_of_isWordChar h).isInline.1
  have hblank : x ≠ ' ' := ne_of_isWordChar h (by decide)
  have htab : x ≠ '\t' := ne_of_isWordChar h (by decide)
  have hcolon : x ≠ ':' := ne_of_isWordChar h (by decide)
  simp [endsPlain, hbreak, hblank, htab, hcolon]

/-! ## Keys -/

/-- The characters of keys. -/
def isKeyChar (x : Char) : Bool := x.isAlpha || x = '_'

/-- A word that is short enough for a key, and starts neither a number nor a mark between
documents. -/
structure IsKey (k : List Char) : Prop where
  nonempty : k ≠ []
  chars : ∀ x ∈ k, isKeyChar x = true
  short : k.length ≤ maxKeyLength

instance (k : List Char) : Decidable (IsKey k) :=
  decidable_of_iff (k ≠ [] ∧ k.all isKeyChar = true ∧ k.length ≤ maxKeyLength)
    ⟨fun ⟨nonempty, chars, short⟩ => ⟨nonempty, List.all_eq_true.1 chars, short⟩,
      fun h => ⟨h.nonempty, List.all_eq_true.2 h.chars, h.short⟩⟩

theorem isWordChar_of_isKeyChar {x : Char} (h : isKeyChar x = true) : isWordChar x = true := by
  unfold isKeyChar at h
  unfold isWordChar Char.isAlphanum
  rcases Bool.or_eq_true_iff.1 h with h | h
  · simp [h]
  · simp [of_decide_eq_true h]

theorem ne_of_isKeyChar {x y : Char} (h : isKeyChar x = true) (hy : isKeyChar y = false) :
    x ≠ y := by
  rintro rfl
  rw [h] at hy
  cases hy

theorem IsKey.isWord {k : List Char} (h : IsKey k) : IsWord k where
  nonempty := h.nonempty
  chars x hx := isWordChar_of_isKeyChar (h.chars x hx)
  sign := by
    rintro rfl
    exact absurd (h.chars '-' List.mem_cons_self) (by decide)

/-- What stands on further lines is nothing or starts with a key. -/
def StartsKey (next : List Char) : Prop := ∀ x, next.head? = some x → isKeyChar x = true

theorem StartsKey.next {next : List Char} (h : StartsKey next) :
    ∀ x, next.head? = some x → isBreak x = false ∧ x ≠ ' ' ∧ x ≠ '#' := by
  intro x hx
  have hkey := h x hx
  exact ⟨(isPrintable_of_isWordChar (isWordChar_of_isKeyChar hkey)).isInline.1,
    ne_of_isKeyChar hkey (by decide), ne_of_isKeyChar hkey (by decide)⟩

/-! ## Reading words -/

/-- A word ends a stretch of a plain scalar only where the stretch ends after it. -/
theorem plainStretch_word {w rest : List Char} (h : ∀ x ∈ w, isWordChar x = true)
    (hrest : plainStretch false rest = []) : plainStretch false (w ++ rest) = w := by
  induction w with
  | nil => exact hrest
  | cons x w ih =>
    rw [List.cons_append, plainStretch, not_endsPlain (h x List.mem_cons_self),
      if_neg Bool.false_ne_true, ih fun y hy => h y (List.mem_cons_of_mem x hy)]

section Plain

variable {c : Cursor} {w rest : List Char} {indent : Int} (fuel : Nat)

/-- The first stretch of a plain scalar that is a word. -/
theorem plain_stretch (hw : IsWord w) (h : c.rest = w ++ rest)
    (hrest : plainStretch false rest = []) :
    (if c.peek? = some '#' then [] else plainStretch false c.rest) = w := by
  have hhash : c.peek? ≠ some '#' := by
    obtain ⟨x, xs, rfl⟩ := List.exists_cons_of_ne_nil hw.nonempty
    rw [Cursor.peek?, h]
    intro heq
    exact ne_of_isWordChar (hw.chars x List.mem_cons_self) (by decide) (Option.some.inj heq)
  rw [if_neg hhash, h, plainStretch_word hw.chars hrest]

/-- Space that holds neither a blank nor a line end is nothing. -/
theorem plainSpace_nothing (hsound : c.beyond = none)
    (hnext : ∀ x, c.rest.head? = some x → isBreak x = false ∧ x ≠ ' ') :
    plainSpace c = .ok (([], false), c) := by
  have hspan : c.span (· = ' ') = ([], c) :=
    Cursor.span_of_head? fun x hx => by simpa using (hnext x hx).2
  have hbreak : (c.peek?.any isBreak) = false := by
    cases hx : c.rest.head? with
    | none => rw [Cursor.peek?, hx]; rfl
    | some x => rw [Cursor.peek?, hx]; exact (hnext x hx).1
  unfold plainSpace
  simp only [hspan, Cursor.reach_ok hsound, hbreak]
  rfl

/-- A word that is followed by the colon of a key, or by nothing. -/
theorem plain_word (hw : IsWord w) (h : c.rest = w ++ rest) (hsound : c.beyond = none)
    (hrest : rest = [] ∨ ∃ more, rest = ':' :: more ∧ endsWith [' ', '\t'] more.head? = true) :
    plain false indent (fuel + 1) [] false c = .ok ((w, false), c.along w.length rest) := by
  have hstop : plainStretch false rest = [] := by
    rcases hrest with rfl | ⟨more, rfl, hmore⟩
    · rfl
    · rw [plainStretch, endsPlain]
      simp [hmore]
  have hspace : plainSpace (c.along w.length rest) = .ok (([], false), c.along w.length rest) := by
    refine plainSpace_nothing hsound fun x hx => ?_
    rcases hrest with rfl | ⟨more, rfl, -⟩
    · cases hx
    · cases hx
      decide
  have hadvance : c.advanceBy w.length = c.along w.length rest :=
    Cursor.advanceBy_inline h fun x hx => (isPrintable_of_isWordChar (hw.chars x hx)).isInline
  have hempty : w.isEmpty = false := by simpa using hw.nonempty
  rw [plain]
  simp only [plain_stretch hw h hstop, hempty, hadvance, Cursor.reach_ok hsound,
    Cursor.reach_ok (c := c.along w.length rest) hsound, bind, Except.bind, hspace]
  simp [pure, Except.pure]

/-- Indentation holds no blank lines. -/
theorem plainBreaks_indentation {n : Nat} {next : List Char} (hnext : StartsKey next)
    (h : c.rest = List.replicate n ' ' ++ next) (hsound : c.beyond = none) :
    plainBreaks (fuel + 1) c = .ok (some [], c.along n next) := by
  have hskip : c.skip (· = ' ') = c.along n next := by
    have := Cursor.skip_inline (p := (· = ' ')) h
      (fun x hx => (List.mem_replicate.1 hx).2 ▸ by decide)
      (fun x hx => by simpa using (List.mem_replicate.1 hx).2)
      (fun x hx => by simpa using (hnext.next x hx).2.1)
    rwa [List.length_replicate] at this
  have hbreak : (next.head?.any isBreak) = false := by
    cases hx : next.head? with
    | none => rfl
    | some x => exact (hnext.next x hx).1
  rw [plainBreaks]
  simp only [hskip, Cursor.reach_ok (c := c.along n next) hsound, Cursor.peek?, Cursor.along_rest,
    hbreak]
  rfl

/-- No mark between documents stands where a line is indented or starts with a key. -/
theorem atDocumentMark_indentation {n : Nat} {next : List Char} (hnext : StartsKey next)
    (h : c.rest = List.replicate n ' ' ++ next) : c.atDocumentMark = false := by
  have hhead : c.rest.head? ≠ some '-' ∧ c.rest.head? ≠ some '.' := by
    rw [h]
    cases n with
    | zero =>
      constructor
      · intro heq
        exact absurd (hnext '-' heq) (by decide)
      · intro heq
        exact absurd (hnext '.' heq) (by decide)
    | succ n => constructor <;> exact nofun
  unfold Cursor.atDocumentMark Cursor.marks
  cases hrest : c.rest with
  | nil => rfl
  | cons x xs =>
    rw [hrest] at hhead
    have hdash : x ≠ '-' := fun heq => hhead.1 (congrArg some heq)
    have hpoint : x ≠ '.' := fun heq => hhead.2 (congrArg some heq)
    simp [hdash, hpoint]

/-- A line end before a line that is indented or starts with a key counts as one blank. -/
theorem plainSpace_newline {n : Nat} {next : List Char} (hnext : StartsKey next)
    (h : c.rest = '\n' :: (List.replicate n ' ' ++ next)) (hsound : c.beyond = none) :
    plainSpace c = .ok (([' '], true), ⟨next, none, c.index + 1 + n, c.line + 1, n⟩) := by
  have hspan : c.span (· = ' ') = ([], c) := by
    refine Cursor.span_of_head? fun x hx => ?_
    rw [h] at hx
    cases hx
    rfl
  have hpeek : c.peek? = some '\n' := by
    rw [Cursor.peek?, h]
    rfl
  have hbreak : isBreak '\n' = true := by decide
  obtain ⟨line, hline, hrest, hline', halong⟩ : ∃ line, c.lineBreak = (['\n'], line) ∧
      line.rest = List.replicate n ' ' ++ next ∧ line.beyond = none ∧
      line.along n next = ⟨next, none, c.index + 1 + n, c.line + 1, n⟩ :=
    ⟨_, Cursor.lineBreak_newline h, rfl, hsound, by simp [Cursor.along, hsound]⟩
  have hmark : line.checkMark = .ok false := by
    rw [Cursor.checkMark_ok hline', atDocumentMark_indentation hnext hrest]
  unfold plainSpace
  simp only [hspan, Cursor.reach_ok hsound, hpeek, Option.any_some, hbreak, hline, bind,
    Except.bind, hmark, plainBreaks_indentation _ hnext hrest hline', halong]
  rfl

/-- A word at the end of a line, before a line that is not indented further. -/
theorem plain_line {n : Nat} {next : List Char} (hw : IsWord w) (hnext : StartsKey next)
    (h : c.rest = w ++ '\n' :: (List.replicate n ' ' ++ next)) (hsound : c.beyond = none)
    (hindent : (n : Int) < indent) :
    plain false indent (fuel + 1) [] false c =
      .ok ((w, true), ⟨next, none, c.index + w.length + 1 + n, c.line + 1, n⟩) := by
  have hadvance : c.advanceBy w.length =
      c.along w.length ('\n' :: (List.replicate n ' ' ++ next)) :=
    Cursor.advanceBy_inline h fun x hx => (isPrintable_of_isWordChar (hw.chars x hx)).isInline
  have hempty : w.isEmpty = false := by simpa using hw.nonempty
  have hspace := plainSpace_newline (c := c.along w.length ('\n' :: (List.replicate n ' ' ++ next)))
    hnext rfl hsound
  have hhash : next.head? ≠ some '#' := fun heq => (hnext.next '#' heq).2.2 rfl
  rw [plain]
  simp only [plain_stretch hw h rfl, hempty, hadvance, Cursor.reach_ok hsound,
    Cursor.reach_ok (c := c.along w.length _) hsound, bind, Except.bind, hspace]
  simp [Cursor.peek?, hhash, hindent, pure, Except.pure, Cursor.along]

end Plain

end ClusterPilot.Yaml
