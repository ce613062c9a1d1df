/-
Outlines: mappings whose values are scalars on the lines of their keys, or groups of such lines.
An outline may be written with any indentation of its groups, any number of blanks after its colons,
and with or without a line end at its end; its data never depends on that.
-/
import ClusterPilot.Proofs.Yaml.Building

namespace ClusterPilot.Yaml

open ClusterPilot.Number
open Scanner (Spelled)

/-! ## Keys -/

theorem not_isDigit_of_isKeyChar {x : Char} (h : isKeyChar x = true) : isDigit x = false := by
  have hhigh : 65 ≤ x.toNat := by
    unfold isKeyChar Char.isAlpha Char.isUpper Char.isLower at h
    simp only [Bool.or_eq_true, Bool.and_eq_true, decide_eq_true_eq] at h
    rcases h with (⟨h1, -⟩ | ⟨h1, -⟩) | rfl
    · exact h1
    · change 97 ≤ x.toNat at h1
      omega
    · decide
  unfold isDigit
  rw [Bool.and_eq_false_iff]
  right
  rw [decide_eq_false_iff_not]
  intro hle
  change x.toNat ≤ 57 at hle
  omega

section Forms

variable {k : List Char} (h : IsKey k)
include h

theorem not_mem_of_isKey {y : Char} (hy : isKeyChar y = false) : y ∉ k :=
  fun hmem => ne_of_isKeyChar (h.chars y hmem) hy rfl

theorem dropSign_of_isKey : Tag.dropSign k = k := by
  unfold Tag.dropSign
  split
  · exact absurd List.mem_cons_self (not_mem_of_isKey h (by decide))
  · exact absurd List.mem_cons_self (not_mem_of_isKey h (by decide))
  · rfl

theorem not_isInteger_of_isKey : Tag.isInteger k = false := by
  rw [Bool.eq_false_iff]
  intro hinteger
  obtain ⟨d, rest, hdrop, hdigit⟩ := head_of_isInteger hinteger
  rw [dropSign_of_isKey h] at hdrop
  have hkey := h.chars d (hdrop ▸ List.mem_cons_self)
  rw [not_isDigit_of_isKeyChar hkey] at hdigit
  cases hdigit

theorem not_isNumber_of_isKey : Tag.isNumber k = false := by
  rw [Bool.eq_false_iff]
  exact fun hnumber => not_mem_of_isKey h (by decide) (point_mem_of_isNumber hnumber)

theorem ofText?_of_isKey : DateParts.ofText? k = none := by
  obtain ⟨x, xs, hxs⟩ := List.exists_cons_of_ne_nil h.nonempty
  have hdigit := not_isDigit_of_isKeyChar (h.chars x (hxs ▸ List.mem_cons_self))
  have hyear : DateParts.digits? 4 4 k = none := by
    rw [hxs]
    simp [DateParts.digits?, hdigit]
  unfold DateParts.ofText?
  rw [hyear]
  rfl

/-- A text that starts with a letter or an underscore has the form of no number and no date. -/
theorem ofPlain_of_isKey :
    Tag.ofPlain k = .bool ∧ String.ofList k ∈ Tag.boolWords.1 ++ Tag.boolWords.2 ∨
      Tag.ofPlain k = .null ∨ Tag.ofPlain k = .text := by
  have hother : ∀ s : String, (∃ y ∈ s.toList, isKeyChar y = false) → String.ofList k ≠ s := by
    rintro s ⟨y, hmem, hy⟩ rfl
    rw [String.toList_ofList] at hmem
    exact not_mem_of_isKey h hy hmem
  have hlast : k.getLast? ≠ some '\n' := fun hfeed =>
    not_mem_of_isKey h (by decide) (List.mem_of_getLast? hfeed)
  have hsigns : Tag.signs.contains (String.ofList k) = false := by
    have hall : ∀ s ∈ Tag.signs, ∃ y ∈ s.toList, isKeyChar y = false :=
      List.forall_mem_cons.2 ⟨⟨'!', by decide, rfl⟩, List.forall_mem_cons.2
        ⟨⟨'&', by decide, rfl⟩, List.forall_mem_singleton.2 ⟨'*', by decide, rfl⟩⟩⟩
    rw [Bool.eq_false_iff, ne_eq, List.contains_iff_mem]
    exact fun hmem => hother _ (hall _ hmem) rfl
  rw [Tag.ofPlain_eq hlast]
  unfold Tag.ofForm
  simp only [not_isInteger_of_isKey h, not_isNumber_of_isKey h, ofText?_of_isKey h,
    hother "<<" ⟨'<', by decide, rfl⟩, hother "=" ⟨'=', by decide, rfl⟩, hsigns]
  split
  · rename_i hbool
    exact .inl ⟨rfl, by simpa using hbool⟩
  · split
    · exact .inr (.inl rfl)
    · exact .inr (.inr rfl)

/-- Every key has data, which is no other text. -/
theorem exists_data_of_isKey :
    ∃ d, ScalarData.ofText (Tag.ofPlain k) k = .ok d ∧
      ∀ s, d = .text s → s = String.ofList k := by
  rcases ofPlain_of_isKey h with ⟨htag, hword⟩ | htag | htag
  · obtain ⟨b, hb⟩ := ScalarData.exists_boolean hword
    rw [String.toList_ofList] at hb
    rw [htag]
    refine ⟨.bool b, ?_, nofun⟩
    show Data.bool <$> ScalarData.boolean k = _
    rw [hb]
    rfl
  · rw [htag]
    exact ⟨.null, rfl, nofun⟩
  · rw [htag]
    refine ⟨.text (String.ofList k), rfl, ?_⟩
    rintro s ⟨⟩
    rfl

end Forms

/-! ## Outlines -/

/-- How an outline is laid out: the columns of its groups, the blanks after its colons, and whether
a line end closes it. -/
structure Layout where
  indent : Nat
  gap : Nat
  closed : Bool
  indent_pos : 0 < indent
  gap_pos : 0 < gap

/-- A key and a scalar, with the scalar as it is written. -/
structure Line where
  key : List Char
  content : List Char
  plain : Bool
  spelled : List Char
  isKey : IsKey key
  isSpelled : Spelled content plain spelled

/-- A line, or a key with lines of its own. -/
inductive Part where
  | line (l : Line)
  | group (key : List Char) (isKey : IsKey key) (first : Line) (more : List Line)

/-- The data of the scalar of a line. -/
def Line.data (l : Line) : Except Error Data :=
  ScalarData.ofText (if l.plain then Tag.ofPlain l.content else .text) l.content

/-- The line as an entry of a mapping. -/
def Line.entry (layout : Layout) (l : Line) : Entry :=
  ⟨l.key, List.replicate layout.gap ' ' ++ l.spelled, [.scalar l.content l.plain], l.data⟩

/-- The part as an entry of a mapping. -/
def Part.entry (layout : Layout) : Part → Entry
  | line l => l.entry layout
  | group key _ first more =>
    let es := (first :: more).map (Line.entry layout)
    ⟨key, Entry.below layout.indent es, Entry.mapping es, .mapping <$> Entry.mappingData es⟩

/-- What is written for an outline. -/
def Layout.text (layout : Layout) : List Part → List Char
  | [] => []
  | p :: ps =>
    (p.entry layout).text ++ (Entry.below 0 (ps.map (Part.entry layout)) ++
      if layout.closed then ['\n'] else [])

section

variable (layout : Layout)

theorem Line.fits (l : Line) (column : Nat) (outer : List Int) :
    (l.entry layout).Fits column outer where
  isKey := l.isKey
  starts := by
    obtain ⟨n, hn⟩ : ∃ n, layout.gap = n + 1 := ⟨layout.gap - 1, by have := layout.gap_pos; omega⟩
    left
    simp [Line.entry, hn, List.replicate_succ]
  reads := reads_scalar l.isSpelled

theorem Line.stands (l : Line) : (l.entry layout).Stands 0 where
  key := by
    obtain ⟨d, hd, -⟩ := exists_data_of_isKey l.isKey
    exact ⟨d, hd⟩
  body := builds_scalar l.content l.plain

theorem Part.isKey (p : Part) : IsKey (p.entry layout).key := by
  cases p with
  | line l => exact l.isKey
  | group key isKey first more => exact isKey

theorem Part.fits (p : Part) : (p.entry layout).Fits 0 [-1] := by
  cases p with
  | line l => exact l.fits layout 0 [-1]
  | group key isKey first more =>
    refine ⟨isKey, .inr rfl, reads_mapping layout.indent_pos (List.cons_ne_nil _ _) ?_⟩
    intro e he
    obtain ⟨l, -, rfl⟩ := List.mem_map.1 he
    exact l.fits layout _ _

theorem Part.stands (p : Part) : (p.entry layout).Stands 1 := by
  cases p with
  | line l =>
    exact ⟨(l.stands layout).key, (l.stands layout).body.mono (Nat.zero_le 1)⟩
  | group key isKey first more =>
    obtain ⟨d, hd, -⟩ := exists_data_of_isKey isKey
    refine ⟨⟨d, hd⟩, builds_mapping ?_⟩
    intro e he
    obtain ⟨l, -, rfl⟩ := List.mem_map.1 he
    exact l.stands layout

/-! ## Characters -/

/-- The characters that an outline is written with. -/
def IsShown (x : Char) : Prop := IsPrintable x ∨ x = '\n'

theorem IsShown.isAllowed {x : Char} (h : IsShown x) : isAllowed x = true := by
  rcases h with h | rfl
  · exact h.isAllowed
  · decide

theorem Scanner.Spelled.isPrintable {content cs : List Char} {plain : Bool}
    (h : Spelled content plain cs) : ∀ x ∈ cs, IsPrintable x := by
  cases h with
  | word h => exact fun x hx => isPrintable_of_isWordChar (h.chars x hx)
  | quoted h =>
    intro x hx
    simp only [List.cons_append, List.mem_cons, List.mem_append, List.not_mem_nil, or_false] at hx
    rcases hx with rfl | hx | rfl
    · decide
    · exact h.isPrintable x hx
    · decide

theorem IsKey.isShown {k : List Char} (h : IsKey k) : ∀ x ∈ k, IsShown x := fun x hx =>
  .inl (isPrintable_of_isWordChar (h.isWord.chars x hx))

theorem isShown_below {es : List Entry} (h : ∀ e ∈ es, ∀ x ∈ e.text, IsShown x) (column : Nat) :
    ∀ x ∈ Entry.below column es, IsShown x := by
  intro x hx
  obtain ⟨e, he, hx⟩ := List.mem_flatMap.1 hx
  rcases List.mem_cons.1 hx with rfl | hx
  · exact .inr rfl
  rcases List.mem_append.1 hx with hx | hx
  · rw [(List.mem_replicate.1 hx).2]
    exact .inl (by decide)
  · exact h e he x hx

theorem isShown_text {e : Entry} (hkey : IsKey e.key) (hbody : ∀ x ∈ e.body, IsShown x) :
    ∀ x ∈ e.text, IsShown x := by
  intro x hx
  rcases List.mem_append.1 hx with hx | hx
  · exact hkey.isShown x hx
  rcases List.mem_cons.1 hx with rfl | hx
  · exact .inl (by decide)
  · exact hbody x hx

theorem Line.isShown (l : Line) : ∀ x ∈ (l.entry layout).text, IsShown x := by
  refine isShown_text l.isKey fun x hx => ?_
  rcases List.mem_append.1 hx with hx | hx
  · rw [(List.mem_replicate.1 hx).2]
    exact .inl (by decide)
  · exact .inl (l.isSpelled.isPrintable x hx)

theorem Part.isShown (p : Part) : ∀ x ∈ (p.entry layout).text, IsShown x := by
  cases p with
  | line l => exact l.isShown layout
  | group key isKey first more =>
    refine isShown_text isKey (isShown_below (fun e he => ?_) _)
    obtain ⟨l, -, rfl⟩ := List.mem_map.1 he
    exact l.isShown layout

theorem Layout.isShown (ps : List Part) : ∀ x ∈ layout.text ps, IsShown x := by
  cases ps with
  | nil => nofun
  | cons p ps =>
    intro x hx
    rcases List.mem_append.1 hx with hx | hx
    · exact p.isShown layout x hx
    rcases List.mem_append.1 hx with hx | hx
    · refine isShown_below (fun e he => ?_) 0 x hx
      obtain ⟨q, -, rfl⟩ := List.mem_map.1 he
      exact q.isShown layout
    · split at hx
      · exact .inr (List.mem_singleton.1 hx)
      · cases hx

/-! ## Reading -/

/-- The data of an outline. -/
def Layout.data : List Part → Except Error Data
  | [] => .ok .null
  | p :: ps => .mapping <$> Entry.mappingData ((p :: ps).map (Part.entry layout))

/-- An outline is read as its data, however it is laid out. -/
theorem read_outline (ps : List Part) (d : Data) :
    read 2 ⟨layout.text ps, none⟩ = .ok d ↔ layout.data ps = .ok d := by
  cases ps with
  | nil => exact Iff.rfl
  | cons p ps =>
    have hfits : ∀ e ∈ (p :: ps).map (Part.entry layout), e.Fits 0 [-1] := by
      intro e he
      obtain ⟨q, -, rfl⟩ := List.mem_map.1 he
      exact q.fits layout
    have hstands : ∀ e ∈ (p :: ps).map (Part.entry layout), e.Stands 1 := by
      intro e he
      obtain ⟨q, -, rfl⟩ := List.mem_map.1 he
      exact q.stands layout
    have hclosing : (if layout.closed then ['\n'] else []) = [] ∨
        (if layout.closed then ['\n'] else []) = ['\n'] := by
      cases layout.closed
      · exact .inl rfl
      · exact .inr rfl
    have hscan : Scan.ofSource ⟨layout.text (p :: ps), none⟩ = _ := scan_mapping hfits hclosing
    exact read_mapping hstands hscan (by decide) d

end

end ClusterPilot.Yaml
