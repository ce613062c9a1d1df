/-
Texts between double quotes on one line. Visible ASCII characters and blanks may stand for
themselves, the quote and the backslash after a backslash, and every character may be written by the
digits of its number. However a text is written, it is read back as it was.
-/
import ClusterPilot.Proofs.Yaml.Cursor
import ClusterPilot.Yaml.Scalar
import Mathlib.Algebra.Group.Nat.Defs
import Mathlib.Data.List.TakeWhile

namespace ClusterPilot.Yaml

open ClusterPilot.Number

/-! ## Spellings -/

/-- The letters that announce the number of a character, and how many digits follow them. -/
def codeLetters : List (Char × Nat) := [('x', 2), ('u', 4), ('U', 8)]

/-- A character between double quotes. -/
inductive CharSpelled (c : Char) : List Char → Prop
  | plain (visible : IsPrintable c) (quote : c ≠ '"') (backslash : c ≠ '\\') : CharSpelled c [c]
  | marked (h : c = '"' ∨ c = '\\') : CharSpelled c ['\\', c]
  | code (letter : Char) (ds : List Char) (length : (letter, ds.length) ∈ codeLetters)
      (digits : ∀ d ∈ ds, isHexDigit d = true) (value : ofHexDigits ds = c.toNat) :
    CharSpelled c ('\\' :: letter :: ds)

/-- The characters of a text between double quotes. -/
inductive TextSpelled : List Char → List Char → Prop
  | nil : TextSpelled [] []
  | cons {c cs s ds} (head : CharSpelled c cs) (tail : TextSpelled s ds) :
    TextSpelled (c :: s) (cs ++ ds)

theorem exists_hexDigits (w : Nat) {n : Nat} (h : n < 16 ^ w) :
    ∃ ds : List Char, ds.length = w ∧ (∀ d ∈ ds, isHexDigit d = true) ∧ ofHexDigits ds = n := by
  induction w generalizing n with
  | zero =>
    have hn : n = 0 := by simpa using h
    exact ⟨[], rfl, nofun, hn.symm⟩
  | succ w ih =>
    have hdigit : ∀ k < 16, ∃ d, isHexDigit d = true ∧ hexDigitValue d = k := by
      have hall : ∀ k < 16, isHexDigit k.digitChar = true ∧ hexDigitValue k.digitChar = k := by
        decide
      exact fun k hk => ⟨_, hall k hk⟩
    obtain ⟨ds, hlength, hhex, hvalue⟩ := ih (n := n / 16) (by rw [Nat.pow_succ] at h; omega)
    obtain ⟨d, hd, hk⟩ := hdigit (n % 16) (by omega)
    refine ⟨ds ++ [d], by simp [hlength], ?_, ?_⟩
    · intro x hx
      rcases List.mem_append.1 hx with hx | hx
      · exact hhex x hx
      · rw [List.mem_singleton.1 hx]
        exact hd
    · unfold ofHexDigits at *
      rw [List.foldl_append, hvalue, List.foldl_cons, List.foldl_nil, hk]
      omega

theorem toNat_scalar (c : Char) : c.toNat < 0xd800 ∨ 0xdfff < c.toNat ∧ c.toNat < 0x110000 :=
  c.valid

theorem exists_charSpelled (c : Char) : ∃ cs, CharSpelled c cs := by
  have hc : c.toNat < 16 ^ 8 := by
    have := toNat_scalar c
    omega
  obtain ⟨ds, hlength, hhex, hvalue⟩ := exists_hexDigits 8 hc
  exact ⟨_, .code 'U' ds (by rw [hlength]; decide) hhex hvalue⟩

theorem exists_textSpelled (s : List Char) : ∃ cs, TextSpelled s cs := by
  induction s with
  | nil => exact ⟨[], .nil⟩
  | cons c s ih =>
    obtain ⟨cs, hc⟩ := exists_charSpelled c
    obtain ⟨ds, hs⟩ := ih
    exact ⟨cs ++ ds, .cons hc hs⟩

/-! ## Only visible characters are written -/

theorem isPrintable_of_isHexDigit {d : Char} (h : isHexDigit d = true) : IsPrintable d := by
  unfold isHexDigit isDigit at h
  simp only [Bool.or_eq_true, Bool.and_eq_true, decide_eq_true_eq] at h
  unfold IsPrintable
  rcases h with (⟨h1, h2⟩ | ⟨h1, h2⟩) | ⟨h1, h2⟩
  · change 48 ≤ d.toNat at h1
    change d.toNat ≤ 57 at h2
    omega
  · change 97 ≤ d.toNat at h1
    change d.toNat ≤ 102 at h2
    omega
  · change 65 ≤ d.toNat at h1
    change d.toNat ≤ 70 at h2
    omega

theorem CharSpelled.isPrintable {c : Char} {cs : List Char} (h : CharSpelled c cs) :
    ∀ x ∈ cs, IsPrintable x := by
  cases h with
  | plain visible quote backslash => simpa using visible
  | marked h => rcases h with rfl | rfl <;> simp [IsPrintable]
  | code letter ds length digits value =>
    have hletter : ∀ e ∈ codeLetters, IsPrintable e.1 := by decide
    simp only [List.mem_cons, forall_eq_or_imp]
    exact ⟨by decide, hletter _ length, fun d hd => isPrintable_of_isHexDigit (digits d hd)⟩

theorem TextSpelled.isPrintable {s cs : List Char} (h : TextSpelled s cs) :
    ∀ x ∈ cs, IsPrintable x := by
  induction h with
  | nil => nofun
  | cons head tail ih =>
    intro x hx
    rcases List.mem_append.1 hx with hx | hx
    · exact head.isPrintable x hx
    · exact ih x hx

/-! ## Reading -/

section Reading

variable {c : Cursor} {rest : List Char} (fuel : Nat)

theorem quotedRest_close (h : c.rest = '"' :: rest) (hsound : c.beyond = none) :
    quotedRest true (fuel + 1) c = .ok ([], c.along 1 rest) := by
  have hpart : quotedPart true '"' c = .ok (none, c.along 1 rest) := by
    rw [← Cursor.advance_inline h (by decide)]
    rfl
  rw [quotedRest]
  simp only [Cursor.reach_ok hsound, Cursor.peek?, h, List.head?_cons, bind, Except.bind, hpart]
  rfl

/-- What a part stands for comes first. -/
theorem quotedRest_part {x : Char} (part : List Char) {after : Cursor} (hsound : c.beyond = none)
    (hpeek : c.peek? = some x) (hpart : quotedPart true x c = .ok (some part, after)) :
    quotedRest true (fuel + 1) c =
      (quotedRest true fuel after).map fun r => (part ++ r.1, r.2) := by
  rw [quotedRest]
  simp only [Cursor.reach_ok hsound, hpeek, bind, Except.bind, hpart]
  cases quotedRest true fuel after <;> rfl

/-- A character that may stand for itself, and is no blank. -/
theorem quotedRest_plain {x : Char} (h : c.rest = x :: rest) (hsound : c.beyond = none)
    (visible : IsPrintable x) (quote : x ≠ '"') (backslash : x ≠ '\\') (blank : x ≠ ' ') :
    quotedRest true (fuel + 1) c =
      (quotedRest true fuel (c.along 1 rest)).map fun r => (x :: r.1, r.2) := by
  have hx := visible.isInline
  have htab : x ≠ '\t' := by
    rintro rfl
    exact absurd visible (by decide)
  refine quotedRest_part fuel [x] hsound (by rw [Cursor.peek?, h]; rfl) ?_
  rw [← Cursor.advance_inline h hx, quotedPart]
  simp [hx.1, htab, quote, backslash, blank, pure, Except.pure]

/-- A run of blanks that does not end the line. -/
theorem quotedRest_blanks {bs : List Char} (h : c.rest = bs ++ rest) (hsound : c.beyond = none)
    (nonempty : bs ≠ []) (blanks : ∀ x ∈ bs, x = ' ')
    (next : ∀ x, rest.head? = some x → IsPrintable x ∧ x ≠ ' ') :
    quotedRest true (fuel + 1) c =
      (quotedRest true fuel (c.along bs.length rest)).map fun r => (bs ++ r.1, r.2) := by
  obtain ⟨b, bs', rfl⟩ := List.exists_cons_of_ne_nil nonempty
  obtain rfl : b = ' ' := blanks b List.mem_cons_self
  have hpeek : c.peek? = some ' ' := by
    rw [Cursor.peek?, h]
    rfl
  have hspan : c.span (fun x => x = ' ' || x = '\t') =
      (' ' :: bs', c.along (' ' :: bs').length rest) := by
    refine Cursor.span_inline h (fun x hx => ?_) (fun x hx => ?_) (fun x hx => ?_)
    · rw [blanks x hx]
      decide
    · rw [blanks x hx]
      rfl
    · obtain ⟨visible, blank⟩ := next x hx
      have htab : x ≠ '\t' := by
        rintro rfl
        exact absurd visible (by decide)
      simp [blank, htab]
  have hbreak : (rest.head?.any isBreak) = false := by
    cases hx : rest.head? with
    | none => rfl
    | some x => exact (next x hx).1.isInline.1
  have hspace : quotedSpace c = .ok (' ' :: bs', c.along (' ' :: bs').length rest) := by
    unfold quotedSpace
    simp only [hspan, Cursor.reach_ok (c := c.along (' ' :: bs').length rest) hsound, Cursor.peek?,
      Cursor.along_rest, hbreak]
    rfl
  refine quotedRest_part fuel (' ' :: bs') hsound hpeek ?_
  rw [quotedPart, if_pos (.inl rfl), hspace]
  rfl

/-- An escape stands for what its letter says. -/
theorem quotedRest_escape {letter : Char} (part : List Char) {more : List Char} {after : Cursor}
    (h : c.rest = '\\' :: letter :: more) (hsound : c.beyond = none)
    (hescape : escape (c.along 1 (letter :: more)) = .ok (part, after)) :
    quotedRest true (fuel + 1) c =
      (quotedRest true fuel after).map fun r => (part ++ r.1, r.2) := by
  refine quotedRest_part fuel part hsound (x := '\\') (by rw [Cursor.peek?, h]; rfl) ?_
  rw [← Cursor.advance_inline h (by decide)] at hescape
  have hblank : ¬('\\' = ' ' ∨ '\\' = '\t' ∨ isBreak '\\' = true) := by decide
  rw [quotedPart, if_neg hblank, if_pos ⟨rfl, rfl⟩, hescape]
  rfl

theorem quotedRest_marked {x : Char} (h : c.rest = '\\' :: x :: rest) (hsound : c.beyond = none)
    (hx : x = '"' ∨ x = '\\') :
    quotedRest true (fuel + 1) c =
      (quotedRest true fuel (c.along 2 rest)).map fun r => (x :: r.1, r.2) := by
  have hadvance : (c.along 1 (x :: rest)).advance = c.along 2 rest := by
    rw [Cursor.advance_inline rfl (by rcases hx with rfl | rfl <;> decide), Cursor.along_along]
  have hescaped : escaped? x = some x := by rcases hx with rfl | rfl <;> rfl
  refine quotedRest_escape fuel [x] h hsound ?_
  unfold escape
  simp only [Cursor.reach_ok (c := c.along 1 (x :: rest)) hsound, Cursor.peek?, Cursor.along_rest,
    List.head?_cons, hescaped, hadvance]
  rfl

theorem codePoint_digits {letter : Char} {ds : List Char} (h : c.rest = letter :: (ds ++ rest))
    (inline : IsInline letter) (digits : ∀ d ∈ ds, isHexDigit d = true) :
    codePoint ds.length c = .ok (ofHexDigits ds, c.along (ds.length + 1) rest) := by
  have hadvance : c.advance = c.along 1 (ds ++ rest) := Cursor.advance_inline h inline
  have hdigits : (c.along 1 (ds ++ rest)).advanceBy ds.length = c.along (ds.length + 1) rest := by
    rw [Cursor.advanceBy_inline rfl fun d hd => (isPrintable_of_isHexDigit (digits d hd)).isInline,
      Cursor.along_along, Nat.add_comm]
  have htake : ds.takeWhile isHexDigit = ds := List.takeWhile_eq_self_iff.2 digits
  unfold codePoint hexDigits
  simp only [hadvance, Cursor.along_rest, List.take_left, htake, if_true, hdigits]
  rfl

theorem quotedRest_code {x : Char} {ds : List Char} {letter : Char}
    (h : c.rest = '\\' :: letter :: (ds ++ rest)) (hsound : c.beyond = none)
    (length : (letter, ds.length) ∈ codeLetters) (digits : ∀ d ∈ ds, isHexDigit d = true)
    (value : ofHexDigits ds = x.toNat) :
    quotedRest true (fuel + 1) c =
      (quotedRest true fuel (c.along (ds.length + 2) rest)).map fun r => (x :: r.1, r.2) := by
  have hletters : ∀ e ∈ codeLetters, IsInline e.1 ∧ escaped? e.1 = none ∧
      escapeLength? e.1 = some e.2 := by decide
  obtain ⟨hinline, hescaped, hlength⟩ := hletters _ length
  have hcode : codePoint ds.length (c.along 1 (letter :: (ds ++ rest))) =
      .ok (x.toNat, c.along (ds.length + 2) rest) := by
    rw [codePoint_digits rfl hinline digits, value, Cursor.along_along, Nat.add_comm 1]
  have htext : codePointText x.toNat (c.along (ds.length + 2) rest) =
      .ok ([x], c.along (ds.length + 2) rest) := by
    have hscalar := toNat_scalar x
    unfold codePointText isFirstHalf isSecondHalf
    rw [if_neg (by omega), if_neg (by omega), if_neg (by simp; omega), if_neg (by simp; omega),
      Char.ofNat_toNat]
  refine quotedRest_escape fuel [x] h hsound ?_
  unfold escape
  simp only [Cursor.reach_ok (c := c.along 1 (letter :: (ds ++ rest))) hsound, Cursor.peek?,
    Cursor.along_rest, List.head?_cons, hescaped, hlength, bind, Except.bind, hcode, htext]

/-- However a character is written, it is read. Blanks are read together. -/
theorem quotedRest_char {x : Char} {ws : List Char} (spelled : CharSpelled x ws)
    (h : c.rest = ws ++ rest) (hsound : c.beyond = none) (blank : ws.head? ≠ some ' ') :
    quotedRest true (fuel + 1) c =
      (quotedRest true fuel (c.along ws.length rest)).map fun r => (x :: r.1, r.2) := by
  cases spelled with
  | plain visible quote backslash =>
    exact quotedRest_plain fuel h hsound visible quote backslash fun h => blank (h ▸ rfl)
  | marked hx => exact quotedRest_marked fuel h hsound hx
  | code letter ds length digits value =>
    exact quotedRest_code fuel h hsound length digits value

end Reading

/-- The blanks that a written text starts with, and the rest of it. -/
theorem TextSpelled.exists_blanks {s cs : List Char} (h : TextSpelled s cs) :
    ∃ bs s' cs', s = bs ++ s' ∧ cs = bs ++ cs' ∧ (∀ x ∈ bs, x = ' ') ∧ TextSpelled s' cs' ∧
      cs'.head? ≠ some ' ' := by
  induction h with
  | nil => exact ⟨[], [], [], rfl, rfl, nofun, .nil, nofun⟩
  | @cons c cs s ds head tail ih =>
    obtain ⟨bs, s', cs', rfl, rfl, blanks, spelled, next⟩ := ih
    cases head with
    | plain visible quote backslash =>
      by_cases hblank : c = ' '
      · refine ⟨c :: bs, s', cs', rfl, rfl, ?_, spelled, next⟩
        simpa [hblank] using blanks
      · exact ⟨[], _, _, rfl, rfl, nofun, .cons (.plain visible quote backslash) tail,
          fun h => hblank (Option.some.inj h)⟩
    | marked h => exact ⟨[], _, _, rfl, rfl, nofun, .cons (.marked h) tail, nofun⟩
    | code letter ds length digits value =>
      exact ⟨[], _, _, rfl, rfl, nofun, .cons (.code letter ds length digits value) tail, nofun⟩

/-- A written text is read back up to the quote that closes it. -/
theorem quotedRest_spelled {s cs : List Char} (h : TextSpelled s cs) {c : Cursor} {rest : List Char}
    (hc : c.rest = cs ++ '"' :: rest) (hsound : c.beyond = none) {fuel : Nat}
    (enough : cs.length < fuel) :
    quotedRest true fuel c = .ok (s, c.along (cs.length + 1) rest) := by
  -- on the length of what is written, since a run of blanks is read at once
  induction hn : cs.length using Nat.strongRecOn generalizing s cs c fuel with
  | ind n ih =>
    subst hn
    obtain ⟨fuel, rfl⟩ : ∃ k, fuel = k + 1 := ⟨fuel - 1, by omega⟩
    obtain ⟨bs, s', cs', rfl, rfl, blanks, spelled, next⟩ := h.exists_blanks
    by_cases hbs : bs = []
    · subst hbs
      simp only [List.nil_append] at *
      cases spelled with
      | nil => exact quotedRest_close fuel hc hsound
      | @cons x ws s ds head tail =>
        have hpos : ws ≠ [] := by cases head <;> exact List.cons_ne_nil _ _
        have hhead : ws.head? ≠ some ' ' := by
          obtain ⟨y, ys, rfl⟩ := List.exists_cons_of_ne_nil hpos
          exact next
        have := List.length_pos_iff.2 hpos
        rw [List.append_assoc] at hc
        rw [List.length_append] at enough ih ⊢
        have hread : quotedRest true fuel (c.along ws.length (ds ++ '"' :: rest)) =
            .ok (s, (c.along ws.length (ds ++ '"' :: rest)).along (ds.length + 1) rest) :=
          ih ds.length (by omega) tail rfl (by simpa using hsound) (by omega) rfl
        rw [quotedRest_char fuel head hc hsound hhead, hread, Cursor.along_along]
        simp [Except.map, Nat.add_assoc]
    · have hpos : 0 < bs.length := List.length_pos_iff.2 hbs
      rw [List.append_assoc] at hc
      rw [List.length_append] at enough ih ⊢
      have hnext : ∀ x, (cs' ++ '"' :: rest).head? = some x → IsPrintable x ∧ x ≠ ' ' := by
        intro x hx
        cases cs' with
        | nil =>
          cases hx
          decide
        | cons y cs' =>
          cases hx
          exact ⟨spelled.isPrintable x List.mem_cons_self, fun h => next (h ▸ rfl)⟩
      have hread : quotedRest true fuel (c.along bs.length (cs' ++ '"' :: rest)) =
          .ok (s', (c.along bs.length (cs' ++ '"' :: rest)).along (cs'.length + 1) rest) :=
        ih cs'.length (by omega) spelled rfl (by simpa using hsound) (by omega) rfl
      rw [quotedRest_blanks fuel hc hsound hbs blanks hnext, hread, Cursor.along_along]
      simp [Except.map, Nat.add_assoc]

/-- A written text between its quotes is read back. -/
theorem quoted_spelled {s cs : List Char} (h : TextSpelled s cs) {c : Cursor} {rest : List Char}
    (hc : c.rest = '"' :: cs ++ '"' :: rest) (hsound : c.beyond = none) :
    quoted true c = .ok (s, c.along (cs.length + 2) rest) := by
  have hfirst : c.advance = c.along 1 (cs ++ '"' :: rest) := Cursor.advance_inline hc (by decide)
  have hlength : cs.length < c.rest.length + 1 := by
    rw [hc]
    simp
    omega
  unfold quoted
  rw [hfirst, quotedRest_spelled (c := c.along 1 (cs ++ '"' :: rest)) h rfl hsound hlength,
    Cursor.along_along]
  simp [Nat.add_left_comm]

end ClusterPilot.Yaml
