/-
Characters beyond ASCII in a JSON text. Only the quoted texts of it can hold them: no bare word, no
blank, no punctuation and no escape has one. Where the quoted texts are can be told from the quotes
and the backslashes alone, and the scanner agrees with that as long as it goes on. So a text with
such a character at any other place is no JSON text.
-/
import ClusterPilot.Proofs.Json.Spelling

namespace ClusterPilot.Json

open ClusterPilot.Number

/-! ## Where the quoted texts are -/

/-- Where a place is with respect to the quoted texts. -/
inductive Quoting where
  | outside
  | inside
  /-- In a quoted text, right after a backslash. -/
  | escaped
  deriving DecidableEq, Repr

/-- Where the place after one more character is. -/
def Quoting.step : Quoting → Char → Quoting
  | .outside, c => if c = '"' then .inside else .outside
  | .inside, c => if c = '"' then .outside else if c = '\\' then .escaped else .inside
  | .escaped, _ => .inside

/-- Where the place after the characters of a text is. -/
def quoting (cs : List Char) : Quoting := cs.foldl Quoting.step .outside

/-- Where a scanner is with respect to the quoted texts. -/
def Mode.quoting : Mode → Quoting
  | .ground | .word _ => .outside
  | .text _ | .unit .. | .pair .. => .inside
  | .escape _ | .pairEscape .. => .escaped

theorem Quoting.step_of_ne {q : Quoting} {c : Char} (hq : c ≠ '"') (hb : c ≠ '\\')
    (h : q ≠ .escaped) : q.step c = q := by
  cases q with
  | outside => exact if_neg hq
  | inside => rw [step, if_neg hq, if_neg hb]
  | escaped => exact absurd rfl h

theorem ne_of_isHexDigit {c : Char} (h : isHexDigit c = true) : c ≠ '"' ∧ c ≠ '\\' := by
  constructor <;> rintro rfl <;> exact absurd h (by decide)

namespace Scanner

theorem quoting_ground (found : List Token) (c : Char) :
    (ground found c).mode.quoting = Quoting.outside.step c := by
  by_cases hq : c = '"'
  · subst hq
    rfl
  · have hstep : Quoting.outside.step c = .outside := if_neg hq
    rw [hstep, ground]
    split
    · rfl
    · split
      · rfl
      · rfl

theorem quoting_unit? {found : List Token} {read : List Char} {high : Option Nat} {n : Nat}
    {s : Scanner} (h : unit? found read high n = some s) : s.mode.quoting = .inside := by
  unfold unit? at h
  split at h
  · split at h
    · cases h
      rfl
    · split at h
      · cases h
      · cases h
        rfl
  · split at h
    · cases h
      rfl
    · cases h

/-- As long as the scanner goes on, the quotes and the backslashes tell where it is. -/
theorem quoting_step? {s s' : Scanner} {c : Char} (h : step? s c = some s') :
    s'.mode.quoting = s.mode.quoting.step c := by
  obtain ⟨found, mode⟩ := s
  cases mode with
  | ground =>
    cases h
    exact quoting_ground found c
  | word read =>
    simp only [step?] at h
    split at h
    · obtain ⟨t, -, rfl⟩ := Option.map_eq_some_iff.1 h
      exact quoting_ground (t :: found) c
    · rename_i hends
      cases h
      have hq : c ≠ '"' := by rintro rfl; exact hends rfl
      exact (if_neg hq).symm
  | text read =>
    simp only [step?] at h
    show _ = if c = '"' then _ else if c = '\\' then _ else _
    split at h
    · rename_i hq
      cases h
      rw [if_pos hq]
      rfl
    · rename_i hq
      rw [if_neg hq]
      split at h
      · rename_i hb
        cases h
        rw [if_pos hb]
        rfl
      · rename_i hb
        rw [if_neg hb]
        split at h
        · cases h
        · cases h
          rfl
  | escape read =>
    simp only [step?] at h
    split at h
    · cases h
      rfl
    · obtain ⟨d, -, rfl⟩ := Option.map_eq_some_iff.1 h
      rfl
  | unit read high ds =>
    simp only [step?] at h
    split at h
    · cases h
    · rename_i hhex
      rw [Bool.not_eq_true, Bool.not_eq_false'] at hhex
      obtain ⟨hq, hb⟩ := ne_of_isHexDigit hhex
      have hstep : Quoting.inside.step c = .inside := Quoting.step_of_ne hq hb (by simp)
      split at h
      · cases h
        exact hstep.symm
      · rw [quoting_unit? h]
        exact hstep.symm
  | pair read high =>
    simp only [step?] at h
    split at h
    · rename_i hb
      cases h
      rw [hb]
      rfl
    · cases h
  | pairEscape read high =>
    simp only [step?] at h
    split at h
    · cases h
      rfl
    · cases h

theorem quoting_foldlM {cs : List Char} {s s' : Scanner} (h : cs.foldlM step? s = some s') :
    s'.mode.quoting = cs.foldl Quoting.step s.mode.quoting := by
  induction cs generalizing s with
  | nil =>
    cases h
    rfl
  | cons c cs ih =>
    rw [List.foldlM_cons] at h
    obtain ⟨s₁, hs₁, h⟩ := Option.bind_eq_some_iff.1 h
    rw [ih h, quoting_step? hs₁, List.foldl_cons]

end Scanner

/-! ## Bare words -/

/-- A character beyond ASCII. -/
def IsForeign (c : Char) : Prop := 0x80 ≤ c.toNat

instance (c : Char) : Decidable (IsForeign c) := inferInstanceAs (Decidable (_ ≤ _))

/-- No character of a text is beyond ASCII. -/
def IsAscii (cs : List Char) : Prop := ∀ c ∈ cs, ¬ IsForeign c

instance (cs : List Char) : Decidable (IsAscii cs) := List.decidableBAll _ _

theorem IsAscii.append {cs ds : List Char} (hc : IsAscii cs) (hd : IsAscii ds) :
    IsAscii (cs ++ ds) := by
  intro c h
  rcases List.mem_append.1 h with h | h
  · exact hc c h
  · exact hd c h

theorem IsAscii.cons {c : Char} {cs : List Char} (hc : ¬ IsForeign c) (h : IsAscii cs) :
    IsAscii (c :: cs) :=
  List.forall_mem_cons.2 ⟨hc, h⟩

theorem not_isForeign_of_isDigit {c : Char} (h : isDigit c = true) : ¬ IsForeign c := by
  unfold isDigit at h
  rw [Bool.and_eq_true, decide_eq_true_eq, decide_eq_true_eq] at h
  have h9 : c.toNat ≤ '9'.toNat := h.2
  have hnine : '9'.toNat = 57 := rfl
  unfold IsForeign
  omega

theorem digits?_eq_some {cs ds rest : List Char} (h : digits? cs = some (ds, rest)) :
    cs = ds ++ rest ∧ IsAscii ds := by
  unfold digits? at h
  simp only at h
  split at h
  · cases h
  · cases h
    refine ⟨List.takeWhile_append_dropWhile.symm, fun c hc => ?_⟩
    exact not_isForeign_of_isDigit (List.mem_takeWhile_imp hc)

theorem wholeDigits?_eq_some {cs ds rest : List Char} (h : wholeDigits? cs = some (ds, rest)) :
    cs = ds ++ rest ∧ IsAscii ds := by
  unfold wholeDigits? at h
  split at h
  · cases h
  · exact digits?_eq_some h

theorem isAscii_of_fraction? {cs ds rest : List Char} (h : fraction? cs = some (ds, rest))
    (hrest : IsAscii rest) : IsAscii cs := by
  unfold fraction? at h
  split at h
  · obtain ⟨rfl, hds⟩ := digits?_eq_some h
    exact .cons (by decide) (hds.append hrest)
  · cases h
    exact hrest

theorem isAscii_of_exponent? {cs : List Char} {e : Int} (h : exponent? cs = some e) :
    IsAscii cs := by
  have hwhole : ∀ {ds : List Char} {n : Nat},
      ((digits? ds).bind fun r => if r.2.isEmpty then some (ofDigits 10 r.1) else none) = some n →
      IsAscii ds := by
    intro ds n h
    obtain ⟨⟨ds', rest⟩, hds, h⟩ := Option.bind_eq_some_iff.1 h
    simp only at h
    split at h
    · rename_i hempty
      obtain ⟨rfl, hascii⟩ := digits?_eq_some hds
      rw [List.isEmpty_iff.1 hempty, List.append_nil]
      exact hascii
    · cases h
  unfold exponent? at h
  split at h
  · exact nofun
  · simp only at h
    split at h
    · rename_i c cs hc
      have hc : ¬ IsForeign c := by rcases hc with rfl | rfl <;> decide
      split at h <;> obtain ⟨_, h, -⟩ := Option.map_eq_some_iff.1 h <;>
        obtain ⟨n, hn, -⟩ := Option.bind_eq_some_iff.1 h
      · exact .cons hc (.cons (by decide) (hwhole hn))
      · exact .cons hc (.cons (by decide) (hwhole hn))
      · exact .cons hc (hwhole hn)
    · cases h

theorem isAscii_of_unsigned? {negative : Bool} {cs : List Char} {t : Token}
    (h : unsigned? negative cs = some t) : IsAscii cs := by
  unfold unsigned? at h
  obtain ⟨⟨whole, rest⟩, hwhole, hrest⟩ := Option.bind_eq_some_iff.1 h
  obtain ⟨rfl, hascii⟩ := wholeDigits?_eq_some hwhole
  refine hascii.append ?_
  simp only [Option.ite_none_left_eq_some] at hrest
  obtain ⟨-, hrest⟩ := hrest
  by_cases hempty : rest.isEmpty = true
  · rw [List.isEmpty_iff.1 hempty]
    exact nofun
  · rw [if_neg hempty] at hrest
    obtain ⟨⟨fraction, rest'⟩, hfraction, hrest⟩ := Option.bind_eq_some_iff.1 hrest
    obtain ⟨e, he, -⟩ := Option.bind_eq_some_iff.1 hrest
    exact isAscii_of_fraction? hfraction (isAscii_of_exponent? he)

/-- A bare word is written in ASCII. -/
theorem isAscii_of_ofWord? {cs : List Char} {t : Token} (h : Token.ofWord? cs = some t) :
    IsAscii cs := by
  unfold Token.ofWord? at h
  split at h
  · rename_i hcs; rw [hcs]; decide
  split at h
  · rename_i hcs; rw [hcs]; decide
  split at h
  · rename_i hcs; rw [hcs]; decide
  split at h
  · rename_i hcs; rw [hcs]; decide
  split at h
  · rename_i hcs; rw [hcs]; decide
  split at h
  · rename_i hcs; rw [hcs]; decide
  split at h
  · exact .cons (by decide) (isAscii_of_unsigned? h)
  · exact isAscii_of_unsigned? h

/-! ## Texts with a character beyond ASCII -/

theorem endsWord_of_isForeign {c : Char} (h : IsForeign c) : Scanner.endsWord c = false := by
  rw [Bool.eq_false_iff]
  intro hends
  have hascii : IsAscii [' ', '\t', '\n', '\r', '[', ']', '{', '}', ',', ':', '"'] := by decide
  exact hascii c (Scanner.mem_of_endsWord hends) h

theorem escape?_of_isForeign {c : Char} (h : IsForeign c) : escape? c = none := by
  unfold escape?
  split
  case h_9 => rfl
  all_goals exact absurd h (by decide)

/-- Outside the quoted texts such a character is in a bare word, and after a backslash it is no
escape. -/
theorem step?_of_isForeign {s : Scanner} {c : Char} (hc : IsForeign c)
    (hs : s.mode.quoting ≠ .inside) :
    s.step? c = none ∨ ∃ read, c ∈ read ∧ s.step? c = some ⟨s.found, .word read⟩ := by
  have hends := endsWord_of_isForeign hc
  have hu : c ≠ 'u' := by rintro rfl; exact absurd hc (by decide)
  obtain ⟨found, mode⟩ := s
  cases mode with
  | ground =>
    exact .inr ⟨[c], List.mem_singleton_self c,
      congrArg some (Scanner.ground_of_not_endsWord found hends)⟩
  | word read =>
    refine .inr ⟨c :: read, List.mem_cons_self, ?_⟩
    simp only [Scanner.step?, hends, Bool.false_eq_true, if_false]
  | escape read =>
    left
    simp only [Scanner.step?, if_neg hu, escape?_of_isForeign hc, Option.map_none]
  | pairEscape read high =>
    left
    simp only [Scanner.step?, if_neg hu]
  | text | unit | pair => exact absurd rfl hs

theorem ofWord?_of_isForeign {c : Char} (hc : IsForeign c) {read : List Char} (hmem : c ∈ read) :
    Token.ofWord? read.reverse = none := by
  rw [Option.eq_none_iff_forall_ne_some]
  intro t ht
  exact isAscii_of_ofWord? ht c (List.mem_reverse.2 hmem) hc

/-- A bare word with such a character is no token, however it goes on. -/
theorem word_of_isForeign {c : Char} (hc : IsForeign c) {found : List Token} {read : List Char}
    (hmem : c ∈ read) (cs : List Char) :
    (cs.foldlM Scanner.step? ⟨found, .word read⟩).bind Scanner.finish? = none := by
  induction cs generalizing read with
  | nil =>
    simp only [List.foldlM_nil, Option.pure_def, Option.bind_some, Scanner.finish?,
      ofWord?_of_isForeign hc hmem, Option.map_none]
  | cons d cs ih =>
    rw [List.foldlM_cons]
    by_cases hd : Scanner.endsWord d = true
    · simp only [Scanner.step?, if_pos hd, ofWord?_of_isForeign hc hmem, Option.map_none,
        Option.bind_eq_bind, Option.bind_none]
    · simp only [Scanner.step?, if_neg hd, Option.bind_eq_bind, Option.bind_some]
      exact ih (List.mem_cons_of_mem d hmem)

/-- A text with a character beyond ASCII outside its quoted texts, or right after a backslash, has
no tokens. -/
theorem tokens?_of_isForeign {before after : List Char} {c : Char} (hc : IsForeign c)
    (h : quoting before ≠ .inside) : tokens? (before ++ c :: after) = none := by
  unfold tokens?
  rw [List.foldlM_append]
  cases hbefore : before.foldlM Scanner.step? .start with
  | none => rfl
  | some s =>
    have hs : s.mode.quoting ≠ .inside := by rwa [Scanner.quoting_foldlM hbefore]
    rw [Option.bind_eq_bind, Option.bind_some, List.foldlM_cons]
    rcases step?_of_isForeign hc hs with hstep | ⟨read, hmem, hstep⟩
    · rw [hstep]
      rfl
    · rw [hstep]
      exact word_of_isForeign hc hmem after

end ClusterPilot.Json
