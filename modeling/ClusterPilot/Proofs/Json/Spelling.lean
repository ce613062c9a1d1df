/-
JSON texts as they may be written, and the scanner on them. A token may be written in several ways:
each character of a quoted text as it is, by a letter after a backslash, or by the digits of its
code units. Blanks may stand around every token. The scanner finds exactly the tokens that a text
spells, as long as no two bare words touch, since only the next token tells it that a word is over.
-/
import ClusterPilot.Json.Token
import ClusterPilot.Proofs.Number.Decimal
import Mathlib.Data.List.Forall2

namespace ClusterPilot.Json

open ClusterPilot.Number

/-! ## Spellings -/

/-- The letters after a backslash, and what they stand for. -/
def shortEscapes : List (Char × Char) := [
  ('"', '"'), ('\\', '\\'), ('/', '/'), ('b', '\x08'), ('f', '\x0c'), ('n', '\n'), ('r', '\r'),
  ('t', '\t')]

/-- A hexadecimal digit in either case. -/
def IsHexDigit (d : Nat) (c : Char) : Prop := c = d.digitChar ∨ c = d.digitChar.toUpper

/-- The four digits of a code unit. -/
def IsUnit (n : Nat) (ds : List Char) : Prop :=
  List.Forall₂ IsHexDigit [n / 4096, n / 256 % 16, n / 16 % 16, n % 16] ds

/-- The characters that may not stand for themselves inside quotes. -/
def mustEscape (c : Char) : Bool := c = '"' || c = '\\' || c.toNat < 0x20

/-- A character inside quotes. -/
inductive CharSpelled (c : Char) : List Char → Prop
  | plain (h : mustEscape c = false) : CharSpelled c [c]
  | short (letter : Char) (h : (letter, c) ∈ shortEscapes) : CharSpelled c ['\\', letter]
  | unit (ds : List Char) (single : c.toNat < 0x10000) (h : IsUnit c.toNat ds) :
    CharSpelled c ('\\' :: 'u' :: ds)
  /-- Two code units that make up one character. -/
  | pair (high low : List Char) (double : 0x10000 ≤ c.toNat)
      (hhigh : IsUnit (0xd800 + (c.toNat - 0x10000) / 0x400) high)
      (hlow : IsUnit (0xdc00 + (c.toNat - 0x10000) % 0x400) low) :
    CharSpelled c ('\\' :: 'u' :: high ++ '\\' :: 'u' :: low)

/-- The characters of a text inside quotes. -/
inductive TextSpelled : List Char → List Char → Prop
  | nil : TextSpelled [] []
  | cons {c cs s ds} (head : CharSpelled c cs) (tail : TextSpelled s ds) :
    TextSpelled (c :: s) (cs ++ ds)

/-- A single token. -/
inductive TokenSpelled : Token → List Char → Prop
  | openList : TokenSpelled .openList ['[']
  | closeList : TokenSpelled .closeList [']']
  | openObject : TokenSpelled .openObject ['{']
  | closeObject : TokenSpelled .closeObject ['}']
  | comma : TokenSpelled .comma [',']
  | colon : TokenSpelled .colon [':']
  | null : TokenSpelled .null ['n', 'u', 'l', 'l']
  | yes : TokenSpelled (.bool true) ['t', 'r', 'u', 'e']
  | no : TokenSpelled (.bool false) ['f', 'a', 'l', 's', 'e']
  | integer (i : Int) : TokenSpelled (.integer i) (decimal i)
  | text {s : String} {cs : List Char} (h : TextSpelled s.toList cs) :
    TokenSpelled (.text s) ('"' :: cs ++ ['"'])

/-- Blanks that say nothing. -/
def Blanks (ws : List Char) : Prop := ∀ c ∈ ws, c = ' ' ∨ c = '\t' ∨ c = '\n' ∨ c = '\r'

/-- Tokens in a row, with blanks wherever they may stand. -/
inductive Spelled : List Token → List Char → Prop
  | done {ws} (blanks : Blanks ws) : Spelled [] ws
  | token {ws t cs ts rest} (blanks : Blanks ws) (head : TokenSpelled t cs)
      (tail : Spelled ts rest) : Spelled (t :: ts) (ws ++ (cs ++ rest))

/-! ## Everything can be written -/

/-- Numbers are integers, and no longer than those that are read. -/
def Token.Fits : Token → Prop
  | .integer i => Number.Fits i
  | .number _ => False
  | _ => True

theorem exists_charSpelled (c : Char) : ∃ cs, CharSpelled c cs := by
  cases h : mustEscape c with
  | false => exact ⟨_, .plain h⟩
  | true =>
    -- the characters that may not stand for themselves have small numbers
    have hsmall : c.toNat < 0x10000 := by
      simp only [mustEscape, Bool.or_eq_true, decide_eq_true_eq] at h
      rcases h with (rfl | rfl) | h
      · decide
      · decide
      · omega
    exact ⟨_, .unit _ hsmall (.cons (.inl rfl) (.cons (.inl rfl) (.cons (.inl rfl)
      (.cons (.inl rfl) .nil))))⟩

theorem exists_textSpelled (s : List Char) : ∃ cs, TextSpelled s cs := by
  induction s with
  | nil => exact ⟨[], .nil⟩
  | cons c s ih =>
    obtain ⟨cs, hc⟩ := exists_charSpelled c
    obtain ⟨ds, hs⟩ := ih
    exact ⟨cs ++ ds, .cons hc hs⟩

theorem exists_tokenSpelled {t : Token} (h : t.Fits) : ∃ cs, TokenSpelled t cs := by
  cases t with
  | openList => exact ⟨_, .openList⟩
  | closeList => exact ⟨_, .closeList⟩
  | openObject => exact ⟨_, .openObject⟩
  | closeObject => exact ⟨_, .closeObject⟩
  | comma => exact ⟨_, .comma⟩
  | colon => exact ⟨_, .colon⟩
  | null => exact ⟨_, .null⟩
  | bool b =>
    cases b with
    | true => exact ⟨_, .yes⟩
    | false => exact ⟨_, .no⟩
  | integer i => exact ⟨_, .integer i⟩
  | number => exact h.elim
  | text s =>
    obtain ⟨cs, hcs⟩ := exists_textSpelled s.toList
    exact ⟨_, .text hcs⟩

theorem Spelled.nil : Spelled [] [] := .done (show Blanks [] from nofun)

/-- No blanks have to stand in front of a token. -/
theorem Spelled.tight {t : Token} {ts : List Token} {cs rest : List Char} (head : TokenSpelled t cs)
    (tail : Spelled ts rest) : Spelled (t :: ts) (cs ++ rest) :=
  .token (show Blanks [] from nofun) head tail

theorem exists_spelled {ts : List Token} (h : ∀ t ∈ ts, t.Fits) : ∃ cs, Spelled ts cs := by
  induction ts with
  | nil => exact ⟨[], .nil⟩
  | cons t ts ih =>
    obtain ⟨cs, hcs⟩ := exists_tokenSpelled (h t List.mem_cons_self)
    obtain ⟨rest, hrest⟩ := ih fun t' ht' => h t' (List.mem_cons_of_mem _ ht')
    exact ⟨cs ++ rest, .tight hcs hrest⟩

/-- A text may be written as it is unless a character of it has to be escaped. -/
theorem TextSpelled.plain {s : List Char} (h : s.any mustEscape = false) : TextSpelled s s := by
  induction s with
  | nil => exact .nil
  | cons c s ih =>
    rw [List.any_cons, Bool.or_eq_false_iff] at h
    exact .cons (.plain h.1) (ih h.2)

/-! ## Steps in a row -/

section Steps

variable {σ α : Type} {f : σ → α → Option σ} {s s' : σ}

theorem foldlM_cons_of_eq {a : α} (h : f s a = some s') (as : List α) :
    (a :: as).foldlM f s = as.foldlM f s' := by
  rw [List.foldlM_cons, h, Option.bind_eq_bind, Option.bind_some]

theorem foldlM_append_of_eq {as : List α} (h : as.foldlM f s = some s') (bs : List α) :
    (as ++ bs).foldlM f s = bs.foldlM f s' := by
  rw [List.foldlM_append, h, Option.bind_eq_bind, Option.bind_some]

end Steps

/-! ## Hexadecimal digits -/

theorem hexDigitValue_of_isHexDigit {d : Nat} {c : Char} (hd : d < 16) (h : IsHexDigit d c) :
    isHexDigit c = true ∧ hexDigitValue c = d := by
  match d with
  | 0 | 1 | 2 | 3 | 4 | 5 | 6 | 7 | 8 | 9 | 10 | 11 | 12 | 13 | 14 | 15 =>
    rcases h with rfl | rfl <;> decide
  | _ + 16 => omega

/-- The four digits of a code unit are digits, and their value is the unit. -/
theorem ofHexDigits_of_isUnit {n : Nat} {ds : List Char} (hn : n < 0x10000) (h : IsUnit n ds) :
    ∃ a b c d, ds = [a, b, c, d] ∧ (∀ x ∈ ds, isHexDigit x = true) ∧ ofHexDigits ds = n := by
  obtain _ | ⟨ha, _ | ⟨hb, _ | ⟨hc, _ | ⟨hd, ⟨⟩⟩⟩⟩⟩ := h
  rename_i a b c d
  obtain ⟨ha, va⟩ := hexDigitValue_of_isHexDigit (by omega) ha
  obtain ⟨hb, vb⟩ := hexDigitValue_of_isHexDigit (by omega) hb
  obtain ⟨hc, vc⟩ := hexDigitValue_of_isHexDigit (by omega) hc
  obtain ⟨hd, vd⟩ := hexDigitValue_of_isHexDigit (by omega) hd
  refine ⟨a, b, c, d, rfl, ?_, ?_⟩
  · intro x hx
    simp only [List.mem_cons, List.not_mem_nil, or_false] at hx
    rcases hx with rfl | rfl | rfl | rfl <;> assumption
  · simp only [ofHexDigits, List.foldl_cons, List.foldl_nil, va, vb, vc, vd]
    omega

/-! ## Quoted texts -/

namespace Scanner

variable (found : List Token) (read : List Char)

/-- Four digits lead to the code unit that they write. -/
theorem foldlM_unit (high : Option Nat) {n : Nat} {ds : List Char} (hn : n < 0x10000)
    (h : IsUnit n ds) :
    ds.foldlM step? ⟨found, .unit read high []⟩ = unit? found read high n := by
  obtain ⟨a, b, c, d, rfl, hx, hval⟩ := ofHexDigits_of_isUnit hn h
  simp only [List.mem_cons, List.not_mem_nil, or_false, forall_eq_or_imp, forall_eq] at hx
  obtain ⟨ha, hb, hc, hd⟩ := hx
  rw [← hval]
  simp [step?, ha, hb, hc, hd]

theorem mem_shortEscapes {letter c : Char} (h : (letter, c) ∈ shortEscapes) :
    letter ≠ 'u' ∧ escape? letter = some c := by
  unfold shortEscapes at h
  simp only [List.mem_cons, Prod.mk.injEq, List.not_mem_nil, or_false] at h
  rcases h with ⟨rfl, rfl⟩ | ⟨rfl, rfl⟩ | ⟨rfl, rfl⟩ | ⟨rfl, rfl⟩ | ⟨rfl, rfl⟩ | ⟨rfl, rfl⟩ |
    ⟨rfl, rfl⟩ | ⟨rfl, rfl⟩ <;> decide

theorem toNat_valid (c : Char) : c.toNat < 0xd800 ∨ 0xdfff < c.toNat ∧ c.toNat < 0x110000 :=
  c.valid

/-- However a character is written, the scanner reads it. -/
theorem foldlM_char {c : Char} {cs : List Char} (h : CharSpelled c cs) :
    cs.foldlM step? ⟨found, .text read⟩ = some ⟨found, .text (c :: read)⟩ := by
  have hvalid := toNat_valid c
  cases h with
  | plain h =>
    simp only [mustEscape, Bool.or_eq_false_iff, decide_eq_false_iff_not] at h
    obtain ⟨⟨quote, backslash⟩, control⟩ := h
    simp [step?, quote, backslash, control]
  | short letter h =>
    obtain ⟨hu, hescape⟩ := mem_shortEscapes h
    simp [step?, hu, hescape]
  | unit ds single h =>
    have hhigh : ¬ (0xd800 ≤ c.toNat ∧ c.toNat < 0xdc00) := by omega
    have hlow : ¬ (0xdc00 ≤ c.toNat ∧ c.toNat < 0xe000) := by omega
    have hunit : unit? found read none c.toNat = some ⟨found, .text (c :: read)⟩ := by
      simp only [unit?, if_neg hhigh, if_neg hlow, Char.ofNat_toNat]
    rw [← hunit, ← foldlM_unit found read none single h]
    simp [step?]
  | pair high low double hhigh hlow =>
    -- both halves lie in their own ranges, and together they give the number of the character
    have hfirst : unit? found read none (0xd800 + (c.toNat - 0x10000) / 0x400) =
        some ⟨found, .pair read (0xd800 + (c.toNat - 0x10000) / 0x400)⟩ := by
      rw [unit?]
      exact if_pos (by omega)
    have hnumber : 0x10000 + (0xd800 + (c.toNat - 0x10000) / 0x400 - 0xd800) * 0x400 +
        (0xdc00 + (c.toNat - 0x10000) % 0x400 - 0xdc00) = c.toNat := by omega
    have hsecond : unit? found read (some (0xd800 + (c.toNat - 0x10000) / 0x400))
        (0xdc00 + (c.toNat - 0x10000) % 0x400) = some ⟨found, .text (c :: read)⟩ := by
      simp only [unit?, hnumber, Char.ofNat_toNat]
      exact if_pos (by omega)
    have hhigh := foldlM_unit found read none (by omega) hhigh
    have hlow := foldlM_unit found read (some (0xd800 + (c.toNat - 0x10000) / 0x400)) (by omega)
      hlow
    rw [hfirst] at hhigh
    rw [hsecond] at hlow
    simp [step?, hhigh, hlow]

theorem foldlM_text {s cs : List Char} (h : TextSpelled s cs) :
    cs.foldlM step? ⟨found, .text read⟩ = some ⟨found, .text (s.reverse ++ read)⟩ := by
  induction h generalizing read with
  | nil => rfl
  | cons head tail ih =>
    rw [foldlM_append_of_eq (foldlM_char found read head), ih, List.reverse_cons,
      List.append_assoc, List.singleton_append]

/-! ## Bare words -/

theorem mem_of_endsWord {c : Char} (h : endsWord c = true) :
    c ∈ [' ', '\t', '\n', '\r', '[', ']', '{', '}', ',', ':', '"'] := by
  unfold endsWord isBlank punctuation? at h
  split at h <;> simp_all [or_assoc]

/-- The characters of integers end no word. -/
theorem endsWord_of_isDigit {c : Char} (h : c = '-' ∨ isDigit c = true) : endsWord c = false := by
  rw [Bool.eq_false_iff]
  intro hends
  have hmem := mem_of_endsWord hends
  simp only [List.mem_cons, List.not_mem_nil, or_false] at hmem
  rcases hmem with rfl | rfl | rfl | rfl | rfl | rfl | rfl | rfl | rfl | rfl | rfl <;>
    exact absurd h (by decide)

theorem ground_of_not_endsWord {c : Char} (h : endsWord c = false) :
    ground found c = ⟨found, .word [c]⟩ := by
  unfold endsWord at h
  simp only [Bool.or_eq_false_iff, decide_eq_false_iff_not, Option.isSome_eq_false_iff,
    Option.isNone_iff_eq_none] at h
  obtain ⟨⟨hblank, hpunct⟩, hquote⟩ := h
  simp [ground, hblank, hpunct, hquote]

theorem foldlM_wordTail {cs : List Char} (h : ∀ c ∈ cs, endsWord c = false) :
    cs.foldlM step? ⟨found, .word read⟩ = some ⟨found, .word (cs.reverse ++ read)⟩ := by
  induction cs generalizing read with
  | nil => rfl
  | cons c cs ih =>
    have hc : endsWord c = false := h c List.mem_cons_self
    have hstep : step? ⟨found, .word read⟩ c = some ⟨found, .word (c :: read)⟩ := by
      simp only [step?, hc, Bool.false_eq_true, if_false]
    rw [foldlM_cons_of_eq hstep, ih (c :: read) fun c' hc' => h c' (List.mem_cons_of_mem _ hc'),
      List.reverse_cons, List.append_assoc, List.singleton_append]

/-- A bare word is read as a whole. -/
theorem foldlM_word {cs : List Char} (hne : cs ≠ []) (h : ∀ c ∈ cs, endsWord c = false) :
    cs.foldlM step? ⟨found, .ground⟩ = some ⟨found, .word cs.reverse⟩ := by
  cases cs with
  | nil => exact absurd rfl hne
  | cons c cs =>
    have hstep : step? ⟨found, .ground⟩ c = some ⟨found, .word [c]⟩ :=
      congrArg some (ground_of_not_endsWord found (h c List.mem_cons_self))
    rw [foldlM_cons_of_eq hstep,
      foldlM_wordTail found [c] fun c' hc' => h c' (List.mem_cons_of_mem _ hc'),
      List.reverse_cons]

end Scanner

/-! ## Tokens -/

/-- The tokens that are bare words. -/
def Token.isWord : Token → Bool
  | .null | .bool _ | .integer _ | .number _ => true
  | _ => false

theorem mem_decimal {i : Int} {c : Char} (h : c ∈ decimal i) : c = '-' ∨ isDigit c = true := by
  rcases decimal_cases i with ⟨n, _, hd⟩ | ⟨n, _, hd⟩ <;> rw [hd] at h
  · exact .inr (isDigit_of_mem_digits h)
  · exact (List.mem_cons.1 h).imp_right isDigit_of_mem_digits

/-- A word with another character in it is no integer. -/
theorem decimal_ne {i : Int} {w : List Char} (h : w.all (fun c => c = '-' || isDigit c) = false) :
    decimal i ≠ w := by
  rintro rfl
  rw [List.all_eq_false] at h
  obtain ⟨c, hc, hne⟩ := h
  refine hne ?_
  rw [Bool.or_eq_true, decide_eq_true_eq]
  exact mem_decimal hc

theorem Token.ofWord?_decimal {i : Int} (h : Number.Fits i) :
    Token.ofWord? (decimal i) = some (.integer i) := by
  unfold Number.Fits at h
  unfold Token.ofWord?
  rw [if_neg (decimal_ne (by decide)), if_neg (decimal_ne (by decide)),
    if_neg (decimal_ne (by decide)), if_neg (decimal_ne (by decide)),
    if_neg (decimal_ne (by decide)), if_neg (decimal_ne (by decide))]
  rcases decimal_cases i with ⟨n, rfl, hd⟩ | ⟨n, rfl, hd⟩
  · rw [Int.natAbs_natCast] at h
    rw [hd]
    split
    · rename_i ds heq
      exact absurd (congrArg List.head? heq) (digits_head_ne (by decide))
    · exact unsigned?_digits false h
  · rw [Int.natAbs_neg, Int.natAbs_natCast] at h
    rw [hd]
    exact unsigned?_digits true h

theorem decimal_ne_nil (i : Int) : decimal i ≠ [] := by
  rcases decimal_cases i with ⟨n, _, hd⟩ | ⟨n, _, hd⟩ <;> rw [hd]
  · exact digits_ne_nil n
  · exact List.cons_ne_nil _ _

/-- A bare word is one word, and the word of its token. -/
theorem TokenSpelled.word {t : Token} {cs : List Char} (h : TokenSpelled t cs)
    (hword : t.isWord = true) (hfits : t.Fits) :
    cs ≠ [] ∧ (∀ c ∈ cs, Scanner.endsWord c = false) ∧ Token.ofWord? cs = some t := by
  cases h with
  | null | yes | no =>
    refine ⟨nofun, fun c hc => ?_, rfl⟩
    exact Bool.eq_false_iff.2 (List.any_eq_false.1 (by decide) c hc)
  | integer i =>
    exact ⟨decimal_ne_nil i, fun c hc => Scanner.endsWord_of_isDigit (mem_decimal hc),
      Token.ofWord?_decimal hfits⟩
  | _ => cases hword

namespace Scanner

/-- A scanner between tokens that has found some. When the last one is a bare word, it is still
waiting for the end of it. -/
inductive Settled : List Token → Bool → Scanner → Prop
  | ground (found) : Settled found false ⟨found, .ground⟩
  | word {found read t} (h : Token.ofWord? read.reverse = some t) :
    Settled (t :: found) true ⟨found, .word read⟩

/-- The next character settles a waiting word. -/
theorem Settled.step {found : List Token} {waits : Bool} {s : Scanner} (h : Settled found waits s)
    {c : Char} (hc : waits = true → endsWord c = true) :
    step? s c = some (Scanner.ground found c) := by
  cases h with
  | ground => rfl
  | word h => simp [step?, hc rfl, h]

theorem Settled.blanks {found : List Token} {waits : Bool} {s : Scanner} (h : Settled found waits s)
    {ws : List Char} (hws : Blanks ws) :
    ∃ waits' s', ws.foldlM step? s = some s' ∧ Settled found waits' s' ∧
      (waits' = true → waits = true) := by
  induction ws generalizing waits s with
  | nil => exact ⟨waits, s, rfl, h, id⟩
  | cons c ws ih =>
    have hblank : isBlank c = true := by
      rcases hws c List.mem_cons_self with rfl | rfl | rfl | rfl <;> rfl
    have hstep : step? s c = some ⟨found, .ground⟩ := by
      rw [h.step fun _ => by simp [endsWord, hblank]]
      simp [Scanner.ground, hblank]
    obtain ⟨waits', s', hs', hsettled, hwaits⟩ :=
      ih (Settled.ground found) fun c' hc' => hws c' (List.mem_cons_of_mem _ hc')
    refine ⟨waits', s', ?_, hsettled, fun hw => ?_⟩
    · rw [foldlM_cons_of_eq hstep, hs']
    · exact absurd (hwaits hw) (by decide)

/-- A token that is one character. -/
theorem Settled.punctuation {found : List Token} {waits : Bool} {s : Scanner}
    (h : Settled found waits s) {c : Char} {t : Token} (hblank : isBlank c = false)
    (hc : punctuation? c = some t) : step? s c = some ⟨t :: found, .ground⟩ := by
  rw [h.step fun _ => by simp [endsWord, hc]]
  simp [Scanner.ground, hblank, hc]

theorem Settled.text {found : List Token} {waits : Bool} {s : Scanner} (h : Settled found waits s)
    {text : String} {cs : List Char} (hcs : TextSpelled text.toList cs) :
    ('"' :: cs ++ ['"']).foldlM step? s = some ⟨.text text :: found, .ground⟩ := by
  have hopen : step? s '"' = some ⟨found, .text []⟩ := h.step fun _ => rfl
  have hclose : step? ⟨found, .text text.toList.reverse⟩ '"' =
      some ⟨.text text :: found, .ground⟩ := by
    simp [step?]
  rw [List.cons_append, foldlM_cons_of_eq hopen, foldlM_append_of_eq (foldlM_text found [] hcs),
    List.append_nil, foldlM_cons_of_eq hclose]
  rfl

/-- However a token is written, the scanner finds it, unless it is a word right after a word. -/
theorem Settled.token {found : List Token} {waits : Bool} {s : Scanner} (h : Settled found waits s)
    {t : Token} {cs : List Char} (ht : TokenSpelled t cs) (hfits : t.Fits)
    (hgap : waits = true → t.isWord = false) :
    ∃ s', cs.foldlM step? s = some s' ∧ Settled (t :: found) t.isWord s' := by
  cases hword : t.isWord with
  | true =>
    obtain ⟨hne, hcs, htoken⟩ := ht.word hword hfits
    cases h with
    | ground =>
      refine ⟨_, foldlM_word found hne hcs, .word ?_⟩
      rw [List.reverse_reverse, htoken]
    | word _ => rw [hgap rfl] at hword; cases hword
  | false =>
    refine ⟨⟨t :: found, .ground⟩, ?_, .ground _⟩
    cases ht with
    | text hcs => exact h.text hcs
    | null | yes | no | integer => cases hword
    | openList | closeList | openObject | closeObject | comma | colon =>
      rw [foldlM_cons_of_eq (h.punctuation (by decide) rfl)]
      rfl

end Scanner

/-! ## Texts -/

/-- No word stands right after a word; `waits` tells whether one stands in front. -/
def WellSpaced : Bool → List Token → Prop
  | _, [] => True
  | waits, t :: ts => (waits = true → t.isWord = false) ∧ WellSpaced t.isWord ts

theorem WellSpaced.mono {waits waits' : Bool} {ts : List Token} (h : WellSpaced waits ts)
    (hw : waits' = true → waits = true) : WellSpaced waits' ts := by
  cases ts with
  | nil => trivial
  | cons t ts => exact ⟨fun hwaits => h.1 (hw hwaits), h.2⟩

theorem Scanner.Settled.spelled {found ts : List Token} {waits : Bool} {s : Scanner}
    {cs : List Char} (h : Scanner.Settled found waits s) (hcs : Spelled ts cs)
    (hfits : ∀ t ∈ ts, t.Fits) (hgap : WellSpaced waits ts) :
    ∃ waits' s', cs.foldlM Scanner.step? s = some s' ∧
      Scanner.Settled (ts.reverse ++ found) waits' s' := by
  induction hcs generalizing found waits s with
  | done blanks =>
    obtain ⟨waits', s', hs', hsettled, -⟩ := h.blanks blanks
    exact ⟨waits', s', hs', hsettled⟩
  | @token ws t cs ts rest blanks head tail ih =>
    -- blanks can only end a waiting word, so what may follow without them may follow after them
    obtain ⟨waits₁, s₁, hs₁, h₁, hwaits⟩ := h.blanks blanks
    obtain ⟨s₂, hs₂, h₂⟩ :=
      h₁.token head (hfits t List.mem_cons_self) fun hw => hgap.1 (hwaits hw)
    obtain ⟨waits₃, s₃, hs₃, h₃⟩ :=
      ih h₂ (fun t' ht' => hfits t' (List.mem_cons_of_mem _ ht')) hgap.2
    refine ⟨waits₃, s₃, ?_, ?_⟩
    · rw [foldlM_append_of_eq hs₁, foldlM_append_of_eq hs₂, hs₃]
    · rw [List.reverse_cons, List.append_assoc]
      exact h₃

theorem Scanner.Settled.finish? {found : List Token} {waits : Bool} {s : Scanner}
    (h : Scanner.Settled found waits s) : s.finish? = some found.reverse := by
  cases h with
  | ground => rfl
  | word h => simp only [Scanner.finish?, h, Option.map_some]

/-- The scanner finds exactly the tokens that a text spells. -/
theorem tokens?_of_spelled {ts : List Token} {cs : List Char} (h : Spelled ts cs)
    (hfits : ∀ t ∈ ts, t.Fits) (hgap : WellSpaced false ts) : tokens? cs = some ts := by
  obtain ⟨waits, s, hs, hsettled⟩ := (Scanner.Settled.ground []).spelled h hfits hgap
  rw [tokens?, Scanner.start, hs, Option.bind_some, hsettled.finish?, List.append_nil,
    List.reverse_reverse]

end ClusterPilot.Json
