/-
What the reader of UTF-8 takes at a time. After a first byte it waits for the six-bit digits of some
code point, and of all code points just those may still come whose encoding begins with the bytes
that it has taken. So from the front of any bytes it takes either the encoding of one character, or
a damaged stretch in which no byte stands for itself; and the encoding of a text is read as that
text. Bytes in which nothing is damaged are the encoding of what is read.
-/
import ClusterPilot.Text.Utf8
import Mathlib.Algebra.Group.Nat.Defs
import Mathlib.Tactic.SplitIfs

namespace ClusterPilot.Text.Utf8

/-! ## Code points by digits -/

/-- The byte for the last six bits of a code point. -/
def tail (n : Nat) : UInt8 := UInt8.ofNat (0x80 + n % 64)

/-- The bytes for the last six-bit digits of a code point, from the front. -/
def tails : Nat → Nat → List UInt8
  | 0, _ => []
  | m + 1, n => tail (n / 64 ^ m) :: tails m n

theorem toNat_tail (n : Nat) : (tail n).toNat = 0x80 + n % 64 := by
  rw [tail, UInt8.toNat_ofNat']
  omega

theorem tail_between (n : Nat) : 0x80 ≤ tail n ∧ tail n ≤ 0xbf := by
  rw [UInt8.le_iff_toNat_le, UInt8.le_iff_toNat_le, toNat_tail]
  simp only [UInt8.reduceToNat]
  omega

/-- A byte in the range of these is one of them. -/
theorem eq_tail {b : UInt8} (hlow : 0x80 ≤ b) (hhigh : b ≤ 0xbf) (bits : Nat) :
    b = tail (bits * 64 + (b.toNat - 0x80)) := by
  rw [UInt8.le_iff_toNat_le] at hlow hhigh
  simp only [UInt8.reduceToNat] at hlow hhigh
  rw [← UInt8.toNat_inj, toNat_tail]
  omega

/-! ## A character that has begun -/

section

variable {bits m : Nat} {low high b : UInt8}

/-- A byte out of the range breaks the character off, and is read as if nothing had begun. -/
theorem pieces_outside (h : ¬ (low ≤ b ∧ b ≤ high)) (bytes : List UInt8) :
    pieces (some ⟨bits, m, low, high⟩) (b :: bytes) = none :: pieces none (b :: bytes) := by
  simp only [pieces, if_neg h]

theorem pieces_last (h : low ≤ b ∧ b ≤ high) (bytes : List UInt8) :
    pieces (some ⟨bits, 1, low, high⟩) (b :: bytes) =
      some (Char.ofNat (bits * 64 + (b.toNat - 0x80))) :: pieces none bytes := by
  simp only [pieces, if_pos h, Nat.le_refl, if_true]

theorem pieces_more (h : low ≤ b ∧ b ≤ high) (bytes : List UInt8) :
    pieces (some ⟨bits, m + 2, low, high⟩) (b :: bytes) =
      pieces (some ⟨bits * 64 + (b.toNat - 0x80), m + 1, 0x80, 0xbf⟩) bytes := by
  have hmore : ¬ m + 2 ≤ 1 := by omega
  simp only [pieces, if_pos h, if_neg hmore]
  rfl

end

/-- A character of which `m + 1` digits are missing can become the one with the code point `n`: the
bits read so far are its first digits, and its next byte is in the range. -/
structure MayBe (bits m : Nat) (low high : UInt8) (n : Nat) : Prop where
  bits : n / 64 ^ (m + 1) = bits
  low : low ≤ tail (n / 64 ^ m)
  high : tail (n / 64 ^ m) ≤ high

section

variable {bits m n : Nat} {low high : UInt8}

/-- The rest of a character that has begun is read as that character. -/
theorem pieces_tails (h : MayBe bits m low high n) (rest : List UInt8) :
    pieces (some ⟨bits, m + 1, low, high⟩) (tails (m + 1) n ++ rest) =
      some (Char.ofNat n) :: pieces none rest := by
  -- the digit that is read extends the bits of the digits before it
  have hdigit : ∀ k, n / 64 ^ (k + 1) * 64 + ((tail (n / 64 ^ k)).toNat - 0x80) = n / 64 ^ k := by
    intro k
    rw [toNat_tail, Nat.pow_succ, ← Nat.div_div_eq_div_mul]
    omega
  induction m generalizing bits low high with
  | zero =>
    obtain rfl : n / 64 ^ 1 = bits := h.bits
    rw [tails, List.cons_append, pieces_last ⟨h.low, h.high⟩, hdigit, Nat.pow_zero, Nat.div_one]
    rfl
  | succ m ih =>
    obtain rfl : n / 64 ^ (m + 2) = bits := h.bits
    rw [tails, List.cons_append, pieces_more ⟨h.low, h.high⟩, hdigit]
    exact ih ⟨rfl, (tail_between _).1, (tail_between _).2⟩

/-- A byte in the range is the next digit of every code point that goes on with it. -/
theorem mayBe_of_digit {b : UInt8} (hlow : 0x80 ≤ low) (hhigh : high ≤ 0xbf)
    (hb : low ≤ b ∧ b ≤ high) (hn : n / 64 ^ m = bits * 64 + (b.toNat - 0x80)) :
    MayBe bits m low high n ∧ tail (n / 64 ^ m) = b := by
  have hb' := eq_tail (UInt8.le_trans hlow hb.1) (UInt8.le_trans hb.2 hhigh) bits
  rw [← hn] at hb'
  have hdigit : b.toNat - 0x80 < 64 := by
    rw [hb', toNat_tail]
    omega
  refine ⟨⟨?_, ?_, ?_⟩, hb'.symm⟩
  · show n / 64 ^ (m + 1) = bits
    rw [Nat.pow_succ, ← Nat.div_div_eq_div_mul, hn]
    omega
  · exact hb' ▸ hb.1
  · exact hb' ▸ hb.2

/-- In the middle of a character the reader takes the rest of it, or finds that it breaks off. -/
theorem pieces_begun (hlow : 0x80 ≤ low) (hhigh : high ≤ 0xbf) (bytes : List UInt8) :
    (∃ n rest, MayBe bits m low high n ∧ bytes = tails (m + 1) n ++ rest ∧
      pieces (some ⟨bits, m + 1, low, high⟩) bytes = some (Char.ofNat n) :: pieces none rest) ∨
    ∃ stretch rest, (∀ b ∈ stretch, 0x80 ≤ b) ∧ bytes = stretch ++ rest ∧
      pieces (some ⟨bits, m + 1, low, high⟩) bytes = none :: pieces none rest := by
  induction bytes generalizing bits m low high with
  | nil => exact .inr ⟨[], [], nofun, rfl, rfl⟩
  | cons b bytes ih =>
    by_cases hb : low ≤ b ∧ b ≤ high
    · cases m with
      | zero =>
        have hdigit : (bits * 64 + (b.toNat - 0x80)) / 64 ^ 0 = bits * 64 + (b.toNat - 0x80) := by
          rw [Nat.pow_zero, Nat.div_one]
        obtain ⟨hmay, htail⟩ := mayBe_of_digit hlow hhigh hb hdigit
        refine .inl ⟨_, bytes, hmay, ?_, pieces_last hb bytes⟩
        rw [tails, htail]
        rfl
      | succ m =>
        rw [pieces_more hb]
        rcases @ih (bits * 64 + (b.toNat - 0x80)) m _ _ (UInt8.le_refl 0x80) (UInt8.le_refl 0xbf) with
          ⟨n, rest, hmay, rfl, hpieces⟩ | ⟨stretch, rest, hstretch, rfl, hpieces⟩
        · obtain ⟨hmay, htail⟩ := mayBe_of_digit hlow hhigh hb hmay.bits
          refine .inl ⟨n, rest, hmay, ?_, hpieces⟩
          show b :: (tails (m + 1) n ++ rest) = tail (n / 64 ^ (m + 1)) :: (tails (m + 1) n ++ rest)
          rw [htail]
        · refine .inr ⟨b :: stretch, rest, ?_, rfl, hpieces⟩
          exact List.forall_mem_cons.2 ⟨UInt8.le_trans hlow hb.1, hstretch⟩
    · exact .inr ⟨[], b :: bytes, nofun, rfl, pieces_outside hb bytes⟩

end

/-! ## First bytes -/

/-- The code points of characters that are encoded in `m + 2` bytes, and the byte that the first of
these is counted from. -/
inductive Width : Nat → Nat → Nat → Prop
  | two {n} (low : 0x80 ≤ n) (high : n < 0x800) : Width 0 0xc0 n
  | three {n} (low : 0x800 ≤ n) (high : n < 0x10000) : Width 1 0xe0 n
  | four {n} (low : 0x10000 ≤ n) (high : n < 0x110000) : Width 2 0xf0 n

/-- A character beyond ASCII is encoded as a first byte and its last digits. -/
theorem encodeChar_of_width {m base : Nat} {c : Char} (h : Width m base c.toNat) :
    encodeChar c = UInt8.ofNat (base + c.toNat / 64 ^ (m + 1)) :: tails (m + 1) c.toNat := by
  unfold encodeChar
  cases h with
  | two low high =>
    simp only [if_neg (Nat.not_lt.2 low), if_pos high, tails, tail]
    simp
  | three low high =>
    have h80 : ¬ c.toNat < 0x80 := by omega
    simp only [if_neg h80, if_neg (Nat.not_lt.2 low), if_pos high, tails, tail]
    simp
  | four low high =>
    have h80 : ¬ c.toNat < 0x80 := by omega
    have h800 : ¬ c.toNat < 0x800 := by omega
    simp only [if_neg h80, if_neg h800, if_neg (Nat.not_lt.2 low), tails, tail]
    simp

theorem exists_width {c : Char} (h : 0x80 ≤ c.toNat) : ∃ m base, Width m base c.toNat := by
  have hvalid : c.toNat.isValidChar := c.valid
  by_cases h800 : c.toNat < 0x800
  · exact ⟨_, _, .two h h800⟩
  · by_cases h10000 : c.toNat < 0x10000
    · exact ⟨_, _, .three (Nat.not_lt.1 h800) h10000⟩
    · exact ⟨_, _, .four (Nat.not_lt.1 h10000) (by omega)⟩

/-- What may still come, told in numbers. -/
theorem mayBe_iff {bits m n : Nat} {low high : UInt8} :
    MayBe bits m low high n ↔ n / 64 ^ (m + 1) = bits ∧ low.toNat ≤ 0x80 + n / 64 ^ m % 64 ∧
      0x80 + n / 64 ^ m % 64 ≤ high.toNat := by
  rw [← toNat_tail, ← UInt8.le_iff_toNat_le, ← UInt8.le_iff_toNat_le]
  exact ⟨fun h => ⟨h.bits, h.low, h.high⟩, fun ⟨hbits, hlow, hhigh⟩ => ⟨hbits, hlow, hhigh⟩⟩

theorem toNat_ofNat {n : Nat} (h : n.isValidChar) : (Char.ofNat n).toNat = n := by
  rw [Char.ofNat, dif_pos h]
  rfl

theorem encodeChar_ofNat {b : UInt8} {m base n : Nat} (hvalid : n.isValidChar)
    (hwidth : Width m base n) (hb : b.toNat = base + n / 64 ^ (m + 1)) :
    n.isValidChar ∧ encodeChar (Char.ofNat n) = b :: tails (m + 1) n := by
  have hn : (Char.ofNat n).toNat = n := toNat_ofNat hvalid
  rw [← hn] at hwidth
  rw [encodeChar_of_width hwidth, hn, ← hb, UInt8.ofNat_toNat]
  exact ⟨hvalid, rfl⟩

/-- Every code point that may still come after a first byte is that of a character, and its encoding
begins with that byte. -/
theorem lead_begins {b : UInt8} {p : Partial} (h : lead b = .begins p) :
    ∃ bits m low high, p = ⟨bits, m + 1, low, high⟩ ∧ 0x80 ≤ b ∧ 0x80 ≤ low ∧ high ≤ 0xbf ∧
      ∀ n, MayBe bits m low high n →
        n.isValidChar ∧ encodeChar (Char.ofNat n) = b :: tails (m + 1) n := by
  have h80 : ¬ b.toNat < 0x80 → 0x80 ≤ b := fun h => UInt8.le_iff_toNat_le.2 (Nat.not_lt.1 h)
  unfold lead at h
  simp only [UInt8.lt_iff_toNat_lt, ← UInt8.toNat_inj, UInt8.reduceToNat] at h
  -- the narrower ranges keep out what would be overlong, a surrogate or beyond the last code point
  split_ifs at h <;> simp only [Lead.begins.injEq] at h <;> subst h
  all_goals
    refine ⟨_, _, _, _, rfl, h80 ‹_›, by decide, by decide, fun n hn => ?_⟩
    obtain ⟨hbits, hlow, hhigh⟩ := mayBe_iff.1 hn
    simp only [UInt8.reduceToNat, Nat.reduceAdd, Nat.reducePow, Nat.div_one] at hbits hlow hhigh
  · exact encodeChar_ofNat (by omega) (.two (by omega) (by omega)) (by omega)
  · exact encodeChar_ofNat (by omega) (.three (by omega) (by omega)) (by omega)
  · exact encodeChar_ofNat (by omega) (.three (by omega) (by omega)) (by omega)
  · exact encodeChar_ofNat (by omega) (.three (by omega) (by omega)) (by omega)
  · exact encodeChar_ofNat (by omega) (.four (by omega) (by omega)) (by omega)
  · exact encodeChar_ofNat (by omega) (.four (by omega) (by omega)) (by omega)
  · exact encodeChar_ofNat (by omega) (.four (by omega) (by omega)) (by omega)

/-- What a first byte begins may become the character with the code point `n` when the bits of the
byte are the first digits of `n` and the byte after it is in the range. -/
theorem begins_mayBe {bits m n : Nat} (low high : Nat)
    (h : n / 64 ^ (m + 1) = bits ∧ low ≤ 0x80 + n / 64 ^ m % 64 ∧ 0x80 + n / 64 ^ m % 64 ≤ high ∧
      low < 256 ∧ high < 256) :
    ∃ bits' low' high', Lead.begins ⟨bits, m + 1, UInt8.ofNat low, UInt8.ofNat high⟩ =
        .begins ⟨bits', m + 1, low', high'⟩ ∧ MayBe bits' m low' high' n := by
  obtain ⟨hbits, hlow, hhigh, hl, hh⟩ := h
  refine ⟨bits, UInt8.ofNat low, UInt8.ofNat high, rfl, mayBe_iff.2 ⟨hbits, ?_, ?_⟩⟩
  · rwa [UInt8.toNat_ofNat', Nat.mod_eq_of_lt hl]
  · rwa [UInt8.toNat_ofNat', Nat.mod_eq_of_lt hh]

/-- The first byte of a character beyond ASCII begins what may become that character. -/
theorem lead_of_width {b : UInt8} {m base n : Nat} (hwidth : Width m base n)
    (hb : b.toNat = base + n / 64 ^ (m + 1)) (hvalid : n.isValidChar) :
    ∃ bits low high, lead b = .begins ⟨bits, m + 1, low, high⟩ ∧ MayBe bits m low high n := by
  unfold lead
  simp only [UInt8.lt_iff_toNat_lt, ← UInt8.toNat_inj, UInt8.reduceToNat]
  cases hwidth with
  | two low high =>
    rw [if_neg (by omega), if_neg (by omega), if_pos (by omega)]
    exact begins_mayBe 0x80 0xbf (by omega)
  | three low high =>
    rw [if_neg (by omega), if_neg (by omega), if_neg (by omega)]
    by_cases hfirst : b.toNat = 0xe0
    · rw [if_pos hfirst]
      exact begins_mayBe 0xa0 0xbf (by omega)
    · by_cases hsurrogate : b.toNat = 0xed
      · rw [if_neg hfirst, if_pos hsurrogate]
        exact begins_mayBe 0x80 0x9f (by omega)
      · rw [if_neg hfirst, if_neg hsurrogate, if_pos (by omega)]
        exact begins_mayBe 0x80 0xbf (by omega)
  | four low high =>
    rw [if_neg (by omega), if_neg (by omega), if_neg (by omega), if_neg (by omega),
      if_neg (by omega), if_neg (by omega)]
    by_cases hfirst : b.toNat = 0xf0
    · rw [if_pos hfirst]
      exact begins_mayBe 0x90 0xbf (by omega)
    · by_cases hmiddle : b.toNat < 0xf4
      · rw [if_neg hfirst, if_pos hmiddle]
        exact begins_mayBe 0x80 0xbf (by omega)
      · rw [if_neg hfirst, if_neg hmiddle, if_pos (by omega)]
        exact begins_mayBe 0x80 0x8f (by omega)

/-- The encoding of a character beyond ASCII begins with a byte after which it may still come. -/
theorem exists_begins {c : Char} (h : 0x80 ≤ c.toNat) :
    ∃ b bits m low high, lead b = .begins ⟨bits, m + 1, low, high⟩ ∧
      MayBe bits m low high c.toNat ∧ encodeChar c = b :: tails (m + 1) c.toNat := by
  obtain ⟨m, base, hwidth⟩ := exists_width h
  have hb : base + c.toNat / 64 ^ (m + 1) < 256 := by
    cases hwidth <;> simp only [Nat.reduceAdd, Nat.reducePow] <;> omega
  have hbyte : (UInt8.ofNat (base + c.toNat / 64 ^ (m + 1))).toNat =
      base + c.toNat / 64 ^ (m + 1) := by
    rw [UInt8.toNat_ofNat', Nat.mod_eq_of_lt hb]
  obtain ⟨bits, low, high, hlead, hmay⟩ := lead_of_width hwidth hbyte c.valid
  exact ⟨_, bits, m, low, high, hlead, hmay, encodeChar_of_width hwidth⟩

/-! ## What is taken at a time -/

theorem toNat_ascii {c : Char} (h : c.toNat < 0x80) : (UInt8.ofNat c.toNat).toNat = c.toNat := by
  rw [UInt8.toNat_ofNat', Nat.mod_eq_of_lt (by omega)]

theorem encodeChar_ascii {c : Char} (h : c.toNat < 0x80) : encodeChar c = [UInt8.ofNat c.toNat] :=
  if_pos h

theorem lead_ascii {b : UInt8} (h : b < 0x80) : lead b = .whole (Char.ofNat b.toNat) :=
  if_pos h

theorem lead_of_foreign {b : UInt8} (h : 0x80 ≤ b) (c : Char) : lead b ≠ .whole c := by
  have hb : ¬ b < 0x80 := UInt8.not_lt.2 h
  unfold lead
  rw [if_neg hb]
  split_ifs <;> exact nofun

theorem foreign_tails (m n : Nat) : ∀ b ∈ tails m n, 0x80 ≤ b := by
  induction m with
  | zero => exact nofun
  | succ m ih => exact List.forall_mem_cons.2 ⟨(tail_between _).1, ih⟩

/-- Beyond ASCII no byte of an encoding stands for itself. -/
theorem foreign_encodeChar {c : Char} (h : 0x80 ≤ c.toNat) : ∀ b ∈ encodeChar c, 0x80 ≤ b := by
  obtain ⟨b, bits, m, low, high, hlead, -, hencode⟩ := exists_begins h
  obtain ⟨-, -, -, -, -, hb, -⟩ := lead_begins hlead
  rw [hencode]
  exact List.forall_mem_cons.2 ⟨hb, foreign_tails _ _⟩

/-- The encoding of a character is read as that character. -/
theorem pieces_encodeChar (c : Char) (rest : List UInt8) :
    pieces none (encodeChar c ++ rest) = some c :: pieces none rest := by
  by_cases hascii : c.toNat < 0x80
  · have hbyte := toNat_ascii hascii
    have hlow : UInt8.ofNat c.toNat < 0x80 := by
      rw [UInt8.lt_iff_toNat_lt, hbyte]
      exact hascii
    rw [encodeChar_ascii hascii, List.singleton_append, pieces, lead_ascii hlow, hbyte,
      Char.ofNat_toNat]
  · obtain ⟨b, bits, m, low, high, hlead, hmay, hencode⟩ := exists_begins (Nat.not_lt.1 hascii)
    rw [hencode, List.cons_append, pieces, hlead]
    simp only
    rw [pieces_tails hmay, Char.ofNat_toNat]

/-- The encoding of a text is read as that text. -/
theorem pieces_encode (cs : List Char) : pieces none (encode cs) = cs.map some := by
  induction cs with
  | nil => rfl
  | cons c cs ih => rw [encode, List.flatMap_cons, pieces_encodeChar, List.map_cons, ← ih, encode]

theorem decodeLossy_encode (cs : List Char) : decodeLossy (encode cs) = cs := by
  rw [decodeLossy, pieces_encode, List.map_map]
  exact List.map_id cs

theorem decode?_encode (cs : List Char) : decode? (encode cs) = some cs := by
  rw [decode?, decodeAfter?, pieces_encode, List.mapM_map]
  show cs.mapM some = some cs
  induction cs with
  | nil => rfl
  | cons c cs ih =>
    rw [List.mapM_cons, ih]
    rfl

/-- What is taken from the front of some bytes: a character with its encoding, or a damaged stretch,
in which no byte stands for itself. -/
inductive Taken : Option Char → List UInt8 → Prop
  | character (c : Char) : Taken (some c) (encodeChar c)
  | damage {stretch : List UInt8} (ne : stretch ≠ []) (foreign : ∀ b ∈ stretch, 0x80 ≤ b) :
    Taken none stretch

theorem exists_taken (b : UInt8) (bytes : List UInt8) :
    ∃ piece stretch rest, b :: bytes = stretch ++ rest ∧ Taken piece stretch ∧
      pieces none (b :: bytes) = piece :: pieces none rest := by
  rw [pieces]
  by_cases hascii : b < 0x80
  · have hnat : b.toNat < 0x80 := hascii
    have hc : (Char.ofNat b.toNat).toNat = b.toNat := toNat_ofNat (by omega)
    have hencode : encodeChar (Char.ofNat b.toNat) = [b] := by
      rw [encodeChar_ascii (by rwa [hc]), hc, UInt8.ofNat_toNat]
    rw [lead_ascii hascii]
    exact ⟨_, _, bytes, by rw [hencode]; rfl, .character _, rfl⟩
  · have hforeign : 0x80 ≤ b := UInt8.not_lt.1 hascii
    cases hlead : lead b with
    | whole c => exact absurd hlead (lead_of_foreign hforeign c)
    | damaged =>
      exact ⟨none, [b], bytes, rfl, .damage (List.cons_ne_nil _ _)
        (List.forall_mem_singleton.2 hforeign), rfl⟩
    | begins p =>
      obtain ⟨bits, m, low, high, rfl, -, hlow, hhigh, hcomes⟩ := lead_begins hlead
      rcases @pieces_begun bits m low high hlow hhigh bytes with
        ⟨n, rest, hmay, rfl, hpieces⟩ | ⟨stretch, rest, hstretch, rfl, hpieces⟩
      · refine ⟨some (Char.ofNat n), b :: tails (m + 1) n, rest, rfl, ?_, hpieces⟩
        rw [← (hcomes n hmay).2]
        exact .character _
      · exact ⟨none, b :: stretch, rest, rfl, .damage (List.cons_ne_nil _ _)
          (List.forall_mem_cons.2 ⟨hforeign, hstretch⟩), hpieces⟩

/-- Bytes parted into what is taken from them. -/
inductive Parted : List UInt8 → List (Option Char) → Prop
  | nil : Parted [] []
  | cons {piece : Option Char} {stretch rest : List UInt8} {ps : List (Option Char)}
    (head : Taken piece stretch) (tail : Parted rest ps) : Parted (stretch ++ rest) (piece :: ps)

theorem Taken.ne_nil {piece : Option Char} {stretch : List UInt8} (h : Taken piece stretch) :
    stretch ≠ [] := by
  cases h with
  | character c =>
    by_cases hascii : c.toNat < 0x80
    · rw [encodeChar_ascii hascii]
      exact List.cons_ne_nil _ _
    · obtain ⟨b, bits, m, low, high, -, -, hencode⟩ := exists_begins (Nat.not_lt.1 hascii)
      rw [hencode]
      exact List.cons_ne_nil _ _
  | damage ne _ => exact ne

theorem parted_pieces (bytes : List UInt8) : Parted bytes (pieces none bytes) := by
  -- what is left after a stretch is shorter, but it need not be the tail
  induction hlength : bytes.length using Nat.strongRecOn generalizing bytes with
  | ind n ih =>
    cases bytes with
    | nil => exact .nil
    | cons b bytes =>
      obtain ⟨piece, stretch, rest, hbytes, htaken, hpieces⟩ := exists_taken b bytes
      have hshorter : rest.length < n := by
        have hstretch := List.length_pos_iff.2 htaken.ne_nil
        rw [← hlength, hbytes, List.length_append]
        omega
      rw [hpieces, hbytes]
      exact .cons htaken (ih rest.length hshorter rest rfl)

/-- Bytes without damage are the encoding of a text. -/
theorem Parted.exists_encode {bytes : List UInt8} {ps : List (Option Char)} (h : Parted bytes ps)
    (sound : none ∉ ps) : ∃ cs, bytes = encode cs := by
  induction h with
  | nil => exact ⟨[], rfl⟩
  | cons head tail ih =>
    obtain ⟨cs, rfl⟩ := ih fun hmem => sound (List.mem_cons_of_mem _ hmem)
    cases head with
    | character c => exact ⟨c :: cs, List.flatMap_cons.symm⟩
    | damage => exact absurd List.mem_cons_self sound

/-! ## The encoding of a text -/

theorem encodeChar_eq (c : Char) : encodeChar c = String.utf8EncodeChar c := by
  have hvalid : c.toNat.isValidChar := c.valid
  have hval : c.val.toNat = c.toNat := rfl
  unfold encodeChar String.utf8EncodeChar
  rw [hval]
  by_cases h80 : c.toNat < 0x80
  · rw [if_pos h80, if_pos (Nat.le_of_lt_succ h80)]
  · by_cases h800 : c.toNat < 0x800
    · have hfirst : c.toNat / 64 % 32 = c.toNat / 64 := Nat.mod_eq_of_lt (by omega)
      simp only [if_neg h80, if_pos h800]
      rw [if_neg (by omega), if_pos (by omega), hfirst, Nat.add_comm 0xc0, Nat.add_comm 0x80]
    · by_cases h10000 : c.toNat < 0x10000
      · have hfirst : c.toNat / 4096 % 16 = c.toNat / 4096 := Nat.mod_eq_of_lt (by omega)
        simp only [if_neg h80, if_neg h800, if_pos h10000]
        rw [if_neg (by omega), if_neg (by omega), if_pos (by omega), hfirst, Nat.add_comm 0xe0,
          Nat.add_comm 0x80, Nat.add_comm 0x80]
      · have hfirst : c.toNat / 262144 % 8 = c.toNat / 262144 := Nat.mod_eq_of_lt (by omega)
        simp only [if_neg h80, if_neg h800, if_neg h10000]
        rw [if_neg (by omega), if_neg (by omega), if_neg (by omega), hfirst, Nat.add_comm 0xf0,
          Nat.add_comm 0x80, Nat.add_comm 0x80, Nat.add_comm 0x80]

/-- The bytes of a text in UTF-8. -/
theorem encode_toList (text : String) : encode text.toList = text.toUTF8.data.toList := by
  have hbytes : text.toUTF8 = text.toList.utf8Encode := by
    conv => lhs; rw [← @String.ofList_toList text]
    exact String.toByteArray_ofList
  rw [hbytes, List.utf8Encode, List.data_toByteArray, encode, funext encodeChar_eq]

end ClusterPilot.Text.Utf8
