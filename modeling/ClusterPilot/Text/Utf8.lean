/-
Reading bytes as UTF-8. The reader walks the bytes once and yields, in order, every character and
every damaged stretch: a maximal run of bytes that begins a character and breaks off, or a single
byte that can begin none. A damaged stretch never takes a byte that can stand by itself, so the
ASCII bytes of the input are the ASCII characters of the result, in order.

`decode?` accepts whole texts only; `decodeLossy` puts one replacement character in the place of
each damaged stretch. `feed?` reads bytes that come in blocks, and keeps what has begun at the end
of a block for the next one.
-/
namespace ClusterPilot.Text.Utf8

/-- A character that has begun: its bits so far, how many bytes are missing, and the range in
which the next byte has to be. -/
structure Partial where
  bits : Nat
  missing : Nat
  low : UInt8
  high : UInt8

/-- What a byte means where a character may begin. -/
inductive Lead where
  | whole (c : Char)
  | begins (p : Partial)
  | damaged

/-- The classes of first bytes. The first continuation byte has a narrower range where the full one
would admit an overlong form, a surrogate or a code point beyond the last. -/
def lead (b : UInt8) : Lead :=
  if b < 0x80 then .whole (Char.ofNat b.toNat)
  else if b < 0xc2 then .damaged
  else if b < 0xe0 then .begins ⟨b.toNat - 0xc0, 1, 0x80, 0xbf⟩
  else if b = 0xe0 then .begins ⟨0, 2, 0xa0, 0xbf⟩
  else if b = 0xed then .begins ⟨0xd, 2, 0x80, 0x9f⟩
  else if b < 0xf0 then .begins ⟨b.toNat - 0xe0, 2, 0x80, 0xbf⟩
  else if b = 0xf0 then .begins ⟨0, 3, 0x90, 0xbf⟩
  else if b < 0xf4 then .begins ⟨b.toNat - 0xf0, 3, 0x80, 0xbf⟩
  else if b = 0xf4 then .begins ⟨4, 3, 0x80, 0x8f⟩
  else .damaged

/-- The characters of a byte sequence, with `none` for each damaged stretch. -/
def pieces : Option Partial → List UInt8 → List (Option Char)
  | none, [] => []
  | some _, [] => [none]
  | none, b :: bs =>
    match lead b with
    | .whole c => some c :: pieces none bs
    | .begins p => pieces (some p) bs
    | .damaged => none :: pieces none bs
  | some p, b :: bs =>
    if p.low ≤ b ∧ b ≤ p.high then
      let bits := p.bits * 64 + (b.toNat - 0x80)
      if p.missing ≤ 1 then some (Char.ofNat bits) :: pieces none bs
      else pieces (some ⟨bits, p.missing - 1, 0x80, 0xbf⟩) bs
    else
      none ::
        match lead b with
        | .whole c => some c :: pieces none bs
        | .begins q => pieces (some q) bs
        | .damaged => none :: pieces none bs

/-- What stands for a damaged stretch. -/
def replacement : Char := '\ufffd'

/-- The text of a byte sequence after what has begun before it, when nothing is damaged. -/
def decodeAfter? (begun : Option Partial) (bytes : List UInt8) : Option (List Char) :=
  (pieces begun bytes).mapM id

/-- The text of a byte sequence, when it has no damaged stretch. -/
def decode? (bytes : List UInt8) : Option (List Char) := decodeAfter? none bytes

/-- The text of a byte sequence, with one replacement character for each damaged stretch. -/
def decodeLossy (bytes : List UInt8) : List Char :=
  (pieces none bytes).map (·.getD replacement)

/-! ## Blocks -/

/-- What no byte can follow. -/
def stuck : Partial := ⟨0, 1, 1, 0⟩

/-- The second byte of a surrogate, after the first one. -/
def isSurrogate (p : Partial) (b : UInt8) : Bool :=
  p.bits == 0xd && p.missing == 2 && p.low == 0x80 && p.high == 0x9f && 0xa0 ≤ b && b ≤ 0xbf

/-- The characters of a block after what has begun before it, and what has begun at its end; nothing
where a byte damages the text. A surrogate of which the block has two bytes is left to the next
block, which no byte can make a character. -/
def feed? : Option Partial → List UInt8 → Option (List Char × Option Partial)
  | begun, [] => some ([], begun)
  | none, b :: bs =>
    match lead b with
    | .whole c => (feed? none bs).map fun r => (c :: r.1, r.2)
    | .begins p => feed? (some p) bs
    | .damaged => none
  | some p, b :: bs =>
    if p.low ≤ b ∧ b ≤ p.high then
      let bits := p.bits * 64 + (b.toNat - 0x80)
      if p.missing ≤ 1 then (feed? none bs).map fun r => (Char.ofNat bits :: r.1, r.2)
      else feed? (some ⟨bits, p.missing - 1, 0x80, 0xbf⟩) bs
    else if bs.isEmpty && isSurrogate p b then some ([], some stuck)
    else none

/-! ## Writing -/

/-- The bytes of a character. -/
def encodeChar (c : Char) : List UInt8 :=
  let n := c.toNat
  let tail (n : Nat) : UInt8 := UInt8.ofNat (0x80 + n % 64)
  if n < 0x80 then [UInt8.ofNat n]
  else if n < 0x800 then [UInt8.ofNat (0xc0 + n / 64), tail n]
  else if n < 0x10000 then [UInt8.ofNat (0xe0 + n / 4096), tail (n / 64), tail n]
  else [UInt8.ofNat (0xf0 + n / 262144), tail (n / 4096), tail (n / 64), tail n]

/-- The bytes of a text. -/
def encode (cs : List Char) : List UInt8 := cs.flatMap encodeChar

end ClusterPilot.Text.Utf8
