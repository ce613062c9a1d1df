/-
Reading a file as text, a number of characters at a time. The bytes come in blocks and each block is
decoded as it comes, so a byte that damages the text is met when its block is read, and whoever
asked for characters that need this block gets none. Line ends are spelled alike; a carriage return
at the end of a block waits for what follows it.
-/
import ClusterPilot.Number.Binary64
import ClusterPilot.Text.Basic
import ClusterPilot.Text.Utf8

namespace ClusterPilot.Text

/-- The number of bytes that a block has at least, unless the file ends. -/
def blockSize : Nat := 8192

/-- A file that is read as text. -/
structure Stream where
  /-- The bytes of the blocks that are still to come. -/
  bytes : List UInt8
  /-- The character that has begun at the end of the last block. -/
  begun : Option Utf8.Partial := none
  /-- Whether the last block ended with a carriage return. -/
  waiting : Bool := false
  /-- Characters of the last block that were not asked for. -/
  ready : List Char := []
  /-- How many bytes the last block had, and how many characters. -/
  last : Nat × Nat := (0, 0)

namespace Stream

/-- The front of a file. -/
def start (bytes : List UInt8) : Stream := { bytes }

/-- How many bytes make up some characters, going by the last block. -/
def estimate (s : Stream) (wanted : Nat) : Nat :=
  let (bytes, chars) := s.last
  if chars = 0 then 0
  else
    let perChar := Number.Binary64.ofQuotient bytes chars
    ((perChar.scale wanted).truncate?.getD 0).toNat

/-- The carriage return that waits. -/
def held (s : Stream) : List Char := if s.waiting then ['\r'] else []

/-- The stream after the next block, of which some characters are wanted. The block after the last
byte is empty, and completes what was waiting. -/
def block? (wanted : Nat) (s : Stream) : Option Stream := do
  let size := max blockSize (s.estimate wanted)
  let block := s.bytes.take size
  let (cs, begun) ← Utf8.feed? s.begun block
  if block.isEmpty && begun.isSome then none
  else
    let cs := s.held ++ cs
    let waiting := !block.isEmpty && cs.getLast? == some '\r'
    let ready := unifyNewlines (if waiting then cs.dropLast else cs)
    some ⟨s.bytes.drop size, begun, waiting, ready, (block.length, ready.length)⟩

/-- Some characters and the stream after them, with at most `fuel` blocks. -/
def readWith (fuel wanted : Nat) (s : Stream) : Option (List Char × Stream) :=
  if wanted ≤ s.ready.length then
    some (s.ready.take wanted, { s with ready := s.ready.drop wanted })
  else
    match fuel with
    | 0 => some (s.ready, { s with ready := [] })
    | fuel + 1 => do
      let wanted := wanted - s.ready.length
      let next ← s.block? wanted
      if s.bytes.isEmpty && next.ready.isEmpty then some (s.ready, next)
      else
        let (more, next) ← readWith fuel wanted next
        some (s.ready ++ more, next)

/-- Some characters, or as many as are left, and the stream after them; nothing where a block that
they need is damaged. -/
def read? (wanted : Nat) (s : Stream) : Option (List Char × Stream) :=
  s.readWith (s.bytes.length + 2) wanted

end Stream

end ClusterPilot.Text
