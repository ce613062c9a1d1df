/-
The text of a file as a YAML reader comes to know it: part by part, each part when a character of it
is needed. A part that is damaged, or that holds a character that no YAML text may hold, is an error
for the reader only once it gets there; the characters before it are read as if it did not exist.
-/
import ClusterPilot.Text.Stream
import ClusterPilot.Yaml.Token

namespace ClusterPilot.Yaml

/-- The characters that a YAML text may hold. -/
def isAllowed (c : Char) : Bool :=
  let n := c.toNat
  n == 9 || n == 10 || n == 13 || (0x20 ≤ n && n ≤ 0x7e) || n == 0x85
    || (0xa0 ≤ n && n ≤ 0xd7ff) || (0xe000 ≤ n && n ≤ 0xfffd) || 0x10000 ≤ n

/-- A text as far as it can be read, and the error that stands beyond. -/
structure Source where
  chars : List Char
  beyond : Option Error := none

namespace Source

/-- How many characters a part has. -/
def partSize : Nat := 4096

/-- The source that starts with a part, with what comes after it. -/
def join (part : List Char) (rest : Source) : Source :=
  if part.all isAllowed then ⟨part ++ rest.chars, rest.beyond⟩ else ⟨[], some .forbiddenCharacter⟩

/-- The parts that a stream still has, at most `fuel` of them. -/
def parts (fuel : Nat) (s : Text.Stream) : Source :=
  match fuel with
  | 0 => ⟨[], none⟩
  | fuel + 1 =>
    match s.read? partSize with
    | none => ⟨[], some .undecodable⟩
    | some ([], _) => ⟨[], none⟩
    | some (part, s) => join part (parts fuel s)

/-- The text in the bytes of a file. Its first two parts are read before either is looked at. -/
def ofBytes (bytes : List UInt8) : Source :=
  let front := do
    let (first, s) ← (Text.Stream.start bytes).read? partSize
    let (second, s) ← s.read? partSize
    pure (first ++ second, s)
  match front with
  | none => ⟨[], some .undecodable⟩
  | some (part, s) => join part (parts (bytes.length + 1) s)

end Source

end ClusterPilot.Yaml
