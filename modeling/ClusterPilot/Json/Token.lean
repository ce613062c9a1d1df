/-
The tokens of a JSON text. The scanner walks the text once, character by character. A bare word, a
run of characters that are neither blank nor punctuation nor a quote, is taken whole and has to be
a number or a name; so a text is refused as soon as one word of it is none.

Beyond the standard, `NaN`, `Infinity` and `-Infinity` are numbers, and a written integer (or
the part of a number before its point) is refused when it is longer than 4300 characters.
-/
import ClusterPilot.Number.Binary64

namespace ClusterPilot.Json

open ClusterPilot.Number

/-- A token of a JSON text. -/
inductive Token where
  | openList | closeList | openObject | closeObject | comma | colon
  | null
  | bool (b : Bool)
  | integer (i : Int)
  | number (x : Binary64)
  | text (s : String)
  deriving DecidableEq, Repr

/-! ## Words -/

/-- The length up to which the part of a number before its point is read. -/
def maxIntegerLength : Nat := 4300

/-- The digits of an integer: a zero is the first one only when it is the only one. -/
def wholeDigits? (cs : List Char) : Option (List Char × List Char) :=
  match digits? cs with
  | some ('0' :: _ :: _, _) => none
  | r => r

/-- The fraction of a number, which may be missing. -/
def fraction? : List Char → Option (List Char × List Char)
  | '.' :: cs => digits? cs
  | cs => some ([], cs)

/-- The number that a word without its sign writes. -/
def unsigned? (negative : Bool) (cs : List Char) : Option Token := do
  let (whole, rest) ← wholeDigits? cs
  if maxIntegerLength < whole.length + (if negative then 1 else 0) then none
  else if rest.isEmpty then
    let n : Int := ofDigits 10 whole
    some (.integer (if negative then -n else n))
  else
    let (fraction, rest) ← fraction? rest
    let exponent ← exponent? rest
    some (.number (.ofDecimal (.ofParts negative whole fraction exponent)))

/-- The token that a bare word is. -/
def Token.ofWord? (cs : List Char) : Option Token :=
  if cs = "null".toList then some .null
  else if cs = "true".toList then some (.bool true)
  else if cs = "false".toList then some (.bool false)
  else if cs = "NaN".toList then some (.number .nan)
  else if cs = "Infinity".toList then some (.number (.infinite false))
  else if cs = "-Infinity".toList then some (.number (.infinite true))
  else match cs with
    | '-' :: ds => unsigned? true ds
    | ds => unsigned? false ds

/-! ## The scanner -/

/-- The blanks between tokens. -/
def isBlank (c : Char) : Bool := c = ' ' || c = '\t' || c = '\n' || c = '\r'

/-- The tokens that are one character. -/
def punctuation? : Char → Option Token
  | '[' => some .openList
  | ']' => some .closeList
  | '{' => some .openObject
  | '}' => some .closeObject
  | ',' => some .comma
  | ':' => some .colon
  | _ => none

/-- The character that a letter after a backslash stands for. -/
def escape? : Char → Option Char
  | '"' => some '"'
  | '\\' => some '\\'
  | '/' => some '/'
  | 'b' => some '\x08'
  | 'f' => some '\x0c'
  | 'n' => some '\n'
  | 'r' => some '\r'
  | 't' => some '\t'
  | _ => none

/-- Where the scanner is; characters and digits already read stand in reverse order. -/
inductive Mode where
  /-- Between tokens. -/
  | ground
  /-- In a bare word. -/
  | word (read : List Char)
  /-- In a quoted text. -/
  | text (read : List Char)
  /-- After a backslash. -/
  | escape (read : List Char)
  /-- In the four digits of a code unit; `high` is the half of a pair that came before. -/
  | unit (read : List Char) (high : Option Nat) (digits : List Char)
  /-- After the first half of a pair, where a backslash has to follow. -/
  | pair (read : List Char) (high : Nat)
  /-- After that backslash, where a `u` has to follow. -/
  | pairEscape (read : List Char) (high : Nat)
  deriving DecidableEq, Repr

/-- A scanner: what it has found, in reverse order, and where it is. -/
structure Scanner where
  found : List Token
  mode : Mode
  deriving DecidableEq, Repr

namespace Scanner

/-- The scanner at the start of a text. -/
def start : Scanner := ⟨[], .ground⟩

/-- A quoted text after one more code unit. A unit between `0xd800` and `0xdbff` is the first half
of a pair, one between `0xdc00` and `0xdfff` the second; neither stands alone. -/
def unit? (found : List Token) (read : List Char) (high : Option Nat) (n : Nat) : Option Scanner :=
  match high with
  | none =>
    if 0xd800 ≤ n ∧ n < 0xdc00 then some ⟨found, .pair read n⟩
    else if 0xdc00 ≤ n ∧ n < 0xe000 then none
    else some ⟨found, .text (Char.ofNat n :: read)⟩
  | some h =>
    if 0xdc00 ≤ n ∧ n < 0xe000 then
      some ⟨found, .text (Char.ofNat (0x10000 + (h - 0xd800) * 0x400 + (n - 0xdc00)) :: read)⟩
    else none

/-- The scanner after a character that stands between tokens. -/
def ground (found : List Token) (c : Char) : Scanner :=
  if isBlank c then ⟨found, .ground⟩
  else match punctuation? c with
    | some t => ⟨t :: found, .ground⟩
    | none => if c = '"' then ⟨found, .text []⟩ else ⟨found, .word [c]⟩

/-- The characters that end a bare word. -/
def endsWord (c : Char) : Bool := isBlank c || (punctuation? c).isSome || c = '"'

/-- The scanner after one more character. -/
def step? (s : Scanner) (c : Char) : Option Scanner :=
  match s.mode with
  | .ground => some (ground s.found c)
  | .word read =>
    if endsWord c then (Token.ofWord? read.reverse).map fun t => ground (t :: s.found) c
    else some ⟨s.found, .word (c :: read)⟩
  | .text read =>
    if c = '"' then some ⟨.text (String.ofList read.reverse) :: s.found, .ground⟩
    else if c = '\\' then some ⟨s.found, .escape read⟩
    else if c.toNat < 0x20 then none
    else some ⟨s.found, .text (c :: read)⟩
  | .escape read =>
    if c = 'u' then some ⟨s.found, .unit read none []⟩
    else (escape? c).map fun d => ⟨s.found, .text (d :: read)⟩
  | .unit read high ds =>
    if !isHexDigit c then none
    else if ds.length < 3 then some ⟨s.found, .unit read high (c :: ds)⟩
    else unit? s.found read high (ofHexDigits (c :: ds).reverse)
  | .pair read high => if c = '\\' then some ⟨s.found, .pairEscape read high⟩ else none
  | .pairEscape read high => if c = 'u' then some ⟨s.found, .unit read (some high) []⟩ else none

/-- The tokens of a text that ends here. -/
def finish? (s : Scanner) : Option (List Token) :=
  match s.mode with
  | .ground => some s.found.reverse
  | .word read => (Token.ofWord? read.reverse).map fun t => (t :: s.found).reverse
  | _ => none

end Scanner

/-- The tokens of a JSON text. -/
def tokens? (cs : List Char) : Option (List Token) :=
  (cs.foldlM Scanner.step? .start).bind Scanner.finish?

end ClusterPilot.Json
