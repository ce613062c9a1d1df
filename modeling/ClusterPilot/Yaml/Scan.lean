/-
From a YAML text to its tokens. Collections in block style are told by columns: the scanner keeps
the columns of the open ones and closes those that a line starts left of. A key without a sign is
known only by the colon after it, so the scanner remembers where one may have started, for each
open flow collection, and puts the token of the key there once the colon is found. Such a key has to
end on its line and within 1024 characters.

A token is told by its first characters, and no more of the text is looked at than that takes; so an
error in a token comes before one that stands beyond what can be read.
-/
import ClusterPilot.Yaml.Scalar

namespace ClusterPilot.Yaml

open Cursor (endsWith)

/-- A place where a key may have started. -/
structure KeyStart where
  /-- The number of tokens before it. -/
  position : Nat
  /-- Whether a key has to be here, because the line starts at the column of its mapping. -/
  required : Bool
  index : Nat
  line : Nat
  column : Nat

/-- The length that a key without a sign may have. -/
def maxKeyLength : Nat := 1024

/-- A scanner inside a text. -/
structure Scanner where
  cursor : Cursor
  /-- The tokens found, in reverse order, and their number. -/
  found : List Token
  count : Nat
  /-- The column of the innermost block collection, and those of the ones around it. -/
  indent : Int
  outer : List Int
  /-- Whether a key may start here. -/
  keyAllowed : Bool
  /-- Where a key may have started outside of flow collections. -/
  blockKey : Option KeyStart
  /-- The same for each open flow collection, innermost first. -/
  flowKeys : List (Option KeyStart)

namespace Scanner

/-- The scanner at the front of a text. A byte order mark there is no part of it. -/
def start (src : Source) : Scanner :=
  let c := Cursor.start src
  ⟨if c.peek? = some '\ufeff' then c.advance else c, [], 0, -1, [], true, none, []⟩

/-- Whether the scanner is in a flow collection. -/
def inFlow (s : Scanner) : Bool := !s.flowKeys.isEmpty

/-- The scanner with one more token. -/
def emit (s : Scanner) (t : Token) : Scanner :=
  { s with found := t :: s.found, count := s.count + 1 }

/-- The scanner with a token put in after the first `position` ones. -/
def emitAt (s : Scanner) (position : Nat) (t : Token) : Scanner :=
  let later := s.count - position
  { s with found := s.found.take later ++ t :: s.found.drop later, count := s.count + 1 }

/-- The scanner one character ahead, with one more token. -/
def emitSign (s : Scanner) (t : Token) : Scanner :=
  { s.emit t with cursor := s.cursor.advance }

/-! ## Places where a key may have started -/

/-- The place for the innermost collection. -/
def key? (s : Scanner) : Option KeyStart :=
  match s.flowKeys with
  | k :: _ => k
  | [] => s.blockKey

/-- The scanner with another place for the innermost collection. -/
def setKey (s : Scanner) (k : Option KeyStart) : Scanner :=
  match s.flowKeys with
  | _ :: ks => { s with flowKeys := k :: ks }
  | [] => { s with blockKey := k }

@[simp] theorem setKey_cursor (s : Scanner) (k : Option KeyStart) :
    (s.setKey k).cursor = s.cursor := by
  unfold setKey
  split <;> rfl

/-- No key has started at the place for the innermost collection. -/
def dropKey (s : Scanner) : Except Error Scanner :=
  if s.key?.any (·.required) then .error .unfinishedKey else .ok (s.setKey none)

/-- A key may start here. -/
def saveKey (s : Scanner) : Except Error Scanner :=
  if s.keyAllowed then do
    let c := s.cursor
    let required := !s.inFlow && s.indent == c.column
    pure ((← s.dropKey).setKey (some ⟨s.count, required, c.index, c.line, c.column⟩))
  else .ok s

/-- A place is out of reach on another line or too far behind. -/
def isStale (c : Cursor) (k : KeyStart) : Bool :=
  k.line ≠ c.line || maxKeyLength < c.index - k.index

/-- The scanner without the places that are out of reach. -/
def dropStaleKeys (s : Scanner) : Except Error Scanner :=
  let stale (k : Option KeyStart) : Bool := k.any (isStale s.cursor)
  let keep (k : Option KeyStart) : Option KeyStart := if stale k then none else k
  if stale s.blockKey && s.blockKey.any (·.required) then .error .unfinishedKey
  else .ok { s with blockKey := keep s.blockKey, flowKeys := s.flowKeys.map keep }

/-! ## Columns -/

/-- Closes the block collections right of a column. -/
def closeFrom (column : Int) (found : List Token) (count : Nat) (indent : Int) :
    List Int → List Token × Nat × Int × List Int
  | [] => (found, count, indent, [])
  | i :: outer =>
    if column < indent then closeFrom column (.blockEnd :: found) (count + 1) i outer
    else (found, count, indent, i :: outer)

/-- The scanner after the block collections right of a column are closed. -/
def unwind (s : Scanner) (column : Int) : Scanner :=
  if s.inFlow then s
  else
    let (found, count, indent, outer) := closeFrom column s.found s.count s.indent s.outer
    { s with found, count, indent, outer }

@[simp] theorem unwind_cursor (s : Scanner) (column : Int) :
    (s.unwind column).cursor = s.cursor := by
  unfold unwind
  split <;> rfl

/-- The scanner with a block collection open at a column, and whether it is a new one. -/
def openAt (s : Scanner) (column : Nat) : Scanner × Bool :=
  if s.indent < column then ({ s with indent := column, outer := s.indent :: s.outer }, true)
  else (s, false)

/-- The scanner with a block collection open at its column; `t` tells when it is a new one. -/
def openHere (s : Scanner) (t : Token) : Scanner :=
  let (s, isNew) := s.openAt s.cursor.column
  if isNew then s.emit t else s

/-! ## From token to token -/

/-- The scanner after blanks, comments and line ends. A key may start on a new line. -/
def skipBlank (fuel : Nat) (s : Scanner) : Scanner :=
  match fuel with
  | 0 => s
  | fuel + 1 =>
    let c := s.cursor.skip (· = ' ')
    let c := if c.peek? = some '#' then c.skip (fun x => !isBreak x) else c
    if c.peek?.any isBreak then
      skipBlank fuel { s with cursor := c.lineBreak.2, keyAllowed := s.keyAllowed || !s.inFlow }
    else { s with cursor := c }

/-- A token that ends what came before it: a mark of documents or a directive. -/
def beginDocumentPart (s : Scanner) : Except Error Scanner := do
  let s ← (s.unwind (-1)).dropKey
  pure { s with keyAllowed := false }

/-- The mark between documents. -/
def documentMark (s : Scanner) (t : Token) : Except Error Scanner := do
  let s ← s.beginDocumentPart
  pure { s.emit t with cursor := s.cursor.advanceBy 3 }

/-- The start of a flow collection. -/
def flowStart (s : Scanner) (t : Token) : Except Error Scanner := do
  let s ← s.saveKey
  pure { s.emitSign t with keyAllowed := true, flowKeys := none :: s.flowKeys }

/-- The end of a flow collection. Where none is open, the token is left behind before it is found to
belong nowhere. -/
def flowEnd (s : Scanner) (t : Token) : Except Error Scanner := do
  match s.flowKeys with
  | [] => s.cursor.advance.reach 1; throw .unexpectedToken
  | _ :: ks => pure { s.emitSign t with keyAllowed := false, flowKeys := ks }

/-- The comma between the entries of a flow collection. -/
def flowComma (s : Scanner) : Except Error Scanner := do
  let s ← s.dropKey
  pure { s.emitSign .flowEntry with keyAllowed := true }

/-- The dash of an entry. In a flow collection it is taken, and then belongs nowhere. -/
def dash (s : Scanner) : Except Error Scanner := do
  if !s.inFlow ∧ !s.keyAllowed then throw .misplacedEntry
  let s := if s.inFlow then s else s.openHere .blockSequenceStart
  let s ← s.dropKey
  pure { s.emitSign .blockEntry with keyAllowed := true }

/-- The sign of a key. -/
def keySign (s : Scanner) : Except Error Scanner := do
  if !s.inFlow ∧ !s.keyAllowed then throw .misplacedEntry
  let s := if s.inFlow then s else s.openHere .blockMappingStart
  let s ← s.dropKey
  pure { s.emitSign .key with keyAllowed := !s.inFlow }

/-- The colon of a value. When a key may have started, it has. -/
def colon (s : Scanner) : Except Error Scanner := do
  match s.key? with
  | some k =>
    let s := (s.setKey none).emitAt k.position .key
    let s :=
      if s.inFlow then s
      else
        let (s, isNew) := s.openAt k.column
        if isNew then s.emitAt k.position .blockMappingStart else s
    pure { s.emitSign .value with keyAllowed := false }
  | none =>
    if !s.inFlow ∧ !s.keyAllowed then throw .misplacedEntry
    let s := if s.inFlow then s else s.openHere .blockMappingStart
    let s ← s.dropKey
    pure { s.emitSign .value with keyAllowed := !s.inFlow }

/-- A token that a key may start with. -/
def keyPart (s : Scanner) (read : Read Token) : Except Error Scanner := do
  let s ← s.saveKey
  let (t, cursor) ← read s.cursor
  pure { s.emit t with cursor, keyAllowed := false }

/-- A block scalar. -/
def blockScalar (s : Scanner) (folded : Bool) : Except Error Scanner := do
  let s ← s.dropKey
  let (content, cursor) ← block folded s.indent s.cursor
  pure { s.emit (.scalar content false) with cursor, keyAllowed := true }

/-- A plain scalar. -/
def plainScalar (s : Scanner) : Except Error Scanner := do
  let s ← s.saveKey
  let ((content, ended), cursor) ←
    plain s.inFlow (s.indent + 1) (s.cursor.rest.length + 1) [] false s.cursor
  pure { s.emit (.scalar content true) with cursor, keyAllowed := ended }

/-- Whether a plain scalar may start with the characters `x :: …`. -/
def startsPlain (s : Scanner) (x : Char) : Bool :=
  !(isBreak x || " \t-?:,[]{}#&*!|>'\"%@\x60".toList.contains x)
    || (!s.cursor.blankAt 1 && (x = '-' || (!s.inFlow && (x = '?' || x = ':'))))

/-- How many characters are looked at to tell which token starts with a character. -/
def lookahead (s : Scanner) (x : Char) : Nat :=
  if s.cursor.column = 0 ∧ x = '%' then 1
  else if s.cursor.column = 0 ∧ (x = '-' ∨ x = '.') then if s.cursor.marks then 4 else 3
  else if x = '?' ∨ x = ':' then if s.inFlow then 1 else 2
  else if x = '|' ∨ x = '>' then if s.inFlow then 2 else 1
  else if "\t-%@\x60".toList.contains x then 2
  else 1

/-- The scanner after the token that starts with a character. -/
def token (s : Scanner) (x : Char) : Except Error Scanner :=
  let c := s.cursor
  let named (make : List Char → Token) : Read Token := fun c =>
    (anchorName c).map fun r => (make r.1, r.2)
  let scalar (double : Bool) : Read Token := fun c =>
    (quoted double c).map fun r => (.scalar r.1 false, r.2)
  if x = '%' ∧ c.column = 0 then do
    let s ← s.beginDocumentPart
    let (t, cursor) ← directive s.cursor
    pure { s.emit t with cursor }
  else if c.column = 0 ∧ c.atDocumentMark then
    s.documentMark (if x = '-' then .documentStart else .documentEnd)
  else if x = '[' then s.flowStart .flowSequenceStart
  else if x = '{' then s.flowStart .flowMappingStart
  else if x = ']' then s.dropKey >>= (·.flowEnd .flowSequenceEnd)
  else if x = '}' then s.dropKey >>= (·.flowEnd .flowMappingEnd)
  else if x = ',' then s.flowComma
  else if x = '-' ∧ c.blankAt 1 then s.dash
  else if x = '?' ∧ (s.inFlow ∨ c.blankAt 1) then s.keySign
  else if x = ':' ∧ (s.inFlow ∨ c.blankAt 1) then s.colon
  else if x = '*' then s.keyPart (named .alias)
  else if x = '&' then s.keyPart (named .anchor)
  else if x = '!' then s.keyPart fun c => (tagName c).map fun r => (.tag r.1, r.2)
  else if x = '|' ∧ !s.inFlow then s.blockScalar false
  else if x = '>' ∧ !s.inFlow then s.blockScalar true
  else if x = '\'' then s.keyPart (scalar false)
  else if x = '"' then s.keyPart (scalar true)
  else if s.startsPlain x then s.plainScalar
  else .error .noToken

/-- The number of tokens that stay where they are whatever follows: those before the first place
where a key may still have started. -/
def settled (s : Scanner) : Nat :=
  let places := (s.blockKey :: s.flowKeys).filterMap id
  (places.filter fun k => !isStale s.cursor k).foldl (fun n k => min n k.position) s.count

end Scanner

/-- The tokens of a text up to the place where it stops being one, and why it does. -/
structure Scan where
  tokens : List Token
  error : Option Error

namespace Scanner

/-- One round: the blanks before a token and the token, or nothing at the end of the text. The
character after the token is looked at too. -/
def round (s : Scanner) : Except Error (Scanner × Bool) := do
  let s := s.skipBlank (s.cursor.rest.length + 1)
  s.cursor.reach 1
  let s ← s.dropStaleKeys
  let s := s.unwind s.cursor.column
  match s.cursor.peek? with
  | some x =>
    s.cursor.reach (s.lookahead x)
    let s ← s.token x
    s.cursor.reach 1
    pure (← s.dropStaleKeys, true)
  | none => pure (← (s.unwind (-1)).dropKey, false)

/-- The tokens from a place on. Each round takes at least one character. A round that fails leaves
the tokens that were settled before it. -/
def run (fuel : Nat) (s : Scanner) : Scan :=
  match fuel with
  | 0 => ⟨s.found.reverse, s.cursor.beyond⟩
  | fuel + 1 =>
    match s.round with
    | .ok (s, true) => run fuel s
    | .ok (s, false) => ⟨s.found.reverse, none⟩
    | .error e => ⟨s.found.reverse.take s.settled, some e⟩

end Scanner

/-- The tokens of a YAML text. -/
def Scan.ofSource (src : Source) : Scan := (Scanner.start src).run (src.chars.length + 1)

end ClusterPilot.Yaml
