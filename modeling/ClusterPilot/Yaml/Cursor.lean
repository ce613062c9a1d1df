/-
A place in a YAML text: what is left to read, and the index, line and column of the next character.
A line ends with a line feed, a carriage return, a next-line character, or a line or paragraph
separator; a byte order mark takes no column.

Looking at a character reads the text up to it, and so may meet the error that stands beyond what
can be read. The places where a reader looks are written with `reach`; between two of them it moves
over characters that it has seen.
-/
import ClusterPilot.Yaml.Source

namespace ClusterPilot.Yaml

/-- The characters that end a line. -/
def isBreak (c : Char) : Bool :=
  c = '\n' || c = '\r' || c = '\u0085' || c = '\u2028' || c = '\u2029'

/-- A place in a text. -/
structure Cursor where
  rest : List Char
  /-- The error that stands beyond what can be read. -/
  beyond : Option Error
  index : Nat
  line : Nat
  column : Nat

/-- What reads a part of a text from a place. -/
abbrev Read (α : Type) := Cursor → Except Error (α × Cursor)

namespace Cursor

/-- The front of a text. -/
def start (src : Source) : Cursor := ⟨src.chars, src.beyond, 0, 0, 0⟩

/-- The next characters are looked at. At the end of the text there need not be so many. -/
def reach (c : Cursor) (n : Nat) : Except Error Unit :=
  match c.beyond with
  | none => .ok ()
  | some e => if c.rest.length < n then .error e else .ok ()

/-- The next character. -/
def peek? (c : Cursor) : Option Char := c.rest.head?

/-- The character some places ahead. -/
def peekAt? (c : Cursor) (n : Nat) : Option Char := c.rest[n]?

/-- The place after the next character. -/
def advance (c : Cursor) : Cursor :=
  match c.rest with
  | [] => c
  | x :: xs =>
    let c := { c with rest := xs, index := c.index + 1 }
    if isBreak x ∧ ¬(x = '\r' ∧ xs.head? = some '\n') then { c with line := c.line + 1, column := 0 }
    else { c with column := if x = '\ufeff' then c.column else c.column + 1 }

/-- The place some characters ahead. -/
def advanceBy (c : Cursor) : Nat → Cursor
  | 0 => c
  | n + 1 => c.advance.advanceBy n

/-- The longest run of characters of a class, and the place after it. -/
def span (p : Char → Bool) (c : Cursor) : List Char × Cursor :=
  let run := c.rest.takeWhile p
  (run, c.advanceBy run.length)

/-- The place after the longest run of characters of a class. -/
def skip (p : Char → Bool) (c : Cursor) : Cursor := (c.span p).2

/-- The line end at this place, as it counts in a text, and the place after it; nothing when there
is none. A separator of lines or paragraphs keeps itself, any other line end is a line feed. -/
def lineBreak (c : Cursor) : List Char × Cursor :=
  match c.rest with
  | '\r' :: '\n' :: _ => (['\n'], c.advanceBy 2)
  | x :: _ =>
    if x = '\u2028' ∨ x = '\u2029' then ([x], c.advance)
    else if isBreak x then (['\n'], c.advance)
    else ([], c)
  | [] => ([], c)

/-- Whether a character that may be missing is the end of the text, a line end, or one of some
others. -/
def endsWith (others : List Char) : Option Char → Bool
  | none => true
  | some x => isBreak x || others.contains x

/-- Whether the text ends or a line ends or a blank stands some places ahead. -/
def blankAt (c : Cursor) (n : Nat) : Bool := endsWith [' ', '\t'] (c.peekAt? n)

/-- Whether the characters of a mark between documents stand here. -/
def marks (c : Cursor) : Bool := c.rest.take 3 == "---".toList || c.rest.take 3 == "...".toList

/-- Whether a mark between documents stands here, ignoring the column. -/
def atDocumentMark (c : Cursor) : Bool := c.marks && c.blankAt 3

/-- Looks for a mark between documents. What follows one is looked at only where it stands. -/
def checkMark (c : Cursor) : Except Error Bool := do
  c.reach (if c.marks then 4 else 3)
  pure c.atDocumentMark

end Cursor

end ClusterPilot.Yaml
