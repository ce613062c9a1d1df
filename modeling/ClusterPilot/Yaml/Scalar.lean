/-
The scalars of a YAML text, read from the place where one starts: plain ones, quoted ones, and the
blocks below an indicator, with the folding of lines in each. Anchors, tags and directives are
read here too.
-/
import ClusterPilot.Yaml.Cursor
import ClusterPilot.Yaml.Token
import ClusterPilot.Number.Decimal
import ClusterPilot.Text.Utf8

namespace ClusterPilot.Yaml

open Cursor (endsWith)
open ClusterPilot.Number

/-- The characters of the names of anchors, directives and tag shorthands. -/
def isNameChar (c : Char) : Bool := c.isAlphanum || c = '-' || c = '_'

/-! ## Anchors and aliases -/

/-- The name after the sign of an anchor or alias. -/
def anchorName : Read (List Char) := fun c => do
  let (name, c) := c.advance.span isNameChar
  c.reach 1
  if name.isEmpty then throw .badAnchor
  if endsWith [' ', '\t', '?', ':', ',', ']', '}', '%', '@', '\x60'] c.peek? then pure (name, c)
  else throw .badAnchor

/-! ## Tags -/

/-- The characters that a tag may hold as they are, and the sign of an escaped byte. -/
def isTagChar (c : Char) : Bool :=
  c.isAlphanum || "-;/?:@&=+$,_.!~*'()[]%".toList.contains c

/-- Looks at hexadecimal digits up to the first character that is none, which there must not be. -/
def hexDigits (length : Nat) (wrong : Error) : Read (List Char) := fun c => do
  let ds := (c.rest.take length).takeWhile isHexDigit
  if ds.length = length then pure (ds, c.advanceBy length)
  else
    c.reach (ds.length + 1)
    throw wrong

/-- The bytes that escapes stand for, one after the other. -/
def tagBytes (fuel : Nat) : Read (List UInt8) := fun c => do
  match fuel with
  | 0 => pure ([], c)
  | fuel + 1 =>
    c.reach 1
    if c.peek? = some '%' then
      let (ds, c) ← hexDigits 2 .badTag c.advance
      let (bytes, c) ← tagBytes fuel c
      pure (UInt8.ofNat (ofHexDigits ds) :: bytes, c)
    else pure ([], c)

/-- The characters of a tag with its escapes read; each run of escaped bytes is a text by itself. -/
def tagChars (fuel : Nat) : Read (List Char) := fun c => do
  match fuel with
  | 0 => pure ([], c)
  | fuel + 1 =>
    let (run, c) := c.span fun x => isTagChar x && x ≠ '%'
    c.reach 1
    if c.peek? = some '%' then
      let (bytes, c) ← tagBytes c.rest.length c
      match Text.Utf8.decode? bytes with
      | none => throw .badTag
      | some read =>
        let (more, c) ← tagChars fuel c
        pure (run ++ read ++ more, c)
    else pure (run, c)

/-- The text of a tag after its shorthand. -/
def tagText : Read (List Char) := fun c => do
  c.reach 1
  if c.peek?.any isTagChar then tagChars c.rest.length c else throw .badTag

/-- The shorthand at the front of a tag: an exclamation mark, or a name between two of them. -/
def tagHandle : Read (List Char) := fun c => do
  c.reach 1
  if c.peek? ≠ some '!' then throw .badTag
  let (name, after) := c.advance.span isNameChar
  after.reach 1
  if name.isEmpty ∧ after.peek? = some ' ' then pure (['!'], after)
  else if after.peek? = some '!' then
    after.advance.reach 1
    pure ('!' :: name ++ ['!'], after.advance)
  else throw .badTag

/-- A tag, from its exclamation mark on. -/
def tagName : Read TagName := fun c => do
  let finish (t : TagName) : Read TagName := fun c => do
    c.reach 1
    if endsWith [' '] c.peek? then pure (t, c) else throw .badTag
  c.reach 2
  match c.peekAt? 1 with
  | some '<' =>
    let (suffix, c) ← tagText (c.advanceBy 2)
    if c.peek? = some '>' then finish ⟨none, suffix⟩ c.advance else throw .badTag
  | next =>
    if endsWith [' ', '\t'] next then finish ⟨none, ['!']⟩ c.advance
    else
      let ahead := c.advance.rest.takeWhile fun x => !(isBreak x || x = ' ' || x = '!')
      c.reach (2 + ahead.length)
      let named := c.peekAt? (1 + ahead.length) = some '!'
      let (handle, c) ← if named then tagHandle c else pure (['!'], c.advance)
      let (suffix, c) ← tagText c
      finish ⟨some handle, suffix⟩ c

/-! ## Directives -/

/-- What is left of a line of which nothing but a comment may be left. -/
def endOfLine (wrong : Error) : Read Unit := fun c => do
  let c := c.skip (· = ' ')
  let c := if c.peek? = some '#' then c.skip (fun x => !isBreak x) else c
  c.reach 1
  if endsWith [] c.peek? then pure ((), c.lineBreak.2) else throw wrong

/-- A number in a version. -/
def versionNumber : Read Nat := fun c => do
  let (ds, c) := c.span isDigit
  c.reach 1
  if ds.isEmpty then throw .badDirective
  if maxDigits < ds.length then throw .noSuchValue else pure (ofDigits 10 ds, c)

/-- A directive, from its percent sign on. -/
def directive : Read Token := fun c => do
  let (name, c) := c.advance.span isNameChar
  c.reach 1
  if name.isEmpty ∨ ¬endsWith [' '] c.peek? then throw .badDirective
  let blank (x : Char) : Bool := x = ' '
  let (token, c) ←
    if name = "YAML".toList then do
      let (major, c) ← versionNumber (c.skip blank)
      if c.peek? ≠ some '.' then throw .badDirective
      let (_, c) ← versionNumber c.advance
      if endsWith [' '] c.peek? then pure (Token.versionDirective major, c) else throw .badDirective
    else if name = "TAG".toList then do
      let (handle, c) ← tagHandle (c.skip blank)
      if c.peek? ≠ some ' ' then throw .badDirective
      let (expansion, c) ← tagText (c.skip blank)
      if endsWith [' '] c.peek? then pure (Token.tagDirective handle expansion, c)
      else throw .badDirective
    else pure (Token.otherDirective, c.skip (fun x => !isBreak x))
  let ((), c) ← endOfLine .badDirective c
  pure (token, c)

/-! ## Plain scalars -/

/-- Whether a plain scalar ends before the characters `x :: rest`. -/
def endsPlain (inFlow : Bool) (x : Char) (rest : List Char) : Bool :=
  isBreak x || x = ' ' || x = '\t'
    || (x = ':' && endsWith (if inFlow then [' ', '\t', ',', '[', ']', '{', '}'] else [' ', '\t'])
          rest.head?)
    || (inFlow && [',', '?', '[', ']', '{', '}'].contains x)

/-- The characters up to the end of a stretch of a plain scalar. -/
def plainStretch (inFlow : Bool) : List Char → List Char
  | [] => []
  | x :: rest => if endsPlain inFlow x rest then [] else x :: plainStretch inFlow rest

/-- The blank lines after a line end of a plain scalar; `none` where a document ends. -/
def plainBreaks (fuel : Nat) : Read (Option (List Char)) := fun c => do
  match fuel with
  | 0 => pure (some [], c)
  | fuel + 1 =>
    let c := c.skip (· = ' ')
    c.reach 1
    if c.peek?.any isBreak then
      let (b, c) := c.lineBreak
      if ← c.checkMark then pure (none, c)
      else
        let (more, c) ← plainBreaks fuel c
        pure (more.map (b ++ ·), c)
    else pure (some [], c)

/-- What the space after a stretch of a plain scalar counts as, and whether it holds a line end.
Nothing is counted where a document ends. -/
def plainSpace : Read (List Char × Bool) := fun c => do
  let (blanks, c) := c.span (· = ' ')
  c.reach 1
  if c.peek?.any isBreak then
    let (b, c) := c.lineBreak
    if ← c.checkMark then pure (([], true), c)
    else
      match ← plainBreaks (c.rest.length + 1) c with
      | (none, c) => pure (([], true), c)
      | (some more, c) =>
        if b ≠ ['\n'] then pure ((b ++ more, true), c)
        else if more.isEmpty then pure (([' '], true), c)
        else pure ((more, true), c)
  else pure ((blanks, false), c)

/-- A plain scalar: its text, and whether a line ended after its last stretch. `indent` is the least
column of its further lines outside of flow collections. -/
def plain (inFlow : Bool) (indent : Int) (fuel : Nat) (space : List Char) (ended : Bool) :
    Read (List Char × Bool) := fun c => do
  match fuel with
  | 0 => pure (([], ended), c)
  | fuel + 1 =>
    c.reach 1
    let run := if c.peek? = some '#' then [] else plainStretch inFlow c.rest
    let after := c.advanceBy run.length
    -- a colon ends a stretch or not by what follows it
    after.reach (if after.peek? = some ':' then 2 else 1)
    if run.isEmpty then pure (([], ended), c)
    else
      let ((space', ended'), c) ← plainSpace after
      if space'.isEmpty ∨ c.peek? = some '#' ∨ (!inFlow ∧ (c.column : Int) < indent) then
        pure ((space ++ run, ended'), c)
      else
        let ((more, ended), c) ← plain inFlow indent fuel space' ended' c
        pure ((space ++ run ++ more, ended), c)

/-! ## Quoted scalars -/

/-- The character that a letter after a backslash stands for. -/
def escaped? : Char → Option Char
  | '0' => some '\x00'
  | 'a' => some '\x07'
  | 'b' => some '\x08'
  | 't' => some '\t'
  | '\t' => some '\t'
  | 'n' => some '\n'
  | 'v' => some '\x0b'
  | 'f' => some '\x0c'
  | 'r' => some '\r'
  | 'e' => some '\x1b'
  | ' ' => some ' '
  | '"' => some '"'
  | '\\' => some '\\'
  | '/' => some '/'
  | 'N' => some '\u0085'
  | '_' => some '\u00a0'
  | 'L' => some '\u2028'
  | 'P' => some '\u2029'
  | _ => none

/-- How many digits follow a letter that announces a code point. -/
def escapeLength? : Char → Option Nat
  | 'x' => some 2
  | 'u' => some 4
  | 'U' => some 8
  | _ => none

/-- The code point written after a backslash, from its letter on. -/
def codePoint (length : Nat) : Read Nat := fun c => do
  let (ds, c) ← hexDigits length .badEscape c.advance
  pure (ofHexDigits ds, c)

/-- The first halves of pairs. -/
def isFirstHalf (n : Nat) : Bool := 0xd800 ≤ n && n < 0xdc00

/-- The second halves of pairs. -/
def isSecondHalf (n : Nat) : Bool := 0xdc00 ≤ n && n < 0xe000

/-- The code point that is written at a place, and the place after it. -/
def nextCodePoint? (c : Cursor) : Option (Nat × Cursor) :=
  match c.rest with
  | '\\' :: letter :: _ => do
    let length ← escapeLength? letter
    (codePoint length c.advance).toOption
  | _ => none

/-- The characters that a code point stands for. The halves of a pair that are written one after the
other are one character; a half by itself is a damaged one. -/
def codePointText (n : Nat) : Read (List Char) := fun c =>
  if 0x80000000 ≤ n then .error .hugeCodePoint
  else if 0x110000 ≤ n then .error .noSuchValue
  else if isFirstHalf n then
    match nextCodePoint? c with
    | some (low, after) =>
      if isSecondHalf low then
        .ok ([Char.ofNat (0x10000 + (n - 0xd800) * 0x400 + (low - 0xdc00))], after)
      else .ok ([Text.Utf8.replacement], c)
    | none => .ok ([Text.Utf8.replacement], c)
  else if isSecondHalf n then .ok ([Text.Utf8.replacement], c)
  else .ok ([Char.ofNat n], c)

/-- The blank lines inside a quoted scalar, up to the first line that holds something. -/
def quotedBreaks (fuel : Nat) : Read (List Char) := fun c => do
  match fuel with
  | 0 => pure ([], c)
  | fuel + 1 =>
    if ← c.checkMark then throw .unclosedQuote
    let c := c.skip fun x => x = ' ' || x = '\t'
    c.reach 1
    if c.peek?.any isBreak then
      let (b, c) := c.lineBreak
      let (more, c) ← quotedBreaks fuel c
      pure (b ++ more, c)
    else pure ([], c)

/-- The space inside a quoted scalar. -/
def quotedSpace : Read (List Char) := fun c => do
  let (blanks, c) := c.span fun x => x = ' ' || x = '\t'
  c.reach 1
  if c.peek?.any isBreak then
    let (b, c) := c.lineBreak
    let (more, c) ← quotedBreaks (c.rest.length + 1) c
    if b ≠ ['\n'] then pure (b ++ more, c)
    else if more.isEmpty then pure ([' '], c)
    else pure (more, c)
  else pure (blanks, c)

/-- What an escape stands for, from the character after its backslash on. A line end that is escaped
stands for nothing. -/
def escape : Read (List Char) := fun c => do
  c.reach 1
  match c.peek? with
  | none => throw .badEscape
  | some x =>
    match escaped? x, escapeLength? x with
    | some y, _ => pure ([y], c.advance)
    | none, some length =>
      let (n, c) ← codePoint length c
      codePointText n c
    | none, none =>
      if isBreak x then
        let c := c.lineBreak.2
        quotedBreaks (c.rest.length + 1) c
      else throw .badEscape

/-- The next part of a quoted scalar, which starts with a character; nothing at the quote that
closes it. -/
def quotedPart (double : Bool) (x : Char) : Read (Option (List Char)) := fun c => do
  if x = ' ' ∨ x = '\t' ∨ isBreak x then
    let (space, c) ← quotedSpace c
    pure (some space, c)
  else if double ∧ x = '\\' then
    let (read, c) ← escape c.advance
    pure (some read, c)
  else if x = (if double then '"' else '\'') then
    if double then pure (none, c.advance)
    else
      c.reach 2
      if c.peekAt? 1 = some '\'' then pure (some ['\''], c.advanceBy 2) else pure (none, c.advance)
  else pure (some [x], c.advance)

/-- The rest of a quoted scalar, from a place inside it. -/
def quotedRest (double : Bool) (fuel : Nat) : Read (List Char) := fun c => do
  match fuel with
  | 0 => throw .unclosedQuote
  | fuel + 1 =>
    c.reach 1
    match c.peek? with
    | none => throw .unclosedQuote
    | some x =>
      match ← quotedPart double x c with
      | (none, c) => pure ([], c)
      | (some part, c) =>
        let (more, c) ← quotedRest double fuel c
        pure (part ++ more, c)

/-- A quoted scalar, from its first quote on. -/
def quoted (double : Bool) : Read (List Char) := fun c =>
  quotedRest double (c.rest.length + 1) c.advance

/-! ## Block scalars -/

/-- What happens to the line ends after the last line of a block. -/
inductive Chomping where
  | strip
  | clip
  | keep
  deriving DecidableEq

/-- The chomping that a sign asks for. -/
def chomping? : Option Char → Option Chomping
  | some '+' => some .keep
  | some '-' => some .strip
  | _ => none

/-- The indentation that a digit asks for. -/
def indentation? (x : Option Char) : Option Nat := (x.filter isDigit).map digitValue

/-- The sign of the indentation of a block, which no digit asks to be zero. -/
def indentSign : Read (Option Nat) := fun c => do
  c.reach 1
  match indentation? c.peek? with
  | some 0 => throw .badScalar
  | some n => pure (some n, c.advance)
  | none => pure (none, c)

/-- The sign of the chomping of a block. -/
def chompSign : Read (Option Chomping) := fun c => do
  c.reach 1
  match chomping? c.peek? with
  | some how => pure (some how, c.advance)
  | none => pure (none, c)

/-- The signs after the indicator of a block, in either order. -/
def blockSigns : Read (Chomping × Option Nat) := fun c => do
  let (first, c) ← chompSign c
  let (n, c) ← indentSign c
  let (second, c) ← if first.isNone ∧ n.isSome then chompSign c else pure (none, c)
  c.reach 1
  if endsWith [' '] c.peek? then pure (((first <|> second).getD .clip, n), c) else throw .badScalar

/-- The blank lines before the first line of a block, and the greatest column among them. -/
def blockLead (fuel : Nat) (most : Nat) (c : Cursor) : List Char × Nat × Cursor :=
  match fuel with
  | 0 => ([], most, c)
  | fuel + 1 =>
    match c.peek? with
    | some x =>
      if x = ' ' then blockLead fuel (max most c.advance.column) c.advance
      else if isBreak x then
        let (b, c) := c.lineBreak
        let (more, most, c) := blockLead fuel most c
        (b ++ more, most, c)
      else ([], most, c)
    | none => ([], most, c)

/-- The place at the indentation of a block, or before it where the line holds something else. -/
def blockIndent (indent : Nat) (c : Cursor) : Cursor :=
  c.advanceBy ((c.rest.take (indent - c.column)).takeWhile (· = ' ')).length

/-- The blank lines inside a block. -/
def blockBreaks (indent : Nat) (fuel : Nat) (c : Cursor) : List Char × Cursor :=
  match fuel with
  | 0 => ([], c)
  | fuel + 1 =>
    let c := blockIndent indent c
    if c.peek?.any isBreak then
      let (b, c) := c.lineBreak
      let (more, c) := blockBreaks indent fuel c
      (b ++ more, c)
    else ([], c)

/-- The lines of a block, from the first one at its indentation on: the text up to the last line,
the line end after it, the blank lines that follow, and the place after them. -/
def blockLines (folded : Bool) (indent : Nat) (fuel : Nat) (breaks : List Char) (c : Cursor) :
    List Char × List Char × List Char × Cursor :=
  match fuel with
  | 0 => ([], [], breaks, c)
  | fuel + 1 =>
    if c.column ≠ indent ∨ c.peek?.isNone then ([], [], breaks, c)
    else
      let spaced (x : Option Char) : Bool := x = some ' ' || x = some '\t'
      let flush := !spaced c.peek?
      let (line, c) := c.span fun x => !isBreak x
      let (b, c) := c.lineBreak
      let (breaks', c) := blockBreaks indent (c.rest.length + 1) c
      if c.column = indent ∧ c.peek?.isSome then
        let joint :=
          if folded ∧ b = ['\n'] ∧ flush ∧ !spaced c.peek? then
            (if breaks'.isEmpty then [' '] else [])
          else b
        let (more, last, tail, c) := blockLines folded indent fuel breaks' c
        (breaks ++ line ++ joint ++ more, last, tail, c)
      else (breaks ++ line, b, breaks', c)

/-- A block scalar, from its indicator on. `indent` is the column of the collection around it. -/
def block (folded : Bool) (indent : Int) : Read (List Char) := fun c => do
  let ((how, increment), c) ← blockSigns c.advance
  let ((), c) ← endOfLine .badScalar c
  let least := (max (indent + 1) 1).toNat
  let fuel := c.rest.length + 1
  let (breaks, column, c) :=
    match increment with
    | none =>
      let (breaks, most, c) := blockLead fuel 0 c
      (breaks, max least most, c)
    | some n =>
      let column := least + n - 1
      let (breaks, c) := blockBreaks column fuel c
      (breaks, column, c)
  let (body, last, tail, c) := blockLines folded column fuel breaks c
  let close := if how = .strip then [] else last
  let end_ := if how = .keep then tail else []
  pure (body ++ close ++ end_, c)

end ClusterPilot.Yaml
