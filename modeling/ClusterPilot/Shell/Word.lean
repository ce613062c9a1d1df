/-
Words as a POSIX shell reads them. `quote` writes a word so that the shell takes it literally: as
it is when all its characters are harmless, otherwise between apostrophes, with each apostrophe
inside put between double quotes. `split?` reads a line of unquoted text, texts between
apostrophes and texts between double quotes; on a line of quoted words it gives the words back.
-/
namespace ClusterPilot.Shell

/-- A character that no shell treats specially: an ASCII letter or digit, or one of a few marks. -/
def isSafe (c : Char) : Bool :=
  c.isAlphanum || ['_', '@', '%', '+', '=', ':', ',', '.', '/', '-'].contains c

/-- A character inside apostrophes; an apostrophe ends them and starts them again. -/
def quoteChar (c : Char) : List Char :=
  if c = '\'' then ['\'', '"', '\'', '"', '\''] else [c]

/-- A word so written that a shell takes it literally. -/
def quote (word : List Char) : List Char :=
  if word.isEmpty then ['\'', '\'']
  else if word.all isSafe then word
  else '\'' :: word.flatMap quoteChar ++ ['\'']

/-- Words with one blank between them, each quoted as needed. -/
def join (words : List String) : String :=
  " ".intercalate (words.map fun w => String.ofList (quote w.toList))

/-! ## Reading words -/

/-- How the next character of a line is read. -/
inductive Quoting where
  | bare
  /-- After a backslash outside quotes. -/
  | escaped
  | single
  | double
  /-- After a backslash between double quotes. -/
  | doubleEscaped
  deriving DecidableEq

/-- A character that may not stand for itself outside quotes: it can end or join commands, start a
comment, or have the shell put something in its place. -/
def isActive (c : Char) : Bool :=
  ['|', '&', ';', '<', '>', '(', ')', '$', '\x60', '\n', '*', '?', '[', ']', '#', '~', '!', '\x7b',
    '\x7d'].contains c

/-- A character that a double-quoted text can hold only after a backslash. -/
def escapable (c : Char) : Bool := ['"', '\\', '$', '\x60'].contains c

/-- The words of a line. `word` is the word being read, in reverse order, when one has begun. A line
end after a backslash is no character, and what a shell would replace is not read. -/
def splitFrom : Quoting → Option (List Char) → List Char → Option (List (List Char))
  | q, word, [] => if q = .bare then some (word.toList.map List.reverse) else none
  | .bare, word, c :: cs =>
    if c = '\\' then splitFrom .escaped word cs
    else if c = '\'' then splitFrom .single (some (word.getD [])) cs
    else if c = '"' then splitFrom .double (some (word.getD [])) cs
    else if c = ' ' ∨ c = '\t' then
      (splitFrom .bare none cs).map (word.toList.map List.reverse ++ ·)
    else if isActive c then none
    else splitFrom .bare (some (c :: word.getD [])) cs
  | .escaped, word, c :: cs =>
    splitFrom .bare (if c = '\n' then word else some (c :: word.getD [])) cs
  | .single, word, c :: cs =>
    if c = '\'' then splitFrom .bare word cs
    else splitFrom .single (some (c :: word.getD [])) cs
  | .double, word, c :: cs =>
    if c = '"' then splitFrom .bare word cs
    else if c = '\\' then splitFrom .doubleEscaped word cs
    else if c = '$' ∨ c = '\x60' then none
    else splitFrom .double (some (c :: word.getD [])) cs
  | .doubleEscaped, word, c :: cs =>
    if c = '\n' then splitFrom .double word cs
    else if escapable c then splitFrom .double (some (c :: word.getD [])) cs
    else splitFrom .double (some (c :: '\\' :: word.getD [])) cs

/-- The words of a line, unless a quote is left open or a shell would do more than take words from
it. -/
def split? (line : String) : Option (List String) :=
  (splitFrom .bare none line.toList).map fun ws => ws.map String.ofList

end ClusterPilot.Shell
