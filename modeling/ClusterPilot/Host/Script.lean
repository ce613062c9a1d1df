/-
Small shell scripts: simple commands after each other, joined by `;`, line ends, `&&` and `||`, with
the quoting and the parameters of a POSIX shell. A script that needs more than that ends with the
status of a script that cannot be read.
-/
import ClusterPilot.Host.Printing

namespace ClusterPilot.Host.Script

/-- A part of a word. -/
inductive Piece where
  | text (c : Char)
  /-- A parameter, by the character after its dollar sign. -/
  | parameter (name : Char)
  deriving DecidableEq

/-- A word: its parts, and whether some of it was quoted. -/
structure Word where
  pieces : List Piece := []
  quoted : Bool := false

/-- What joins a command to the one before it. -/
inductive Link where
  | always
  | ifOk
  | ifNot
  deriving DecidableEq

/-- A token of a script. -/
inductive Token where
  | word (w : Word)
  | link (l : Link)
  /-- The output of a channel goes, or the input comes from, where the next word says. -/
  | redirect (output : Bool)

/-- How the next character is read. -/
inductive Quoting where
  | bare
  | single
  | double
  | comment
  deriving DecidableEq

/-- The parameters that are known. -/
def isParameter (c : Char) : Bool := ['$', '?', '#'].contains c || Number.isDigit c

/-- The characters of a bare script that need more than simple commands. -/
def isUnknown (c : Char) : Bool := ['(', ')', '{', '}', '|', '&', '*', '[', '\x60', '~'].contains c

/-- The word being read, when one has begun, as a token. -/
def wordToken : Option Word → List Token
  | some w => [.word w]
  | none => []

/-- A word with one more part. -/
def grow (w : Option Word) (p : Piece) : Option Word :=
  let w := w.getD {}
  some { w with pieces := w.pieces ++ [p] }

/-- A word of which some is quoted. -/
def quote (w : Option Word) : Option Word := some { w.getD {} with quoted := true }

/-- Whether a word is the number of the channel of errors. -/
def isErrorChannel (w : Option Word) : Bool := w.any fun w => w.pieces == [.text '2']

/-- Whether a word is the number of a channel. -/
def isChannel (w : Option Word) : Bool :=
  w.any fun w => [[.text '0'], [.text '1'], [.text '2']].contains w.pieces

/-- The tokens of a script from a place on. -/
def tokens : Quoting → Option Word → List Char → Option (List Token)
  | .bare, w, [] => some (wordToken w)
  | .comment, _, [] => some []
  | .single, _, [] => none
  | .double, _, [] => none
  | .comment, w, c :: cs =>
    if c = '\n' then (tokens .bare none cs).map (.link .always :: ·) else tokens .comment w cs
  | .single, w, c :: cs =>
    if c = '\'' then tokens .bare w cs else tokens .single (grow w (.text c)) cs
  | .bare, w, '&' :: '&' :: cs => (tokens .bare none cs).map (wordToken w ++ .link .ifOk :: ·)
  | .bare, w, '|' :: '|' :: cs => (tokens .bare none cs).map (wordToken w ++ .link .ifNot :: ·)
  | .bare, w, '\\' :: c :: cs =>
    if c = '\n' then tokens .bare w cs else tokens .bare (grow (quote w) (.text c)) cs
  | .bare, w, '>' :: '&' :: cs => redirected w true cs
  | .bare, w, '>' :: '>' :: cs => redirected w true cs
  | .double, w, '\\' :: c :: cs =>
    if ['"', '\\', '$', '\x60'].contains c then tokens .double (grow w (.text c)) cs
    else if c = '\n' then tokens .double w cs
    else tokens .double (grow (grow w (.text '\\')) (.text c)) cs
  | .bare, w, '$' :: c :: cs =>
    if isParameter c then tokens .bare (grow w (.parameter c)) cs
    else if c = ' ' then (tokens .bare none cs).map (wordToken (grow w (.text '$')) ++ ·)
    else none
  | .double, w, '$' :: c :: cs =>
    if isParameter c then tokens .double (grow w (.parameter c)) cs
    else if c = '"' then tokens .bare (grow w (.text '$')) cs
    else if c = ' ' then tokens .double (grow (grow w (.text '$')) (.text c)) cs
    else none
  | .double, w, c :: cs =>
    if c = '"' then tokens .bare w cs
    else if c = '\x60' then none
    else tokens .double (grow w (.text c)) cs
  | .bare, w, c :: cs =>
    if c = '\'' then tokens .single (quote w) cs
    else if c = '"' then tokens .double (quote w) cs
    else if c = ' ' ∨ c = '\t' then (tokens .bare none cs).map (wordToken w ++ ·)
    else if c = ';' ∨ c = '\n' then (tokens .bare none cs).map (wordToken w ++ .link .always :: ·)
    else if c = '>' then redirected w true cs
    else if c = '<' then redirected w false cs
    else if c = '#' ∧ w.isNone then tokens .comment none cs
    else if isUnknown c then none
    else tokens .bare (grow w (.text c)) cs
where
  /-- The tokens from after the sign of a redirection on; `w` is what stood before it. -/
  redirected (w : Option Word) (output : Bool) (cs : List Char) : Option (List Token) :=
    (tokens .bare none cs).map fun ts =>
      (if isChannel w then [] else wordToken w) ++ .redirect (output && !isErrorChannel w) :: ts

/-- A simple command. -/
structure Command where
  link : Link
  words : List Word := []
  /-- Whether its output goes somewhere else. -/
  diverted : Bool := false

/-- The commands that tokens make up, after the beginning of one. -/
def commands (c : Command) : List Token → Option (List Command)
  | [] => some [c]
  | .word w :: ts => commands { c with words := c.words ++ [w] } ts
  | .link l :: ts =>
    if c.words.isEmpty ∧ l ≠ .always then none else (commands ⟨l, [], false⟩ ts).map (c :: ·)
  | .redirect output :: .word _ :: ts =>
    commands { c with diverted := c.diverted || output } ts
  | .redirect _ :: _ => none

/-- The commands of a script. -/
def parse (cs : List Char) : Option (List Command) :=
  (tokens .bare none cs).bind (commands ⟨.always, [], false⟩)

/-! ## Running -/

/-- A script that is being run: the status of the last command, what is printed, and whether the
script has ended. -/
structure State where
  status : Int := 0
  output : List UInt8 := []
  ended : Bool := false

/-- What stands for the number of the shell's own process. -/
def self : String := "$$"

/-- The value of a parameter. -/
def parameter (arguments : List String) (status : Int) (name : Char) : String :=
  if name = '$' then self
  else if name = '?' then toString status
  else if name = '#' then toString (arguments.length - 1)
  else arguments.getD (Number.digitValue name) ""

/-- The text of a word; none when nothing is left of a bare one. -/
def expand (arguments : List String) (status : Int) (w : Word) : Option String :=
  let text := String.join (w.pieces.map fun
    | .text c => String.singleton c
    | .parameter name => parameter arguments status name)
  if text = "" ∧ !w.quoted then none else some text

/-- The signals by name. -/
def signals : List (String × Nat) := [
  ("HUP", 1), ("INT", 2), ("QUIT", 3), ("ILL", 4), ("TRAP", 5), ("ABRT", 6), ("BUS", 7),
  ("FPE", 8), ("KILL", 9), ("USR1", 10), ("SEGV", 11), ("USR2", 12), ("PIPE", 13), ("ALRM", 14),
  ("TERM", 15)]

/-- The signals that end nothing. -/
def harmless : List Nat := [0, 17, 18, 19, 20, 21, 22, 23, 28]

/-- The number of a signal, by number or by name. -/
def signal? (s : String) : Option Nat :=
  let name := if s.startsWith "SIG" then String.ofList (s.toList.drop 3) else s
  if !s.isEmpty && s.toList.all Number.isDigit then some (Number.ofDigits 10 s.toList)
  else signals.lookup name

/-- The signal that the words after `kill` send to the shell itself. -/
def kill? : List String → Option Nat
  | [target] => if target = self then some 15 else none
  | ["-s", name, target] => if target = self then signal? name else none
  | [option, target] =>
    if target = self ∧ option.startsWith "-" then signal? (String.ofList (option.toList.drop 1))
    else none
  | _ => none

/-- Runs one command. -/
def call (s : State) (diverted : Bool) (words : List String) : State :=
  let print (bytes : List UInt8) (status : Int) : State :=
    { s with status, output := if diverted then s.output else s.output ++ bytes }
  match words with
  | [] => { s with status := 0 }
  | ":" :: _ | "true" :: _ => print [] 0
  | "false" :: _ => print [] 1
  | "echo" :: "-n" :: rest => print (echo (some .shellEcho) false rest) 0
  | "echo" :: rest => print (echo (some .shellEcho) true rest) 0
  | "printf" :: rest =>
    let (bytes, status) := printf .shellFormat 2 rest
    print bytes status
  | ["cat"] | ["cat", "/dev/null"] => print [] 0
  | "sleep" :: _ => print [] 0
  | ["exit"] => { s with ended := true }
  | "exit" :: n :: _ =>
    if !n.isEmpty && n.toList.all Number.isDigit then
      { s with status := Number.ofDigits 10 n.toList % 256, ended := true }
    else { s with status := 2, ended := true }
  | "kill" :: rest =>
    match kill? rest with
    | some n =>
      if harmless.contains n then print [] 0
      else if n ≤ 64 then { s with status := -(n : Int), ended := true }
      else print [] 1
    | none => print [] 1
  | _ => print [] 127

/-- Runs a command when what joins it to the one before lets it run. -/
def step (arguments : List String) (s : State) (c : Command) : State :=
  let runs := match c.link with
    | .always => true
    | .ifOk => s.status == 0
    | .ifNot => s.status != 0
  if s.ended || !runs || (c.words.isEmpty && !c.diverted) then s
  else call s c.diverted (c.words.filterMap (expand arguments s.status))

/-- What a script prints and the status it ends with; `arguments` are its name and the words given
to it. -/
def run (script : String) (arguments : List String) : List UInt8 × Int :=
  match parse script.toList with
  | none => ([], 2)
  | some cs =>
    let s := cs.foldl (step arguments) {}
    (s.output, s.status)

end ClusterPilot.Host.Script
