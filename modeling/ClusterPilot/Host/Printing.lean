/-
What the printing programs of a POSIX system write. They work on bytes: a text is written as UTF-8,
and an escape for a byte is that byte, whatever stands around it.
-/
import ClusterPilot.Number.Decimal
import ClusterPilot.Text.Utf8

namespace ClusterPilot.Host

open ClusterPilot.Number

/-- The bytes of a text. -/
def bytesOf (s : String) : List UInt8 := Text.Utf8.encode s.toList

/-- Printed bytes, whether a sign asked for the printing to stop there, and whether nothing was
wrong. -/
structure Printed where
  bytes : List UInt8
  stopped : Bool := false
  good : Bool := true

/-- What is printed by one part and then by another, unless the first one stops the printing. -/
def Printed.append (a : Printed) (b : Printed) : Printed :=
  if a.stopped then a else ⟨a.bytes ++ b.bytes, b.stopped, a.good && b.good⟩

/-- The text as it stands. -/
def Printed.ofChars (cs : List Char) : Printed := ⟨Text.Utf8.encode cs, false, true⟩

/-! ## Escapes -/

/-- What the escapes for a byte by two hexadecimal digits are to a program. -/
inductive HexEscape where
  | unknown
  /-- Read where digits follow, and else printed as they stand. -/
  | lenient
  /-- Refused where no digits follow. -/
  | strict
  deriving DecidableEq

/-- The escapes that a program reads. -/
structure Escapes where
  /-- A zero before octal digits is a sign in front of them, and not one of them. -/
  zeroed : Bool
  /-- There is an escape that stops the printing. -/
  stops : Bool
  hex : HexEscape

/-- The escapes in the words of the program `echo`. -/
def Escapes.echo : Escapes := ⟨true, true, .lenient⟩

/-- The escapes in the format of the program `printf`. -/
def Escapes.format : Escapes := ⟨false, true, .strict⟩

/-- The escapes in the format of the shell's own `printf`. -/
def Escapes.shellFormat : Escapes := ⟨false, false, .unknown⟩

/-- The escapes in the words of the shell's own `echo`. -/
def Escapes.shellEcho : Escapes := ⟨true, true, .unknown⟩

/-- The escapes in an argument of a format with given escapes. -/
def Escapes.argument (e : Escapes) : Escapes := { e with zeroed := true, stops := true }

/-- The byte that a letter after a backslash stands for. -/
def letterByte? : Char → Option UInt8
  | '\\' => some 0x5c
  | 'a' => some 7
  | 'b' => some 8
  | 'e' => some 0x1b
  | 'f' => some 12
  | 'n' => some 10
  | 'r' => some 13
  | 't' => some 9
  | 'v' => some 11
  | _ => none

/-- One of the eight octal digits. -/
def isOctal (c : Char) : Bool := '0' ≤ c && c ≤ '7'

/-- The digits of a class at the front of a text, at most some number of them. -/
def leading (p : Char → Bool) (most : Nat) (cs : List Char) : List Char :=
  (cs.take most).takeWhile p

/-- What a backslash and the characters after it print, and how many of these it takes. -/
def escape (e : Escapes) (cs : List Char) : Printed × Nat :=
  match cs with
  | [] => (⟨[0x5c], false, true⟩, 0)
  | c :: rest =>
    if c = 'c' ∧ e.stops then (⟨[], true, true⟩, 1)
    else if isOctal c then
      let skipped := if e.zeroed ∧ c = '0' then 1 else 0
      let ds := leading isOctal 3 (cs.drop skipped)
      (⟨[UInt8.ofNat (ofDigits 8 ds)], false, true⟩, skipped + ds.length)
    else if c = 'x' ∧ e.hex ≠ .unknown ∧ rest.head?.any isHexDigit then
      let ds := leading isHexDigit 2 rest
      (⟨[UInt8.ofNat (ofHexDigits ds)], false, true⟩, 1 + ds.length)
    else if c = 'x' ∧ e.hex = .strict then (⟨[], true, false⟩, 1)
    else match letterByte? c with
      | some b => (⟨[b], false, true⟩, 1)
      | none => (.ofChars ['\\', c], 1)

/-- A text with its escapes read. `skip` characters belong to an escape that is already read. -/
def unescape (e : Escapes) (skip : Nat) : List Char → Printed
  | [] => ⟨[], false, true⟩
  | c :: cs =>
    match skip with
    | skip + 1 => unescape e skip cs
    | 0 =>
      if c = '\\' then
        let (printed, taken) := escape e cs
        printed.append (unescape e taken cs)
      else (Printed.ofChars [c]).append (unescape e 0 cs)

/-! ## Words after each other -/

/-- The words of `echo` with one blank between them, and a line end unless it is unwanted. Escapes
are read when some are given. -/
def echo (escapes : Option Escapes) (newline : Bool) (words : List String) : List UInt8 :=
  let line := (" ".intercalate words).toList
  let printed := match escapes with
    | some e => unescape e 0 line
    | none => .ofChars line
  printed.bytes ++ if newline && !printed.stopped then [10] else []

/-- The options in front of the words of the program `echo`: whether escapes are read, whether the
line is ended, and the words that are left. -/
def echoOptions (escapes newline : Bool) : List String → Bool × Bool × List String
  | [] => (escapes, newline, [])
  | w :: ws =>
    match w.toList with
    | '-' :: letters =>
      if !letters.isEmpty && letters.all (['n', 'e', 'E'].contains ·) then
        let escapes := letters.foldl (fun e c => if c = 'n' then e else c == 'e') escapes
        echoOptions escapes (newline && !letters.contains 'n') ws
      else (escapes, newline, w :: ws)
    | _ => (escapes, newline, w :: ws)

/-! ## Formats -/

/-- The number that an argument writes, and whether it writes one. -/
def argumentNumber (argument : List Char) : Int × Bool :=
  let (negative, ds) := match argument with
    | '-' :: ds => (true, ds)
    | '+' :: ds => (false, ds)
    | ds => (false, ds)
  let n : Int := ofDigits 10 (ds.takeWhile isDigit)
  (if negative then -n else n, argument.isEmpty || (!ds.isEmpty && ds.all isDigit))

/-- What one pass over a format prints, and the arguments it leaves. Something is wrong with it
where a number is wanted and the argument is none. -/
def formatOnce (e : Escapes) (skip : Nat) (arguments : List String) :
    List Char → Printed × List String
  | [] => (⟨[], false, true⟩, arguments)
  | c :: cs =>
    match skip with
    | skip + 1 => formatOnce e skip arguments cs
    | 0 =>
      let on (printed : Printed) (skip : Nat) (arguments : List String) : Printed × List String :=
        let (more, left) := formatOnce e skip arguments cs
        (printed.append more, if printed.stopped then [] else left)
      let argument := (arguments.head?.getD "").toList
      if c = '\\' then
        let (printed, taken) :=
          if cs.head? = some '"' ∧ e.hex ≠ .unknown then (Printed.mk [0x22] false true, 1)
          else escape e cs
        on printed taken arguments
      else if c = '%' then
        match cs.head? with
        | some '%' => on (.ofChars ['%']) 1 arguments
        | some 's' => on (.ofChars argument) 1 arguments.tail
        | some 'b' => on (unescape e.argument 0 argument) 1 arguments.tail
        | some 'c' =>
          on ⟨(Text.Utf8.encode (argument ++ ['\x00'])).take 1, false, true⟩ 1 arguments.tail
        | some 'd' | some 'i' =>
          let (n, good) := argumentNumber argument
          on ⟨bytesOf (toString n), false, good⟩ 1 arguments.tail
        | some 'u' =>
          let (n, good) := argumentNumber argument
          on ⟨bytesOf (toString (n % 18446744073709551616)), false, good⟩ 1 arguments.tail
        | _ => (⟨[], true, false⟩, [])
      else on (.ofChars [c]) 0 arguments

/-- What a format prints with arguments. The format is used again as long as it takes arguments and
some are left. -/
def format (e : Escapes) (fuel : Nat) (text : List Char) (arguments : List String) : Printed :=
  let (printed, left) := formatOnce e 0 arguments text
  match fuel with
  | 0 => printed
  | fuel + 1 =>
    if left.isEmpty || left.length = arguments.length then printed
    else printed.append (format e fuel text left)

/-- What `printf` prints and the status that it ends with; `misused` is the status when it is given
nothing to print. -/
def printf (e : Escapes) (misused : Int) : List String → List UInt8 × Int
  | [] | "--" :: [] => ([], misused)
  | "--" :: text :: arguments | text :: arguments =>
    let printed := format e arguments.length text.toList arguments
    (printed.bytes, if printed.good then 0 else 1)

end ClusterPilot.Host
