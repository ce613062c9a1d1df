/-
A machine with the programs that every POSIX system has, as far as they can be told without
starting anything. Its runner answers as one that starts programs does: what cannot be started is
told by cause, and captured output is read as UTF-8, damaged bytes replaced and line ends in one
spelling.
-/
import ClusterPilot.Config.Files
import ClusterPilot.Host.Script
import ClusterPilot.Text.Basic
import ClusterPilot.Tool.Run

namespace ClusterPilot.Host

open Tool (Run Exit)

/-- Why a program cannot be started. -/
inductive Refusal where
  | noSuchFile
  | notPermitted
  | notADirectory
  | nameTooLong
  deriving DecidableEq, Repr

/-- The number and the wording of a cause. -/
def Refusal.text : Refusal → String
  | noSuchFile => "[Errno 2] No such file or directory"
  | notPermitted => "[Errno 13] Permission denied"
  | notADirectory => "[Errno 20] Not a directory"
  | nameTooLong => "[Errno 36] File name too long"

/-- The message of a program that cannot be started. -/
def Refusal.message (r : Refusal) (executable : String) : String :=
  let name := Text.quoted executable
  "Failed to start " ++ name ++ ": " ++ r.text ++ ": " ++ name

/-- What a program prints, and the status it ends with. -/
abbrev Ended := List UInt8 × Int

/-- What a program does with the words after its name. -/
abbrev Program := List String → Ended

/-- The shell: a script given with `-c`, or nothing to read at all. -/
def shell : Program
  | [] => ([], 0)
  | ["-c", script] => Script.run script ["sh"]
  | "-c" :: script :: arguments => Script.run script arguments
  | _ => ([], 2)

/-- The programs. -/
def programs : List (String × Program) := [
  ("true", fun _ => ([], 0)),
  ("false", fun _ => ([], 1)),
  ("echo", fun ws => let (escapes, newline, ws) := echoOptions false true ws
    (echo (if escapes then some .echo else none) newline ws, 0)),
  ("printf", printf .format 1),
  ("cat", fun _ => ([], 0)),
  ("sh", shell)]

/-- The directories that every system has, by their parts. -/
def directories : List (List String) := [
  [], ["bin"], ["boot"], ["dev"], ["etc"], ["home"], ["lib"], ["media"], ["mnt"], ["opt"],
  ["proc"], ["root"], ["run"], ["sbin"], ["srv"], ["sys"], ["tmp"], ["usr"], ["usr", "bin"],
  ["usr", "lib"], ["usr", "local"], ["usr", "local", "bin"], ["usr", "sbin"], ["usr", "share"],
  ["var"], ["var", "log"], ["var", "tmp"]]

/-- The files that every system has and that are no programs. -/
def plainFiles : List (List String) := [
  ["dev", "null"], ["dev", "zero"], ["etc", "group"], ["etc", "hostname"], ["etc", "hosts"],
  ["etc", "passwd"], ["etc", "shadow"]]

/-- The program at the path with given parts. -/
def programAt? (parts : List String) : Option Program :=
  match parts with
  | ["bin", name] | ["usr", "bin", name] => programs.lookup name
  | _ => none

/-- Whether nothing can be inside what has given parts. -/
def isFile (parts : List String) : Bool :=
  plainFiles.contains parts || (programAt? parts).isSome

/-- The program at an absolute path. A path that goes on after a file leads nowhere. -/
def locate (parts : List String) (closed : Bool) : Except Refusal Program :=
  let inside := (List.range parts.length).any fun n => isFile (parts.take n)
  if inside || (closed && isFile parts) then .error .notADirectory
  else match programAt? parts with
    | some p => .ok p
    | none =>
      if directories.contains parts || plainFiles.contains parts then .error .notPermitted
      else .error .noSuchFile

/-- The program that the first word of a command names. A name without a separator is looked for
among the programs, where a name of nothing or of a directory leads to a directory; a relative path
leads from a directory without programs. -/
def program (executable : String) : Except Refusal Program :=
  let cs := executable.toList
  let parts := (Config.pathParts cs).map String.ofList
  if (Config.pathParts cs).any (Config.Files.maxPart < Config.Files.bytes ·)
      ∨ Config.Files.maxPath < Config.Files.bytes cs then .error .nameTooLong
  else if !cs.contains '/' then
    match programs.lookup executable with
    | some p => .ok p
    | none =>
      if executable = "" ∨ parts.all (· = "..") then .error .notPermitted else .error .noSuchFile
  else if (Config.pathRoot cs).isEmpty then
    if parts.all (· = "..") then .error .notPermitted else .error .noSuchFile
  else if parts.all (· = "..") then .error .notPermitted
  else locate parts (cs.getLast? = some '/')

/-- The text of captured output. -/
def captured (bytes : List UInt8) : String :=
  String.ofList (Text.unifyNewlines (Text.Utf8.decodeLossy bytes))

/-- The runner of the machine. -/
def runner : Tool.Runner := fun run =>
  match run.command with
  | [] => .error .noExecutable
  | executable :: words =>
    if run.command.any (·.toList.contains '\x00') then .error .unpassable
    else match program executable with
      | .error r => .error (.notStarted (r.message executable) run.command)
      | .ok p =>
        let (bytes, status) := p words
        .ok ⟨status, if run.capture then captured bytes else ""⟩

end ClusterPilot.Host
