/-
What is done with one run of the tool. A plan fixes the run, what its answer is read as, and what
stands for that answer when the run is only announced. The mode decides which of the two happens:
in a dry run nothing is started and the command is announced; otherwise it is started exactly once.
Echoes and warnings go to a channel of their own and change nothing else.

A session makes calls one after the other on one tool. The tool may answer a run by all runs that it
was given before, so a session that runs less may also be answered otherwise. What is done for a
call depends on the call and on the answers alone.
-/
import ClusterPilot.Shell.Word
import ClusterPilot.Tool.Run

namespace ClusterPilot.Tool

/-- How plans are performed. -/
structure Mode where
  /-- Commands are announced and not run. -/
  dryRun : Bool := false
  /-- Commands are echoed before they are run, and failures noted. -/
  verbose : Bool := false
  deriving DecidableEq, Repr

/-- A line for the person who watches. -/
inductive Note where
  /-- The command that is about to be run. -/
  | echo (command : List String)
  /-- The status of a run that failed. -/
  | warning (executable : String) (status : Int)
  deriving DecidableEq, Repr

/-- The line of a note, with its line end. -/
def Note.line : Note → String
  | .echo command => "[CMD] " ++ Shell.join command ++ "\n"
  | .warning executable status =>
    "[WARN] " ++ executable ++ " exited with status " ++ toString status ++ "\n"

/-- What performing a plan did and gave. -/
structure Performed (α : Type) where
  /-- The runs that were started, or should have been. -/
  runs : List Run := []
  /-- The commands that were announced. -/
  announced : List String := []
  notes : List Note := []
  result : Except Failure α

/-- The text of the announcements, one to a line. -/
def Performed.announcements {α : Type} (p : Performed α) : String :=
  String.join (p.announced.map (· ++ "\n"))

/-- The text of the notes. -/
def Performed.noteLines {α : Type} (p : Performed α) : String := String.join (p.notes.map Note.line)

/-- A command as it is announced: its words with one blank between them. -/
def announcement (command : List String) : String := " ".intercalate command

/-- The notes before a run. -/
def Mode.before (mode : Mode) (run : Run) : List Note :=
  if mode.verbose then [.echo run.command] else []

/-- The notes after a run. Noting a failure takes the first word of the command. -/
def Mode.after (mode : Mode) (run : Run) (e : Exit) : Except Failure (List Note) :=
  if e.ok || !mode.verbose then .ok []
  else match run.command with
    | executable :: _ => .ok [.warning executable e.status]
    | [] => .error .noExecutable

/-- What is done with one run of the tool. -/
structure Plan (α : Type) where
  run : Run
  /-- The answer of a dry run. -/
  standIn : α
  /-- What the end of the run is read as. -/
  read : Exit → Except Failure α

namespace Plan

variable {α β : Type}

/-- Does what a plan says. -/
def perform (plan : Plan α) (mode : Mode) (runner : Runner) : Performed α :=
  if mode.dryRun then
    { announced := [announcement plan.run.command], result := .ok plan.standIn }
  else
    let echo := mode.before plan.run
    match runner plan.run with
    | .error failure => { runs := [plan.run], notes := echo, result := .error failure }
    | .ok e =>
      match mode.after plan.run e with
      | .error failure => { runs := [plan.run], notes := echo, result := .error failure }
      | .ok warning => { runs := [plan.run], notes := echo ++ warning, result := plan.read e }

/-- The plan with its answers changed. -/
def map (f : α → β) (plan : Plan α) : Plan β :=
  ⟨plan.run, f plan.standIn, fun e => (plan.read e).map f⟩

/-- The plan with something made of its answer, which may fail, and another stand-in. -/
def andThen (plan : Plan α) (standIn : β) (f : α → Except Failure β) : Plan β :=
  ⟨plan.run, standIn, fun e => plan.read e >>= f⟩

/-- A command run for its effect; the answer tells whether it did what it should. -/
def effect (command : List String) : Plan Bool :=
  ⟨⟨command, false⟩, true, fun e => .ok e.ok⟩

/-- A command run for how it ends. -/
def outcome (command : List String) : Plan Exit :=
  ⟨⟨command, true⟩, ⟨success, ""⟩, fun e => .ok e⟩

/-- A command run for its output, which is given whether or not it did what it should. -/
def output (command : List String) : Plan (Bool × String) :=
  (outcome command).map fun e => (e.ok, e.output)

end Plan

/-! ## Sessions -/

/-- A tool that remembers: how it answers after the runs that it was given so far. -/
abbrev Service := List Run → Runner

/-- What is done for calls one after the other, when `past` holds the runs before the first one. -/
def session {ι α : Type} (perform : ι → Runner → Performed α) (tool : Service) (past : List Run) :
    List ι → List (Performed α)
  | [] => []
  | call :: calls =>
    let done := perform call (tool past)
    done :: session perform tool (past ++ done.runs) calls

end ClusterPilot.Tool
