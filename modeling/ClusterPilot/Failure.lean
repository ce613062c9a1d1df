/-
What an operation can fail with. A failure keeps the evidence that a caller can act on: the words
of the command, the status it ended with, the text that could not be read. The wording of each
cause is fixed here.
-/
import ClusterPilot.Fault
import ClusterPilot.Text.Quoted

namespace ClusterPilot

/-- A demand that a caller did not meet; it is noticed before anything is started. -/
inductive Misuse where
  /-- An option without a key. -/
  | badOption (spec : String)
  /-- Neither a value nor a configured default. -/
  | noValue (name : String)
  /-- A job of a kind that needs a main file. -/
  | noFile (jobKind : String)
  deriving DecidableEq, Repr

/-- The wording of a misuse. -/
def Misuse.message : Misuse → String
  | .badOption spec => "Invalid option spec: " ++ Text.quoted spec
  | .noValue name => "No " ++ name ++ " given and no default_" ++ name ++ " configured"
  | .noFile kind => "A main file is required to submit a " ++ kind ++ " job"

/-- Why an operation gave no answer. -/
inductive Failure where
  /-- A failure without evidence. -/
  | plain (message : String)
  /-- A demand on the caller was not met. -/
  | misuse (message : String)
  /-- The tool ended well, and its output is not what it should be; with the faults, when it was
  checked field by field. -/
  | unreadable (message : String) (text : String) (faults : Option (List Fault))
  /-- The tool ended with a status other than success. -/
  | unsuccessful (message : String) (command : List String) (status : Option Int) (output : String)
  /-- The tool could not be started. -/
  | notStarted (message : String) (command : List String)
  /-- A command without a first word has no executable. -/
  | noExecutable
  /-- A word of the command holds a character that no argument can hold. -/
  | unpassable
  /-- A result that says that an answer could not be read, and not why. -/
  | unexplained
  /-- An entry that is to be set under the name that the caller's own map goes by. -/
  | ambiguousName (name : String)
  /-- A text where a request has to be. -/
  | notARequest (value : String)
  deriving DecidableEq, Repr

namespace Failure

/-- The wording of a failure. -/
def message : Failure → String
  | plain m | misuse m | unreadable m _ _ | unsuccessful m _ _ _ | notStarted m _ => m
  | noExecutable => "list index out of range"
  | unpassable => "embedded null byte"
  | unexplained => "exceptions must derive from BaseException"
  | ambiguousName name =>
    "with_options() got multiple values for argument " ++ Text.quoted name
  | notARequest value => "Unknown command arguments: " ++ Text.quoted value

/-- Whether the failure is one of the operations themselves. -/
def isOperational : Failure → Bool
  | noExecutable | unpassable | unexplained | ambiguousName _ | notARequest _ => false
  | _ => true

/-- Whether the failure is one of running a program. -/
def isSystemFailure : Failure → Bool
  | unsuccessful .. | notStarted .. => true
  | _ => false

/-- Whether the failure is one of a value. -/
def isValueFailure : Failure → Bool
  | misuse _ | unreadable .. | unpassable => true
  | _ => false

/-- A demand that a caller did not meet. -/
def ofMisuse (m : Misuse) : Failure := misuse m.message

/-- The first line of a report of faults: how many there are, and in what. -/
def countLine (n : Nat) (subject : String) : String :=
  toString n ++ (if n = 1 then " validation error for " else " validation errors for ") ++ subject

/-- Output that has faults. `what` names the response, `subject` what it should have held. -/
def ofFaults (what subject text : String) (faults : List Fault) : Failure :=
  unreadable ("Unexpected " ++ what ++ ": " ++ countLine faults.length subject) text (some faults)

end Failure

end ClusterPilot
