/-
Loading a configuration. The file is read as YAML, part by part and each part as UTF-8 once it is
needed, and its data as a configuration; so what is wrong first in the file decides the error, and
the data is looked at only if nothing is. A file that says nothing is a configuration with all
defaults.
-/
import ClusterPilot.Config.Basic
import ClusterPilot.Config.Files
import ClusterPilot.Text.Quoted
import ClusterPilot.Yaml.Document

namespace ClusterPilot.Config

/-- Why a configuration could not be loaded. -/
inductive LoadError where
  | missing (path : String)
  | directory (path : String)
  | unnameable (path : String)
  /-- The file is no YAML document, or holds a scalar without a value. -/
  | notReadable (cause : Yaml.Error)
  /-- The data is no configuration. -/
  | invalid (faults : List Fault)
  deriving DecidableEq, Repr

/-- The wording of the errors that have one. -/
def LoadError.message? : LoadError → Option String
  | .missing path => some ("Config file not found: " ++ path)
  | .directory path => some ("[Errno 21] Is a directory: " ++ Text.quoted path)
  | .unnameable path => some ("[Errno 36] File name too long: " ++ Text.quoted path)
  | .notReadable _ | .invalid _ => none

/-- How deep the data of a configuration is: its sections, and the settings in them. -/
def depth : Nat := 2

/-- The configuration that data holds; data that says nothing holds the default one. -/
def ofDataOrVoid (d : Data) : Checked Config := ofData (if d.isVoid then .mapping [] else d)

/-- The configuration in the bytes of a file. -/
def ofBytes (bytes : List UInt8) : Except LoadError Config :=
  match Yaml.read depth (.ofBytes bytes) with
  | .error e => .error (.notReadable e)
  | .ok d =>
    match ofDataOrVoid d with
    | .ok config => .ok config
    | .faulty f fs => .error (.invalid (f :: fs))

/-- The configuration at a path. -/
def load (files : Files) (path : String) : Except LoadError Config :=
  match files path with
  | .missing => .error (.missing path)
  | .directory => .error (.directory path)
  | .unnameable => .error (.unnameable path)
  | .file bytes => ofBytes bytes

/-- The configuration at a path, or the default one when nothing is there. -/
def loadOrDefault (files : Files) (path : String) : Except LoadError Config :=
  match load files path with
  | .error (.missing _) => .ok {}
  | r => r

/-- The settings at a path, with another choice between printing and running commands when one is
given. `required` tells whether the file has to be there. -/
def loadSettings (files : Files) (path : String) (dryRun : Option Bool) (required : Bool) :
    Except LoadError Settings :=
  (if required then load files path else loadOrDefault files path).map fun c =>
    { c.settings with dryRun := dryRun.getD c.settings.dryRun }

end ClusterPilot.Config
