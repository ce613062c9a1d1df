/-
The settings of the tool, and how they are checked. Every setting has a default and is checked by
itself: what another setting holds, and what stands under keys that name no setting, never matters.
-/
import ClusterPilot.Config.Data
import ClusterPilot.Fault
import ClusterPilot.Text.Utf8

namespace ClusterPilot

/-- How the cluster tool is called. -/
structure Settings where
  /-- The executable. -/
  command : String := "gcloud"
  /-- The account to act for. -/
  account : Option String := none
  /-- Commands are printed and not run. -/
  dryRun : Bool := false
  /-- Commands are echoed before they are run. -/
  verbose : Bool := false
  /-- The region when none is given. -/
  region : Option String := none
  /-- The project when none is given. -/
  project : Option String := none
  deriving DecidableEq, Repr, Inhabited

/-- A whole configuration. -/
structure Config where
  version : String := "1.0"
  settings : Settings := {}
  deriving DecidableEq, Repr, Inhabited

namespace Config

/-! ## Values of settings -/

/-- A text; bytes count when they are UTF-8. -/
def text : Data → Checked String
  | .text s => .ok s
  | .bytes bs =>
    match Text.Utf8.decode? bs with
    | some cs => .ok (String.ofList cs)
    | none => .fault .notUnicode
  | _ => .fault .notText

/-- A text or nothing. -/
def textOrNull : Data → Checked (Option String)
  | .null => .ok none
  | d => (text d).map some

/-- The texts for true, in lower case. -/
def trueWords : List String := ["1", "on", "t", "true", "y", "yes"]

/-- The texts for false, in lower case. -/
def falseWords : List String := ["0", "off", "f", "false", "n", "no"]

/-- The boolean that a word is, in whatever case. -/
def boolOfWord (s : String) : Checked Bool :=
  let word := String.ofList (s.toList.map Char.toLower)
  if trueWords.contains word then .ok true
  else if falseWords.contains word then .ok false
  else .fault .unreadableBoolean

/-- The integers of 64 bits lie between this number and its negative, which is one of them. -/
def maxSize : Int := 9223372036854775808

/-- The boolean that an integer of 64 bits is. -/
def boolOfInt (n : Int) : Checked Bool :=
  if n = 0 then .ok false
  else if n = 1 then .ok true
  else if -maxSize ≤ n ∧ n < maxSize then .fault .unreadableBoolean
  else .fault .notBoolean

/-- A boolean, or a word, an integer or a number that stands for one. -/
def bool : Data → Checked Bool
  | .bool b => .ok b
  | .integer n => boolOfInt n
  | .number x =>
    match x.toInt? with
    | some n => boolOfInt n
    | none => .fault .notBoolean
  | .text s => boolOfWord s
  | .bytes bs =>
    match Text.Utf8.decode? bs with
    | some cs => boolOfWord (String.ofList cs)
    | none => .fault .unreadableBoolean
  | _ => .fault .notBoolean

/-! ## Records -/

/-- A setting: the default when it is missing. -/
def setting {α : Type} (name : String) (value : α) (read : Data → Checked α)
    (entries : List (Data × Data)) : Checked α :=
  match Data.find? name entries with
  | some d => (read d).within (.key name)
  | none => .ok value

/-- A record read from the entries of a mapping. -/
def record {α : Type} (read : List (Data × Data) → Checked α) : Data → Checked α
  | .mapping entries => read entries
  | _ => .fault .notRecord

/-- The settings in the entries of a mapping. -/
def readSettings (entries : List (Data × Data)) : Checked Settings :=
  let default : Settings := {}
  Settings.mk
    <$> setting "base_command" default.command text entries
    <*> setting "account" default.account textOrNull entries
    <*> setting "dry_run" default.dryRun bool entries
    <*> setting "verbose" default.verbose bool entries
    <*> setting "default_region" default.region textOrNull entries
    <*> setting "default_project" default.project textOrNull entries

/-- The configuration in the entries of a mapping. -/
def readConfig (entries : List (Data × Data)) : Checked Config :=
  let default : Config := {}
  Config.mk
    <$> setting "version" default.version text entries
    <*> setting "driver" default.settings (record readSettings) entries

/-- The settings that a piece of data holds. -/
def settingsOf (d : Data) : Checked Settings := record readSettings d

/-- The configuration that a piece of data holds. -/
def ofData (d : Data) : Checked Config := record readConfig d

end Config

end ClusterPilot
