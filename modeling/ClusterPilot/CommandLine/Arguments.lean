/-
From the words of a command line to a request. The first value names the action; after it, options
come in any order. An option takes one value, or all values up to the next option; given again, it
starts anew. Words that belong nowhere are noticed at the end, so help asked for after them is
still given; an option without its value is noticed at once.
-/
import ClusterPilot.CommandLine.Request
import ClusterPilot.CommandLine.Word

namespace ClusterPilot.CommandLine

/-- What an option takes. -/
inductive FieldKind where
  /-- One text. -/
  | text
  /-- One text, or a word for none. -/
  | nullable
  /-- Any number of texts. -/
  | many
  deriving DecidableEq, Repr

/-- An option of an action. -/
structure Field where
  name : String
  kind : FieldKind
  deriving DecidableEq, Repr

/-- The options of every action, apart from the switches. -/
def actionFields : List (String × List Field) := [
  ("create", [⟨"name", .text⟩, ⟨"region", .nullable⟩, ⟨"options", .many⟩, ⟨"config", .text⟩]),
  ("delete", [⟨"name", .text⟩, ⟨"region", .nullable⟩, ⟨"options", .many⟩, ⟨"config", .text⟩]),
  ("submit", [⟨"job-type", .text⟩, ⟨"file", .nullable⟩, ⟨"region", .nullable⟩, ⟨"options", .many⟩,
    ⟨"job-args", .many⟩, ⟨"config", .text⟩]),
  ("list", [⟨"project", .nullable⟩, ⟨"region", .nullable⟩, ⟨"filters", .many⟩, ⟨"config", .text⟩]),
  ("master", [⟨"cluster", .text⟩, ⟨"project", .nullable⟩, ⟨"region", .nullable⟩,
    ⟨"config", .text⟩]),
  ("update-metadata", [⟨"node", .text⟩, ⟨"key", .text⟩, ⟨"value", .text⟩, ⟨"options", .many⟩,
    ⟨"config", .text⟩])]

/-- The switch that asks for a dry run. -/
def dryRunName : String := "--dry-run"

/-- The switch that takes it back. -/
def liveName : String := "--no-dry-run"

/-- Options read so far. -/
structure Draft where
  /-- The values of the options. -/
  values : List (String × List String) := []
  dryRun : Bool := false
  /-- The option that the next value belongs to. -/
  taking : Option Field := none
  /-- Whether all words that follow are values. -/
  stopped : Bool := false
  /-- Whether a word belonged nowhere. -/
  stray : Bool := false

namespace Draft

/-- Whether an option still waits for the value that it has to have. -/
def waits (d : Draft) : Bool := d.taking.any fun f => f.kind ≠ .many

/-- The draft after a value. -/
def value (d : Draft) (v : String) : Draft :=
  match d.taking with
  | none => { d with stray := true }
  | some f =>
    if f.kind = .many then
      { d with values := setEntry f.name ((d.values.lookup f.name).getD [] ++ [v]) d.values }
    else { d with values := setEntry f.name [v] d.values, taking := none }

/-- The draft after an option, with the value attached to it if there is one. -/
def option (fields : List Field) (d : Draft) (name : String) (attached : Option String) :
    Except Usage Draft :=
  match fields.find? fun f => "--" ++ f.name = name, attached with
  | some f, some v => .ok { d with values := setEntry f.name [v] d.values, taking := none }
  | some f, none =>
    if f.kind = .many then
      .ok { d with values := setEntry f.name [] d.values, taking := some f }
    else .ok { d with taking := some f }
  | none, some _ => .error .refused
  | none, none =>
    if helpNames.contains name then .error .help
    else .ok { d with dryRun := name = dryRunName, taking := none }

/-- The names of all options of an action. -/
def names (fields : List Field) : List String :=
  fields.map (fun f => "--" ++ f.name) ++ [dryRunName, liveName] ++ helpNames

/-- The draft after one more word. -/
def step (fields : List Field) (d : Draft) (w : String) : Except Usage Draft :=
  if d.stopped then .ok d
  else match Word.ofString (names fields) false w with
    | .value => .ok (d.value w)
    | other =>
      if d.waits then .error .refused
      else match other with
        | .option name attached => d.option fields name attached
        | .stop => .ok { d with stopped := true, stray := true }
        | _ => .ok { d with stray := true, taking := none }

/-- The value of an option that has to be given. -/
def required (d : Draft) (name : String) : Except Usage String :=
  match d.values.lookup name with
  | some [v] => .ok v
  | _ => .error .refused

/-- The value of an option that may be missing or none. -/
def nullable (d : Draft) (name : String) : Option String :=
  match d.values.lookup name with
  | some [v] => if v = "None" then none else some v
  | _ => none

/-- The values of an option. -/
def many (d : Draft) (name : String) : List String := (d.values.lookup name).getD []

/-- The action that options make up. -/
def action (d : Draft) (name : String) : Except Usage Action :=
  match name with
  | "create" => do
    pure (.create (← d.required "name") (d.nullable "region") (d.many "options"))
  | "delete" => do
    pure (.delete (← d.required "name") (d.nullable "region") (d.many "options"))
  | "submit" => do
    pure (.submit (← d.required "job-type") (d.nullable "file") (d.nullable "region")
      (d.many "options") (d.many "job-args"))
  | "list" => .ok (.list (d.nullable "project") (d.nullable "region") (d.many "filters"))
  | "master" => do
    pure (.master (← d.required "cluster") (d.nullable "project") (d.nullable "region"))
  | "update-metadata" => do
    pure (.updateMetadata (← d.required "node") (← d.required "key") (← d.required "value")
      (d.many "options"))
  | _ => .error .refused

/-- The request that options make up. -/
def request (d : Draft) (name : String) : Except Usage Request :=
  if d.waits ∨ d.stray then .error .refused
  else do
    let config := match d.values.lookup "config" with
      | some [path] => path
      | _ => Config.defaultPath
    pure ⟨← d.action name, config, d.dryRun⟩

end Draft

/-- A name with dashes where underscores may be written for them. -/
def dashed (cs : List Char) : List Char := cs.map fun c => if c = '_' then '-' else c

/-- A word with the name of its option spelled with dashes. -/
def respell (w : String) : String :=
  let cs := w.toList
  if ['-', '-'].isPrefixOf cs then
    let name := cs.takeWhile (· ≠ '=')
    String.ofList (dashed name ++ cs.drop name.length)
  else w

/-- The name of the action, the words after it, and whether a word before it belonged nowhere. -/
def findAction (stray : Bool) : List String → Except Usage (String × List String × Bool)
  | [] => .error .refused
  | w :: ws =>
    match Word.ofString helpNames false w with
    | .value => .ok (String.ofList (dashed w.toList), ws, stray)
    | .option _ none => .error .help
    | .unknown => findAction true ws
    | _ => .error .refused

/-- The request that a command line makes. -/
def Request.ofWords (words : List String) : Except Usage Request := do
  let (name, rest, stray) ← findAction false (words.map respell)
  match actionFields.lookup name with
  | none => throw .refused
  | some fields => (← rest.foldlM (Draft.step fields) { stray }).request name

/-- What a command line leaves behind. -/
def answer (words : List String) (files : Config.Files) (runner : Tool.Runner) :
    Except Usage Report :=
  (Request.ofWords words).map fun r => r.run files runner

end ClusterPilot.CommandLine
