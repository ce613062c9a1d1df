/-
Requests, and what is done and printed for them. A request is turned into a plan: its project, its
region, its options and its main file are looked at in this order, and the first that is wrong ends
it before anything is run. Then one plan is performed, and what came of it is printed.

A failed tool is reported where the answer would have been; all other errors go to the channel of
errors.

A specification of an option is a key and a value with `=` between them, or a key alone; blanks
around the key do not count, and a value may hold what it likes. Later specifications of a key
replace earlier ones where those stand.
-/
import ClusterPilot.CommandLine.Report
import ClusterPilot.Command
import ClusterPilot.Failure
import ClusterPilot.Operation.Basic
import ClusterPilot.Text.Basic

namespace ClusterPilot.CommandLine

open Tool (Plan Runner)

/-! ## Options -/

/-- The entry that a specification sets. -/
def parseOption (spec : String) : Except Misuse (String × Option String) :=
  let (key, value) := Text.cut '=' spec.toList
  let key := Text.trim key
  if key.isEmpty then .error (.badOption spec)
  else .ok (String.ofList key, some (String.ofList (value.getD [])))

/-- The options that specifications set, or the first specification without a key. -/
def parseOptions (specs : List String) : Except Misuse OptionMap :=
  (specs.mapM parseOption).map .ofList

/-- A value that is given, or else the configured one; an empty text counts as none. -/
def resolve (given configured : Option String) (name : String) : Except Misuse String :=
  match nonEmpty? given with
  | some v => .ok v
  | none =>
    match nonEmpty? configured with
    | some v => .ok v
    | none => .error (.noValue name)

/-! ## Requests -/

/-- What a request asks for. -/
inductive Action where
  | create (name : String) (region : Option String) (options : List String)
  | delete (name : String) (region : Option String) (options : List String)
  | submit (kind : String) (file region : Option String) (options arguments : List String)
  | list (project region : Option String) (filters : List String)
  | master (cluster : String) (project region : Option String)
  | updateMetadata (node key value : String) (options : List String)
  deriving DecidableEq, Repr

/-- A request: what it asks for, where the configuration is, and whether the command is only to be
printed. -/
structure Request where
  action : Action
  config : String := Config.defaultPath
  dryRun : Bool := false
  deriving DecidableEq, Repr

/-- What is printed in the end, and the exit status. -/
structure Shown where
  text : String := ""
  status : Int := 0
  deriving DecidableEq, Repr

namespace Shown

/-- A tool that did what it should, or the line that tells that it did not. -/
def ofDone (complaint : String) (ok : Bool) : Shown :=
  if ok then {} else { text := errorLine complaint, status := 1 }

/-- The created cluster with its masters, or the tool's output when it failed. -/
def ofCreation (name : String) (c : Creation) : Except Failure Shown :=
  c.get.map fun
    | some cluster =>
      { text := line ("[INFO] Created " ++ cluster.name)
          ++ String.join (cluster.masters.map fun m => line ("  master: " ++ m)) }
    | none =>
      { text := errorLine ("Failed to create cluster " ++ name)
          ++ (if c.output = "" then "" else line c.output), status := 1 }

/-- The state of a cluster as a list shows it: a question mark where nothing is said about it, and
a word for nothing where its name is left out. -/
def state (c : Cluster) : String :=
  match c.state with
  | some s => s.name.getD "None"
  | none => "?"

/-- The clusters and their states. -/
def ofClusters (cs : List Cluster) : Shown :=
  { text := line "Clusters:" ++ line (String.ofList (List.replicate 60 '-'))
      ++ (if cs.isEmpty then line "  No clusters found"
          else String.join (cs.map fun c => line ("  " ++ c.name ++ ": " ++ state c))) }

/-- The name of a machine. -/
def ofNode (node : Option String) : Shown := { text := (node.map line).getD "" }

end Shown

/-- The plan of an action. In a dry run nothing but the announcement is printed. -/
def Action.plan (s : Settings) : Action → Except Misuse (Plan Shown)
  | .create name region options => do
    let region ← resolve region s.region "region"
    let options ← parseOptions options
    pure ((Operation.createPlan s name region (some options)).andThen {} (Shown.ofCreation name))
  | .delete name region options => do
    let region ← resolve region s.region "region"
    let options ← parseOptions options
    pure ((Operation.deletePlan s name region (some options)).andThen {} fun ok =>
      .ok (Shown.ofDone ("Failed to delete cluster " ++ name) ok))
  | .submit kind file region options arguments => do
    let region ← resolve region s.region "region"
    let options ← parseOptions options
    let plan ← Operation.submitPlan s kind file region (some options) arguments
    pure (plan.andThen {} fun ok => .ok (Shown.ofDone (kind ++ " job failed") ok))
  | .list project region filters => do
    let project ← resolve project s.project "project"
    let region ← resolve region s.region "region"
    let filters ← parseOptions filters
    pure ((Operation.listPlan s project region (some filters)).andThen {} fun cs =>
      .ok (Shown.ofClusters cs))
  | .master cluster project region => do
    let project ← resolve project s.project "project"
    let region ← resolve region s.region "region"
    pure ((Operation.masterPlan s project region cluster).andThen {} fun node =>
      .ok (Shown.ofNode node))
  | .updateMetadata node key value options => do
    let options ← parseOptions options
    pure ((Operation.updateMetadataPlan s node (some options) key value).andThen {} fun ok =>
      .ok (Shown.ofDone ("Failed to update metadata on " ++ node) ok))

/-- The settings that a request is done under. A request can ask for a dry run and not against
one. -/
def Request.settings (files : Config.Files) (r : Request) : Except Config.LoadError Settings :=
  Config.loadSettings files (Config.normalizePath r.config) (if r.dryRun then some true else none)
    false

/-- Does what an action asks for. -/
def Action.run (s : Settings) (runner : Runner) (a : Action) : Report :=
  match a.plan s with
  | .error m => { stderr := errorLine m.message, ending := .ok 1 }
  | .ok plan =>
    let done := plan.perform s.mode runner
    match done.result with
    | .ok shown =>
      { stdout := done.announcements ++ shown.text, stderr := done.noteLines, runs := done.runs,
        ending := .ok shown.status }
    | .error f =>
      if f.isOperational then
        { stdout := done.announcements, stderr := done.noteLines ++ errorLine f.message,
          runs := done.runs, ending := .ok 1 }
      else
        { stdout := done.announcements, stderr := done.noteLines, runs := done.runs,
          ending := .error (.failure f) }

/-- Does what a request asks for. -/
def Request.run (files : Config.Files) (runner : Runner) (r : Request) : Report :=
  match r.settings files with
  | .error e => { ending := .error (.load e) }
  | .ok s => r.action.run s runner

end ClusterPilot.CommandLine
