/-
The operations on clusters as plans. Each one is a single run of the tool; what a caller's options
hold cannot replace the region, the project or the entry that the operation itself is about.

A caller's maps of options stand on a shelf, and an operation is told the place of one of them, or
that there is none. What the operation needs is set in a map of its own, which starts as a copy of
the caller's and stands after all others.
-/
import ClusterPilot.Cluster.Creation
import ClusterPilot.Cluster.Response
import ClusterPilot.Command
import ClusterPilot.Config.Basic
import ClusterPilot.Tool.Plan

namespace ClusterPilot.Operation

open Tool (Exit Plan)

/-- The word that asks for a response in JSON. -/
def formatJson : String := Command.option "format" (some "json")

/-- The kinds of jobs whose main file is a word of the command. -/
def fileJobs : List String := ["pyspark"]

/-- The words of a command under some settings. -/
def command (s : Settings) (subcommand : List String) (options : OptionMap)
    (arguments : List String) : List String :=
  Command.words s.command s.account subcommand options arguments

/-- The name that a caller's own options go by. -/
def callerName : String := "options"

/-- A caller's options with others set on top by name, none of which may have the name that the
caller's own go by. -/
def setByName (caller : Option OptionMap) (needed : OptionMap) : Except Failure OptionMap :=
  if needed.keys.contains callerName then .error (.ambiguousName callerName)
  else .ok (.override caller needed.entries)

/-! ## Reading responses -/

/-- The value of a response, or the failure of a response with faults. -/
def ofChecked {α : Type} (what subject text : String) : Checked α → Except Failure α
  | .ok a => .ok a
  | .faulty f fs => .error (.ofFaults what subject text (f :: fs))

/-- The cluster that a response describes. -/
def readCluster (text : String) : Except Failure Cluster :=
  ofChecked "cluster response" "Cluster" text (Response.one text)

/-- The clusters that a response lists. -/
def readClusters (text : String) : Except Failure (List Cluster) :=
  ofChecked "cluster list response" "list[Cluster]" text (Response.many text)

/-- What the output of a run is read as when the run did what it should. -/
def ifOk {α : Type} (message : String) (command : List String) (read : String → Except Failure α)
    (e : Exit) : Except Failure α :=
  if e.ok then read e.output
  else .error (.unsuccessful message command (some e.status) e.output)

/-! ## The plans -/

/-- The outcome of a run that was to create a cluster. -/
def creation (e : Exit) : Creation :=
  if e.ok then
    match readCluster e.output with
    | .ok cluster => { status := .created, cluster := some cluster, output := e.output }
    | .error failure => { status := .unreadable, output := e.output, error := some failure }
  else { status := .unsuccessful, output := e.output }

/-- Creates a cluster. -/
def createPlan (s : Settings) (name region : String) (options : Option OptionMap) : Plan Creation :=
  let words := command s [formatJson, "dataproc", "clusters", "create", name]
    (.override options [("region", some region)]) []
  ⟨⟨words, true⟩, { status := .announced }, fun e => .ok (creation e)⟩

/-- Deletes a cluster without waiting for the end of it. -/
def deletePlan (s : Settings) (name region : String) (options : Option OptionMap) : Plan Bool :=
  .effect (command s ["dataproc", "clusters", "delete", name, Command.option "async" none]
    (.override options [("region", some region)]) [])

/-- Submits a job. Some kinds of jobs need a main file, and only those take one. -/
def submitPlan (s : Settings) (kind : String) (file : Option String) (region : String)
    (options : Option OptionMap) (arguments : List String) : Except Misuse (Plan Bool) := do
  let main ←
    if fileJobs.contains kind then
      match nonEmpty? file with
      | some f => pure [f]
      | none => throw (.noFile kind)
    else pure []
  pure (.effect (command s (["dataproc", "jobs", "submit", kind] ++ main)
    (.override options [("region", some region)]) arguments))

/-- The options that choose a project and a region. -/
def place (project region : String) : OptionMap :=
  .ofList [("project", some project), ("region", some region)]

/-- Lists the clusters that meet all filters. -/
def listPlan (s : Settings) (project region : String) (filters : Option OptionMap) :
    Plan (List Cluster) :=
  let filters := filters.getD .empty
  let options :=
    if filters.isEmpty then place project region
    else (place project region).insert "filter" (some (Command.filter filters))
  let words := command s ["dataproc", "clusters", "list", formatJson] options []
  ⟨⟨words, true⟩, [], ifOk "Failed to list clusters. gcloud call failed." words readClusters⟩

/-- The first master machine of a described cluster. -/
def firstMaster (name text : String) : Except Failure String := do
  let cluster ← readCluster text
  match cluster.masters with
  | node :: _ => pure node
  | [] =>
    throw (.unreadable ("Cluster " ++ Text.quoted name ++ " lists no master instances") text none)

/-- Looks up the first master machine of a cluster; a dry run finds none. -/
def masterPlan (s : Settings) (project region name : String) : Plan (Option String) :=
  let words := command s [formatJson, "dataproc", "clusters", "describe", name]
    (place project region) []
  ⟨⟨words, true⟩, none,
    ifOk "Failed to get master node name." words fun text => some <$> firstMaster name text⟩

/-- Sets an entry of a machine's metadata. -/
def updateMetadataPlan (s : Settings) (node : String) (options : Option OptionMap)
    (key value : String) : Plan Bool :=
  .effect (command s ["compute", "instances", "add-metadata", node]
    (.override options [("metadata", some (key ++ "=" ++ value))]) [])

/-- Finds a cluster by its name among all that are listed. -/
def findPlan (s : Settings) (project region name : String) : Plan (Option Cluster) :=
  (listPlan s project region none).map fun clusters => clusters.find? fun c => c.name = name

/-! ## The options that callers keep -/

/-- Maps that are kept; the place of a map is how many stand before it. -/
abbrev Shelf := List OptionMap

namespace Shelf

/-- The map whose place a caller tells. -/
def kept? (shelf : Shelf) (caller : Option Nat) : Option OptionMap := caller.bind (shelf[·]?)

/-- The shelf after an entry is set in the map at a place. -/
def put (shelf : Shelf) (place : Nat) (e : String × Option String) : Shelf :=
  shelf.modify place fun m => m.insert e.1 e.2

/-- Entries set by name on top of a caller's: the shelf afterwards, and the place of the map that
has them. -/
def setByName (shelf : Shelf) (caller : Option Nat) (needed : OptionMap) :
    Except Failure (Shelf × Nat) :=
  if needed.keys.contains callerName then .error (.ambiguousName callerName)
  else
    let own := shelf.length
    let copied := shelf ++ [(shelf.kept? caller).getD .empty]
    .ok (needed.entries.foldl (fun shelf e => shelf.put own e) copied, own)

end Shelf

end ClusterPilot.Operation
