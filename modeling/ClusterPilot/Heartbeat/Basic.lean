/-
The heartbeat of a cluster: its first master machine is looked up, and the time is written into the
metadata of that machine. The second step is taken only when the first one found a machine.
-/
import ClusterPilot.CommandLine.Report
import ClusterPilot.Operation.Basic

namespace ClusterPilot

open CommandLine (Escape Report Usage errorLine line)
open Tool (Runner)

/-- A call for a heartbeat. -/
structure Heartbeat where
  cluster : String
  config : Option String := none
  project : Option String := none
  region : Option String := none
  zone : Option String := none
  dryRun : Bool := false
  deriving DecidableEq, Repr

namespace Heartbeat

/-- The entry that holds the time. -/
def key : String := "heartbeat"

/-- The whole seconds that a clock shows; a part of a second does not count, neither after zero nor
before it. -/
def seconds (clock : Rat) : Int := clock.num.tdiv clock.den

/-- The zone of the machine: the one given, or the usual one of the region. -/
def zoneIn (h : Heartbeat) (region : String) : String := (nonEmpty? h.zone).getD (region ++ "-b")

/-- The machine that a dry run takes for the first master. -/
def presumedMaster (h : Heartbeat) : String := h.cluster ++ "-m"

/-- Both steps. `runners` answers the runs by their number, and `now` is the time in seconds. -/
def beat (h : Heartbeat) (s : Settings) (project region : String) (runners : Nat → Runner)
    (now : Int) : Report :=
  let first := (Operation.masterPlan s project region h.cluster).perform s.mode (runners 0)
  match first.result with
  | .error f =>
    { stdout := first.announcements, stderr := first.noteLines, runs := first.runs,
      ending := .error (.failure f) }
  | .ok node =>
    let node := node.getD h.presumedMaster
    let zone : OptionMap := .ofList [("zone", some (h.zoneIn region))]
    let second := (Operation.updateMetadataPlan s node (some zone) key (toString now)).perform s.mode
      (runners 1)
    let stdout := first.announcements ++ line ("Master node: " ++ node) ++ second.announcements
    let stderr := first.noteLines ++ second.noteLines
    let runs := first.runs ++ second.runs
    match second.result with
    | .error f => { stdout, stderr, runs, ending := .error (.failure f) }
    | .ok true => { stdout, stderr, runs, ending := .ok 0 }
    | .ok false =>
      { stdout := stdout ++ errorLine ("Failed to update metadata on " ++ node), stderr, runs,
        ending := .ok 1 }

/-- Does what a call asks for. The configuration has to be there, and a project and a region have to
be given or configured. -/
def run (h : Heartbeat) (files : Config.Files) (environment : Option String)
    (runners : Nat → Runner) (now : Int) : Except Usage Report :=
  let path := Config.location h.config environment
  match Config.loadSettings files path (if h.dryRun then some true else none) true with
  | .error e => .ok { ending := .error (.load e) }
  | .ok s =>
    match nonEmpty? h.project <|> nonEmpty? s.project, nonEmpty? h.region <|> nonEmpty? s.region with
    | some project, some region => .ok (h.beat s project region runners now)
    | _, _ => .error .refused

end Heartbeat

end ClusterPilot
