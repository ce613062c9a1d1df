/-
From the words of a command line to a call for a heartbeat, and to what it leaves behind. There is
one value, the cluster, and options may be shortened as long as it is clear which one is meant. A
lone `--` may stand directly before or after the cluster; what follows it is no option.
-/
import ClusterPilot.CommandLine.Word
import ClusterPilot.Heartbeat.Basic

namespace ClusterPilot.Heartbeat

open CommandLine (Usage Word)

/-- A call that is being read. -/
structure Draft where
  cluster : Option String := none
  call : Heartbeat := { cluster := "" }
  /-- The option that waits for its value. -/
  waiting : Option String := none
  /-- Whether all words that follow are values. -/
  stopped : Bool := false
  /-- Whether the word before was the cluster. -/
  atCluster : Bool := false
  /-- Whether a word belonged nowhere. -/
  stray : Bool := false

namespace Draft

/-- The options. -/
def names : List String :=
  ["--config", "--project", "--region", "--zone", "--dry-run", "--help", "-h"]

/-- What a word is. Letters run together are options by themselves, and help is the first one. -/
def word (w : String) : Word :=
  match Word.ofString names true w, w.toList with
  | .option o v, _ => .option o v
  | .ambiguous, _ => .ambiguous
  | .stop, _ => .stop
  | _, '-' :: 'h' :: rest =>
    .option "-h" (if rest.head? = some '-' then some (String.ofList rest) else none)
  | other, _ => other

/-- The draft with the value of an option. -/
def set (d : Draft) (name v : String) : Draft :=
  let call := match name with
    | "--config" => { d.call with config := some v }
    | "--project" => { d.call with project := some v }
    | "--region" => { d.call with region := some v }
    | "--zone" => { d.call with zone := some v }
    | _ => d.call
  { d with call, waiting := none, atCluster := false }

/-- The draft after a value. -/
def value (d : Draft) (v : String) : Draft :=
  match d.waiting, d.cluster with
  | some name, _ => d.set name v
  | none, none => { d with cluster := some v, atCluster := true }
  | none, some _ => { d with stray := true, atCluster := false }

/-- The draft after an option, with the value attached to it if there is one. -/
def option (d : Draft) (name : String) (attached : Option String) : Except Usage Draft :=
  if CommandLine.helpNames.contains name then
    .error (if attached.isNone then .help else .refused)
  else if name = "--dry-run" then
    if attached.isNone then .ok { d with call := { d.call with dryRun := true }, atCluster := false }
    else .error .refused
  else match attached with
    | some v => .ok (d.set name v)
    | none => .ok { d with waiting := some name, atCluster := false }

/-- The draft after one more word. -/
def step (d : Draft) (w : String) : Except Usage Draft :=
  match if d.stopped then .value else word w with
  | .value => .ok (d.value w)
  | other =>
    if d.waiting.isSome then .error .refused
    else match other with
      | .option name attached => d.option name attached
      | .stop =>
        let misplaced := d.cluster.isSome && !d.atCluster
        .ok { d with stopped := true, stray := d.stray || misplaced, atCluster := false }
      | _ => .ok { d with stray := true, atCluster := false }

/-- The call that was read. -/
def finish (d : Draft) : Except Usage Heartbeat :=
  match d.cluster with
  | some cluster =>
    if d.waiting.isSome ∨ d.stray then .error .refused else .ok { d.call with cluster }
  | none => .error .refused

end Draft

/-- The call that a command line makes. A word that may mean several options is noticed before
anything else. -/
def ofWords (words : List String) : Except Usage Heartbeat :=
  let options := words.takeWhile (· ≠ "--")
  if options.any fun w => Draft.word w = .ambiguous then .error .refused
  else words.foldlM Draft.step {} >>= Draft.finish

/-- What a command line for a heartbeat leaves behind, at the time that a clock shows. -/
def answer (words : List String) (files : Config.Files) (environment : Option String)
    (runners : Nat → Tool.Runner) (clock : Rat) : Except Usage CommandLine.Report := do
  (← ofWords words).run files environment runners (seconds clock)

end ClusterPilot.Heartbeat
