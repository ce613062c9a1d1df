/-
The command line of the tool. It reads the configuration, lets the library decide what is done, and
prints what came of it. Commands are run on the modelled machine.
-/
import ClusterPilot.CommandLine.Arguments
import ClusterPilot.Host.Machine

namespace ClusterPilot.CommandLine

/-- What a path leads to. -/
def entryAt (path : String) : IO Config.Entry := do
  try
    return .file (← IO.FS.readBinFile path).toList
  catch e =>
    match e with
    | .noFileOrDirectory .. => return .missing
    | .inappropriateType .. => return .directory
    | _ => throw e

/-- Prints a report and gives the exit status. -/
def finish (r : Report) : IO UInt32 := do
  IO.print r.stdout
  IO.eprint r.stderr
  match r.ending with
  | .ok status => return UInt32.ofNat status.toNat
  | .error (.load e) =>
    IO.eprint (line (e.message?.getD "The configuration cannot be read"))
    return 1
  | .error (.failure f) =>
    IO.eprint (line f.message)
    return 1

end ClusterPilot.CommandLine

open ClusterPilot ClusterPilot.CommandLine

/-- Does what the words of the command line ask for. -/
def main (words : List String) : IO UInt32 := do
  match Request.ofWords words with
  | .error usage =>
    let actions := "|".intercalate (actionFields.map Prod.fst)
    IO.eprint (line ("usage: clusterpilot " ++ actions ++ " [options]"))
    return UInt32.ofNat usage.status.toNat
  | .ok request =>
    let entry ← entryAt (Config.normalizePath request.config)
    finish (request.run (fun _ => entry) Host.runner)
