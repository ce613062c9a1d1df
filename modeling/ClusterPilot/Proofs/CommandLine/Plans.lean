/-
The plans of actions, and what performing them leaves behind. Every plan names an executable, prints
nothing of its own in a dry run, and does not depend on whether the run is dry. So a dry action
leaves the line that announces its command and nothing else, and a live one leaves what its plan
makes of the answer to its one run.
-/
import ClusterPilot.Proofs.CommandLine.Invocation

namespace ClusterPilot.CommandLine

open Tool (Exit Plan Run Runner)

/-! ## What a plan can be -/

/-- The plans that an action can have. -/
inductive Planned (s : Settings) : Action → Plan Shown → Prop
  | create {name specs options} (given : Option String) (region : String) :
    Planned s (.create name given specs)
      ((Operation.createPlan s name region options).andThen {} (Shown.ofCreation name))
  | delete {name specs options} (given : Option String) (region : String) :
    Planned s (.delete name given specs) ((Operation.deletePlan s name region options).andThen {}
      fun ok => .ok (Shown.ofDone ("Failed to delete cluster " ++ name) ok))
  | submit {kind file given specs arguments} (words : List String) (command : words ≠ []) :
    Planned s (.submit kind file given specs arguments) ((Plan.effect words).andThen {}
      fun ok => .ok (Shown.ofDone (kind ++ " job failed") ok))
  | list {givenProject givenRegion specs filters} (project region : String) :
    Planned s (.list givenProject givenRegion specs)
      ((Operation.listPlan s project region filters).andThen {} fun cs => .ok (Shown.ofClusters cs))
  | master {cluster givenProject givenRegion} (project region : String) :
    Planned s (.master cluster givenProject givenRegion)
      ((Operation.masterPlan s project region cluster).andThen {} fun n => .ok (Shown.ofNode n))
  | updateMetadata {node key value specs} (options : Option OptionMap) :
    Planned s (.updateMetadata node key value specs)
      ((Operation.updateMetadataPlan s node options key value).andThen {}
        fun ok => .ok (Shown.ofDone ("Failed to update metadata on " ++ node) ok))

/-- A job is run for its effect. -/
theorem submitPlan_effect {s : Settings} {kind : String} {file : Option String} {region : String}
    {options : Option OptionMap} {arguments : List String} {p : Plan Bool}
    (h : Operation.submitPlan s kind file region options arguments = .ok p) :
    ∃ words, words ≠ [] ∧ p = .effect words := by
  by_cases hfile : kind = "pyspark" ∧ (file = none ∨ file = some "")
  · obtain ⟨rfl, hfile⟩ := hfile
    rw [Operation.submitPlan_of_no_file s region options arguments hfile] at h
    cases h
  · rw [Operation.submitPlan_of_file s region options arguments hfile] at h
    cases h
    exact ⟨_, Operation.command_ne_nil s _ _ _, rfl⟩

theorem planned_of_plan {s : Settings} {a : Action} {p : Plan Shown} (hp : a.plan s = .ok p) :
    Planned s a p := by
  cases a with
  | create name region specs =>
    obtain ⟨options, -, hp⟩ := resolve_parse_ok hp
    cases hp
    exact .create region _
  | delete name region specs =>
    obtain ⟨options, -, hp⟩ := resolve_parse_ok hp
    cases hp
    exact .delete region _
  | submit kind file region specs arguments =>
    obtain ⟨options, -, hp⟩ := resolve_parse_ok hp
    obtain ⟨job, hjob, hp⟩ := bind_ok hp
    cases hp
    obtain ⟨words, hwords, rfl⟩ := submitPlan_effect hjob
    exact .submit words hwords
  | list project region filters =>
    obtain ⟨project, -, hp⟩ := bind_ok hp
    obtain ⟨options, -, hp⟩ := resolve_parse_ok hp
    cases hp
    exact .list project _
  | master cluster project region =>
    obtain ⟨project, -, hp⟩ := bind_ok hp
    obtain ⟨region, -, hp⟩ := bind_ok hp
    cases hp
    exact .master project region
  | updateMetadata node key value specs =>
    obtain ⟨options, -, hp⟩ := bind_ok hp
    cases hp
    exact .updateMetadata options

theorem Planned.standIn {s : Settings} {a : Action} {p : Plan Shown} (h : Planned s a p) :
    p.standIn = {} := by
  cases h <;> rfl

theorem Planned.command {s : Settings} {a : Action} {p : Plan Shown} (h : Planned s a p) :
    p.run.command ≠ [] := by
  cases h with
  | submit words hwords => exact hwords
  | create | delete | list | master | updateMetadata => exact Operation.command_ne_nil s _ _ _

/-- The plan does not depend on whether it is carried out. -/
theorem plan_dryRun (s : Settings) (dryRun : Bool) (a : Action) :
    a.plan { s with dryRun := dryRun } = a.plan s := by
  cases a <;> rfl

/-! ## What is left behind -/

theorem run_of_refused {s : Settings} {a : Action} {m : Misuse} (h : a.plan s = .error m)
    (runner : Runner) : a.run s runner = { stderr := errorLine m.message, ending := .ok 1 } := by
  rw [Action.run, h]

/-- The lines for the person who watches a live run. -/
def watched (s : Settings) (runner : Runner) (run : Run) : String :=
  String.join ((s.mode.notes run (runner run)).map Tool.Note.line)

section Planned

variable {s : Settings} {a : Action} {p : Plan Shown} (hp : a.plan s = .ok p) (runner : Runner)

include hp

theorem run_dry (dry : s.dryRun = true) :
    a.run s runner = { stdout := line (" ".intercalate p.run.command), ending := .ok 0 } := by
  rw [Action.run, hp]
  simp only [p.perform_dry (show s.mode.dryRun = true from dry) runner, (planned_of_plan hp).standIn]
  simp [Tool.Performed.announcements, Tool.Performed.noteLines, Tool.announcement, line]

/-- How the plan reads the answer to the run tells what a live action leaves behind. -/
theorem run_live (live : s.dryRun = false) :
    a.run s runner =
      match runner p.run >>= p.read with
      | .ok shown =>
        { stdout := shown.text, stderr := watched s runner p.run, runs := [p.run],
          ending := .ok shown.status }
      | .error f =>
        if f.isOperational then
          { stderr := watched s runner p.run ++ errorLine f.message, runs := [p.run],
            ending := .ok 1 }
        else
          { stderr := watched s runner p.run, runs := [p.run],
            ending := .error (.failure f) } := by
  rw [Action.run, hp]
  simp only [p.perform_live (show s.mode.dryRun = false from live) (planned_of_plan hp).command]
  cases runner p.run >>= p.read <;>
    simp [Tool.Performed.announcements, Tool.Performed.noteLines, watched]

end Planned

end ClusterPilot.CommandLine
