/-
The plans of all operations. An operation either has a plan or is one that a caller got wrong, and
which of the two it is depends on the operation alone, never on the settings. Whether its output is
wanted, and what stands for its reply in a dry run, are fixed by the kind of the operation; the mode
has no say in the plan.
-/
import ClusterPilot.Operation.Basic

namespace ClusterPilot.Operation

open Tool (Plan Runner)

/-! ## What an operation is by its kind -/

/-- What the caller of an operation got wrong: a job of a kind that needs a main file has none. -/
def misuse? : Operation → Option Misuse
  | submit kind file .. =>
    if kind = "pyspark" ∧ (file = none ∨ file = some "") then some (.noFile kind) else none
  | _ => none

/-- The words of a job's main file: only some kinds of jobs take one. -/
def mainWords (kind : String) (file : Option String) : List String :=
  if kind = "pyspark" then [file.getD ""] else []

/-- Whether an operation reads the output of its run. -/
def captures : Operation → Bool
  | create .. | list .. | master .. | find .. => true
  | delete .. | submit .. | updateMetadata .. => false

/-- The reply to an operation that is only announced. -/
def standIn : Operation → Reply
  | create .. => .creation { status := .announced }
  | delete .. | submit .. | updateMetadata .. => .done true
  | list .. => .clusters []
  | master .. => .node none
  | find .. => .cluster none

/-! ## The plan of an operation -/

theorem command_ne_nil (s : Settings) (subcommand : List String) (options : OptionMap)
    (arguments : List String) : command s subcommand options arguments ≠ [] := by
  unfold command Command.words
  exact List.cons_ne_nil _ _

theorem submitPlan_of_file (s : Settings) {kind : String} {file : Option String}
    (region : String) (options : Option OptionMap) (arguments : List String)
    (h : ¬ (kind = "pyspark" ∧ (file = none ∨ file = some ""))) :
    submitPlan s kind file region options arguments =
      .ok (.effect (command s (["dataproc", "jobs", "submit", kind] ++ mainWords kind file)
        (.override options [("region", some region)]) arguments)) := by
  unfold submitPlan mainWords
  by_cases hk : kind = "pyspark"
  · rw [if_pos (by rw [hk]; decide), if_pos hk]
    cases file with
    | none => exact absurd ⟨hk, .inl rfl⟩ h
    | some f =>
      have hf : f ≠ "" := fun hf => h ⟨hk, .inr (by rw [hf])⟩
      simp only [nonEmpty?, if_neg hf]
      rfl
  · rw [if_neg (by simpa [fileJobs] using hk), if_neg hk]
    rfl

theorem submitPlan_of_no_file (s : Settings) {file : Option String} (region : String)
    (options : Option OptionMap) (arguments : List String) (h : file = none ∨ file = some "") :
    submitPlan s "pyspark" file region options arguments = .error (.noFile "pyspark") := by
  unfold submitPlan
  rcases h with rfl | rfl <;> rfl

/-- What a caller got wrong is told instead of a plan. -/
theorem plan_of_misuse (s : Settings) {op : Operation} {m : Misuse} (h : op.misuse? = some m) :
    op.plan s = .error m := by
  cases op with
  | submit kind file region options arguments =>
    rw [misuse?] at h
    split at h
    · rename_i hf
      obtain ⟨rfl, hf⟩ := hf
      cases h
      rw [plan, submitPlan_of_no_file s region options arguments hf]
      rfl
    · cases h
  | _ => cases h

theorem perform_of_misuse (s : Settings) (runner : Runner) {op : Operation} {m : Misuse}
    (h : op.misuse? = some m) :
    op.perform s runner = { result := .error (.misuse m.message) } := by
  unfold perform
  rw [plan_of_misuse s h]
  rfl

theorem perform_of_plan {s : Settings} {op : Operation} {p : Plan Reply} (h : op.plan s = .ok p)
    (runner : Runner) : op.perform s runner = p.perform s.mode runner := by
  unfold perform
  rw [h]

/-- What all plans of an operation have in common. -/
structure IsPlan (op : Operation) (p : Plan Reply) : Prop where
  capture : p.run.capture = op.captures
  standIn : p.standIn = op.standIn
  command : p.run.command ≠ []

theorem exists_plan (s : Settings) {op : Operation} (h : op.misuse? = none) :
    ∃ p, op.plan s = .ok p ∧ IsPlan op p := by
  cases op with
  | submit kind file region options arguments =>
    rw [misuse?] at h
    split at h
    · cases h
    · rename_i hf
      rw [plan, submitPlan_of_file s region options arguments hf]
      exact ⟨_, rfl, rfl, rfl, command_ne_nil s _ _ _⟩
  | _ => exact ⟨_, rfl, rfl, rfl, command_ne_nil s _ _ _⟩

/-- Every command starts with the one that the settings name. -/
theorem head_of_plan {s : Settings} {op : Operation} {p : Plan Reply} (hp : op.plan s = .ok p) :
    p.run.command.headD "" = s.command := by
  cases op with
  | submit kind file region options arguments =>
    by_cases h : kind = "pyspark" ∧ (file = none ∨ file = some "")
    · obtain ⟨rfl, hfile⟩ := h
      rw [plan, submitPlan_of_no_file s region options arguments hfile] at hp
      cases hp
    · rw [plan, submitPlan_of_file s region options arguments h] at hp
      cases hp
      rfl
  | _ => cases hp; rfl

/-- The plan does not depend on the mode. -/
theorem plan_mode (s : Settings) (dryRun verbose : Bool) (op : Operation) :
    op.plan { s with dryRun := dryRun, verbose := verbose } = op.plan s := by
  cases op <;> rfl

end ClusterPilot.Operation
