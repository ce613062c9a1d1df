/-
What an action demands of its caller: a project, a region, a key in every specification, a main
file for a job that needs one. The demands are looked at in this order, and the first one that is
not met is told as an error before anything is run or printed. When all of them are met the action
has a plan: live it is exactly one run, and dry it is exactly the line that announces this run.
-/
import ClusterPilot.Proofs.CommandLine.Plans

namespace ClusterPilot.CommandLine

open Tool (Plan Run Runner)

/-! ## Demands -/

/-- Something that an action demands of its caller. -/
inductive Demand where
  /-- A value, given or configured. -/
  | value (given configured : Option String) (name : String)
  /-- A key in each specification. -/
  | keys (specs : List String)
  /-- A main file, for the kind of job that has one. -/
  | mainFile (kind : String) (file : Option String)

/-- There is no text, or an empty one. -/
def Lacking (value : Option String) : Prop := value = none ∨ value = some ""

instance (value : Option String) : Decidable (Lacking value) := inferInstanceAs (Decidable (_ ∨ _))

/-- A specification has no key when nothing but blanks stands before its first `=`. -/
def Keyless (spec : String) : Prop :=
  ∀ c ∈ spec.toList.takeWhile (· ≠ '='), Text.isBlank c = true

instance (spec : String) : Decidable (Keyless spec) := List.decidableBAll _ _

/-- What a caller got wrong about a demand. -/
def Demand.unmet? : Demand → Option Misuse
  | value given configured name =>
    if Lacking given ∧ Lacking configured then some (.noValue name) else none
  | keys specs => (specs.find? fun spec => Keyless spec).map .badOption
  | mainFile kind file => if kind = "pyspark" ∧ Lacking file then some (.noFile kind) else none

/-- The demands of an action, in the order in which they are looked at. -/
def Action.demands (s : Settings) : Action → List Demand
  | .create _ region specs => [.value region s.region "region", .keys specs]
  | .delete _ region specs => [.value region s.region "region", .keys specs]
  | .submit kind file region specs _ =>
    [.value region s.region "region", .keys specs, .mainFile kind file]
  | .list project region filters =>
    [.value project s.project "project", .value region s.region "region", .keys filters]
  | .master _ project region =>
    [.value project s.project "project", .value region s.region "region"]
  | .updateMetadata _ _ _ specs => [.keys specs]

/-- What the caller of an action got wrong first. -/
def Action.unmet? (s : Settings) (a : Action) : Option Misuse :=
  (a.demands s).findSome? Demand.unmet?

/-! ## What a step is refused for -/

section Refusals

variable {α β : Type}

/-- What a step is refused for. -/
def refusal? : Except Misuse α → Option Misuse
  | .ok _ => none
  | .error m => some m

/-- The first of two steps that is refused decides. -/
theorem refusal?_bind {r : Except Misuse α} {f : α → Except Misuse β} {rest : Option Misuse}
    (h : ∀ a, refusal? (f a) = rest) : refusal? (r >>= f) = (refusal? r).or rest := by
  cases r with
  | error m => rfl
  | ok a => exact h a

theorem refusal?_map (r : Except Misuse α) (f : α → β) : refusal? (r.map f) = refusal? r := by
  cases r <;> rfl

theorem refusal?_mapM (f : α → Except Misuse β) (as : List α) :
    refusal? (as.mapM f) = as.findSome? fun a => refusal? (f a) := by
  induction as with
  | nil => rfl
  | cons a as ih =>
    rw [List.mapM_cons, List.findSome?_cons]
    cases hf : f a with
    | error m => rfl
    | ok b =>
      -- the results that come before do not matter to what a later step is refused for
      have hrest : refusal? (as.mapM f >>= fun bs => pure (b :: bs)) =
          (refusal? (as.mapM f)).or none := refusal?_bind fun _ => rfl
      rw [Option.or_none, ih] at hrest
      exact hrest

theorem exists_of_refusal?_eq_none {r : Except Misuse α} (h : refusal? r = none) :
    ∃ a, r = .ok a := by
  cases r with
  | error m => cases h
  | ok a => exact ⟨a, rfl⟩

theorem eq_of_refusal?_eq_some {r : Except Misuse α} {m : Misuse} (h : refusal? r = some m) :
    r = .error m := by
  cases r with
  | error m' => cases h; rfl
  | ok a => cases h

end Refusals

/-! ## One demand -/

theorem refusal?_resolve (given configured : Option String) (name : String) :
    refusal? (resolve given configured name) = (Demand.value given configured name).unmet? := by
  unfold resolve Demand.unmet? Lacking
  simp only [← nonEmpty?_eq_none_iff]
  cases nonEmpty? given with
  | some v => rfl
  | none => cases nonEmpty? configured <;> rfl

theorem refusal?_parseOption (spec : String) :
    refusal? (parseOption spec) = if Keyless spec then some (.badOption spec) else none := by
  have hkey : Keyless spec ↔ (Text.trim (Text.cut '=' spec.toList).1).isEmpty = true := by
    rw [List.isEmpty_iff, Text.trim_eq_nil_iff, Text.cut_fst, Keyless]
  simp only [parseOption, hkey]
  split <;> rfl

theorem refusal?_parseOptions (specs : List String) :
    refusal? (parseOptions specs) = (Demand.keys specs).unmet? := by
  rw [parseOptions, refusal?_map, refusal?_mapM, Demand.unmet?]
  induction specs with
  | nil => rfl
  | cons spec specs ih =>
    rw [List.findSome?_cons, List.find?_cons, refusal?_parseOption]
    by_cases h : Keyless spec
    · rw [if_pos h, decide_eq_true h]
      rfl
    · rw [if_neg h, decide_eq_false h]
      exact ih

theorem refusal?_submitPlan (s : Settings) (kind : String) (file : Option String) (region : String)
    (options : Option OptionMap) (arguments : List String) :
    refusal? (Operation.submitPlan s kind file region options arguments) =
      (Demand.mainFile kind file).unmet? := by
  rw [Demand.unmet?]
  by_cases h : kind = "pyspark" ∧ Lacking file
  · rw [if_pos h]
    obtain ⟨rfl, hfile⟩ := h
    rw [Operation.submitPlan_of_no_file s region options arguments hfile]
    rfl
  · rw [if_neg h, Operation.submitPlan_of_file s region options arguments h]
    rfl

/-! ## All demands -/

theorem findSome?_unmet?_cons (d : Demand) (ds : List Demand) :
    (d :: ds).findSome? Demand.unmet? = d.unmet?.or (ds.findSome? Demand.unmet?) := by
  rw [List.findSome?_cons]
  cases d.unmet? <;> rfl

theorem refusal?_pure {α : Type} (a : α) :
    refusal? (pure a : Except Misuse α) = [].findSome? Demand.unmet? := rfl

/-- An action is refused for the first of its demands that is not met, and else it has a plan. -/
theorem refusal?_plan (s : Settings) (a : Action) : refusal? (a.plan s) = a.unmet? s := by
  unfold Action.unmet? Action.demands Action.plan
  cases a with
  | create name region specs =>
    simp only [findSome?_unmet?_cons, ← refusal?_resolve, ← refusal?_parseOptions]
    exact refusal?_bind fun _ => refusal?_bind fun _ => refusal?_pure _
  | delete name region specs =>
    simp only [findSome?_unmet?_cons, ← refusal?_resolve, ← refusal?_parseOptions]
    exact refusal?_bind fun _ => refusal?_bind fun _ => refusal?_pure _
  | submit kind file region specs arguments =>
    simp only [findSome?_unmet?_cons, ← refusal?_resolve, ← refusal?_parseOptions]
    refine refusal?_bind fun _ => refusal?_bind fun _ => ?_
    rw [← refusal?_submitPlan s kind file]
    exact refusal?_bind fun _ => refusal?_pure _
  | list project region filters =>
    simp only [findSome?_unmet?_cons, ← refusal?_resolve, ← refusal?_parseOptions]
    exact refusal?_bind fun _ => refusal?_bind fun _ => refusal?_bind fun _ => refusal?_pure _
  | master cluster project region =>
    simp only [findSome?_unmet?_cons, ← refusal?_resolve]
    exact refusal?_bind fun _ => refusal?_bind fun _ => refusal?_pure _
  | updateMetadata node key value specs =>
    simp only [findSome?_unmet?_cons, ← refusal?_parseOptions]
    exact refusal?_bind fun _ => refusal?_pure _

theorem plan_of_unmet {s : Settings} {a : Action} {m : Misuse} (h : a.unmet? s = some m) :
    a.plan s = .error m :=
  eq_of_refusal?_eq_some ((refusal?_plan s a).trans h)

theorem exists_plan_of_met {s : Settings} {a : Action} (h : a.unmet? s = none) :
    ∃ p, a.plan s = .ok p :=
  exists_of_refusal?_eq_none ((refusal?_plan s a).trans h)

/-- A request whose demands are not all met is the report of the first one that is not; any other
is one run, or the line that announces the run that it would be. -/
theorem request_checked_first {files : Config.Files} {r : Request} {s : Settings}
    (hs : r.settings files = .ok s) (runner : Runner) :
    (∀ m, r.action.unmet? s = some m →
      r.run files runner = { stderr := "[ERROR] " ++ m.message ++ "\n", ending := .ok 1 }) ∧
    (r.action.unmet? s = none → ∃ run : Run,
      (∀ runner', (r.action.run { s with dryRun := false } runner').runs = [run]) ∧
      (s.dryRun = false → (r.run files runner).runs = [run]) ∧
      (s.dryRun = true → r.run files runner =
        { stdout := " ".intercalate run.command ++ "\n", ending := .ok 0 })) := by
  have hrun : r.run files runner = r.action.run s runner := by rw [Request.run, hs]
  rw [hrun]
  constructor
  · intro m hm
    exact run_of_refused (plan_of_unmet hm) runner
  · intro hnone
    obtain ⟨p, hp⟩ := exists_plan_of_met hnone
    refine ⟨p.run, fun runner' => ?_, fun live => runs_of_plan live hp runner,
      fun dry => run_dry hp runner dry⟩
    exact runs_of_plan rfl ((plan_dryRun s false r.action).trans hp) runner'

/-- A job in a configured region, with a blank key among its specifications and without its main
file: the key is what is told. -/
theorem request_checked_first_job :
    let files : Config.Files := fun _ => .file "driver: \x7bdefault_region: eu\x7d".toUTF8.toList
    let r : Request := { action := .submit "pyspark" none (some "") ["a=b", " =x", "=y"] [] }
    let s : Settings := { region := some "eu" }
    r.settings files = .ok s ∧ r.action.unmet? s = some (.badOption " =x") ∧
      r.run files (Tool.Stub.exits 0 "").runner =
        { stderr := "[ERROR] Invalid option spec: ' =x'\n", ending := .ok 1 } := by
  intro files r s
  have hs : r.settings files = .ok s := by decide +kernel
  have hunmet : r.action.unmet? s = some (.badOption " =x") := by decide +kernel
  refine ⟨hs, hunmet, ?_⟩
  rw [(request_checked_first hs (Tool.Stub.exits 0 "").runner).1 _ hunmet]
  rfl

end ClusterPilot.CommandLine
