/-
Dry requests. A request is dry when its own switch or the configuration says so; the switch cannot
take back what the configuration says. A dry request starts nothing, and it can be told from its
live twin, the same request with neither saying so: where the twin is refused before its run, both
are refused with the same words, and everywhere else the dry one prints the command of the twin's
run, on one line, and nothing besides. A live request prints no such line.
-/
import ClusterPilot.Proofs.CommandLine.Demands

namespace ClusterPilot.CommandLine

open Tool (Plan Run Runner)

/-! ## Who asks for a dry run -/

/-- The configuration with its own wish for a dry run taken back. -/
def liveConfig (c : Config) : Config := { c with settings := { c.settings with dryRun := false } }

/-- The request without its own wish for a dry run. -/
def Request.unswitched (r : Request) : Request := { r with dryRun := false }

/-- What is asked for in the request or in the configuration is asked for. -/
theorem settings_eq (files : Config.Files) (r : Request) :
    r.settings files = (Config.loadOrDefault files (Config.normalizePath r.config)).map fun c =>
      { c.settings with dryRun := r.dryRun || c.settings.dryRun } := by
  unfold Request.settings Config.loadSettings
  cases r.dryRun <;> rfl

theorem run_of_config_error {files : Config.Files} {r : Request} {e : Config.LoadError}
    (h : Config.loadOrDefault files (Config.normalizePath r.config) = .error e) (runner : Runner) :
    r.run files runner = { ending := .error (.load e) } := by
  rw [Request.run, settings_eq, h]
  rfl

theorem run_of_config {files : Config.Files} {r : Request} {c : Config}
    (h : Config.loadOrDefault files (Config.normalizePath r.config) = .ok c) (runner : Runner) :
    r.run files runner =
      r.action.run { c.settings with dryRun := r.dryRun || c.settings.dryRun } runner := by
  rw [Request.run, settings_eq, h]
  rfl

/-! ## A dry action and its live twin -/

/-- The report of a dry action, by what its live twin reports for each runner. -/
inductive DryReport (live : Runner → Report) : Report → Prop
  /-- What a caller got wrong is told in the same words, before anything is run. -/
  | refused (m : Misuse)
      (twin : ∀ runner, live runner = { stderr := errorLine m.message, ending := .ok 1 }) :
    DryReport live { stderr := errorLine m.message, ending := .ok 1 }
  /-- The command of the one run of the twin is the one line that is printed. -/
  | announced (run : Run) (twin : ∀ runner, (live runner).runs = [run]) :
    DryReport live { stdout := " ".intercalate run.command ++ "\n", ending := .ok 0 }

theorem DryReport.runs {live : Runner → Report} {report : Report} (h : DryReport live report) :
    report.runs = [] := by
  cases h <;> rfl

theorem dryReport_run {s : Settings} (dry : s.dryRun = true) (a : Action) (runner : Runner) :
    DryReport (fun runner' => a.run { s with dryRun := false } runner') (a.run s runner) := by
  have hplan : a.plan { s with dryRun := false } = a.plan s := plan_dryRun s false a
  cases hp : a.plan s with
  | error m =>
    rw [run_of_refused hp runner]
    exact .refused m fun runner' => run_of_refused (hplan.trans hp) runner'
  | ok p =>
    rw [run_dry hp runner dry]
    exact .announced p.run fun runner' => runs_of_plan rfl (hplan.trans hp) runner'

/-! ## A live action -/

/-- What an action shows of the answer to its run. -/
def Action.shown (s : Settings) (runner : Runner) (a : Action) : String :=
  match a.plan s with
  | .error _ => ""
  | .ok p =>
    match runner p.run >>= p.read with
    | .ok shown => shown.text
    | .error _ => ""

/-- The commands that an action announces. -/
def Action.announced (s : Settings) (runner : Runner) (a : Action) : List String :=
  match a.plan s with
  | .error _ => []
  | .ok p => (p.perform s.mode runner).announced

/-- A live action announces nothing, and prints what it shows. -/
theorem announced_and_stdout_live {s : Settings} (live : s.dryRun = false) (a : Action)
    (runner : Runner) :
    a.announced s runner = [] ∧ (a.run s runner).stdout = a.shown s runner := by
  unfold Action.announced Action.shown
  cases hp : a.plan s with
  | error m =>
    rw [run_of_refused hp runner]
    exact ⟨rfl, rfl⟩
  | ok p =>
    refine ⟨(p.perform_live_trace (show s.mode.dryRun = false from live) runner).2, ?_⟩
    rw [run_live hp runner live]
    simp only
    cases runner p.run >>= p.read with
    | ok shown => rfl
    | error f =>
      simp only
      split <;> rfl

/-! ## Requests -/

/-- How a request that is dry, for whatever reason, belongs to its live twin, and that no other
request announces anything. -/
theorem request_dry (files : Config.Files) (runner : Runner) (r : Request) :
    let loaded := Config.loadOrDefault files (Config.normalizePath r.config)
    (∀ e, loaded = .error e →
      r.run files runner = { ending := .error (.load e) } ∧
      ∀ runner', r.unswitched.run files runner' = { ending := .error (.load e) }) ∧
    ∀ c, loaded = .ok c →
      let live : Runner → Report := r.action.run (liveConfig c).settings
      (∀ files', Config.loadOrDefault files' (Config.normalizePath r.config) = .ok (liveConfig c) →
        ∀ runner', r.unswitched.run files' runner' = live runner') ∧
      (r.dryRun = true ∨ c.settings.dryRun = true →
        (r.run files runner).runs = [] ∧ DryReport live (r.run files runner)) ∧
      (r.dryRun = false → c.settings.dryRun = false →
        r.run files runner = live runner ∧
        r.action.announced c.settings runner = [] ∧
        (r.run files runner).stdout = r.action.shown c.settings runner) := by
  intro loaded
  constructor
  · intro e he
    exact ⟨run_of_config_error he runner,
      fun runner' => run_of_config_error (r := r.unswitched) he runner'⟩
  · intro c hc live
    refine ⟨fun files' hc' runner' => run_of_config (r := r.unswitched) hc' runner', ?_, ?_⟩
    · intro hdry
      have hon : (r.dryRun || c.settings.dryRun) = true := by rwa [Bool.or_eq_true]
      rw [run_of_config hc runner, hon]
      have hreport := dryReport_run (s := { c.settings with dryRun := true }) rfl r.action runner
      exact ⟨hreport.runs, hreport⟩
    · intro hr hs
      -- settings that are live already are not changed by taking the wish back
      have hsame : { c.settings with dryRun := false } = c.settings := by rw [← hs]
      rw [run_of_config hc runner, hr, hs, Bool.or_false, hsame]
      refine ⟨?_, announced_and_stdout_live hs r.action runner⟩
      show _ = r.action.run { c.settings with dryRun := false } runner
      rw [hsame]

end ClusterPilot.CommandLine
