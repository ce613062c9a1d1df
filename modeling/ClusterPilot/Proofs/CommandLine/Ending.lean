/-
How command lines end. Nothing escapes but an error of loading the configuration. In every other
case the exit status is 0 or 1, and a live action ends with 0 exactly when the tool was started,
ended well, and gave an output that the action can use. What ends with 1 is reported once: in place
of the answer when a tool failed that was to change something, and on the channel of errors, with
no answer at all, in every other case.
-/
import ClusterPilot.Proofs.CommandLine.Demands
import ClusterPilot.Proofs.Operation.Outcome

namespace ClusterPilot.CommandLine

open Tool (Exit Plan Run Runner Stub)

/-! ## What a tool answers -/

/-- The output that an action can use. -/
def Action.Uses : Action → String → Prop
  | .create .., output => ∃ c, Operation.readCluster output = .ok c
  | .list .., output => ∃ cs, Operation.readClusters output = .ok cs
  | .master .., output => ∃ c, Operation.readCluster output = .ok c ∧ c.masters ≠ []
  | .delete .., _ | .submit .., _ | .updateMetadata .., _ => True

/-- The report of a failed tool, for the actions that make it where their answer would stand. -/
def Action.complaint? (a : Action) (output : String) : Option String :=
  match a with
  | .create name .. => some (errorLine ("Failed to create cluster " ++ name) ++
      if output = "" then "" else line output)
  | .delete name .. => some (errorLine ("Failed to delete cluster " ++ name))
  | .submit kind .. => some (errorLine (kind ++ " job failed"))
  | .updateMetadata node .. => some (errorLine ("Failed to update metadata on " ++ node))
  | .list .. | .master .. => none

/-- What an ended run makes of an action. -/
inductive Verdict (a : Action) (e : Exit) : Except Failure Shown → Prop
  /-- The answer is shown. -/
  | good (text : String) (status : e.status = 0) (used : a.Uses e.output) :
    Verdict a e (.ok ⟨text, 0⟩)
  /-- That the tool failed is told in place of the answer. -/
  | bad (text : String) (status : e.status ≠ 0) (told : a.complaint? e.output = some text) :
    Verdict a e (.ok ⟨text, 1⟩)
  /-- All other failures are errors of the operations. -/
  | failed (f : Failure) (operational : f.isOperational = true)
    (unused : e.status = 0 → ¬ a.Uses e.output)
    (untold : e.status ≠ 0 → a.complaint? e.output = none) : Verdict a e (.error f)

theorem isOperational_of_unreadable {f : Failure} {text : String}
    (h : ∃ message faults, f = .unreadable message text faults) : f.isOperational = true := by
  obtain ⟨message, faults, rfl⟩ := h
  rfl

/-- A command run for its effect shows nothing, or that the tool failed. -/
theorem verdict_done {a : Action} {e : Exit} {complaint : String} (hused : a.Uses e.output)
    (htold : a.complaint? e.output = some (errorLine complaint)) :
    Verdict a e (.ok (Shown.ofDone complaint e.ok)) := by
  unfold Shown.ofDone
  by_cases he : e.status = 0
  · rw [if_pos ((Operation.ok_iff e).2 he)]
    exact .good _ he hused
  · rw [if_neg (mt (Operation.ok_iff e).1 he)]
    exact .bad _ he htold

theorem verdict_creation (name : String) (region : Option String) (specs : List String) (e : Exit) :
    Verdict (.create name region specs) e (Shown.ofCreation name (Operation.creation e)) := by
  unfold Operation.creation
  by_cases he : e.status = 0
  · rw [if_pos ((Operation.ok_iff e).2 he)]
    cases hr : Operation.readCluster e.output with
    | ok c => exact .good _ he ⟨c, hr⟩
    | error f =>
      refine .failed f (isOperational_of_unreadable (Operation.unreadable_of_readCluster hr)) ?_
        (absurd he)
      rintro - ⟨c, hc⟩
      rw [hr] at hc
      cases hc
  · rw [if_neg (mt (Operation.ok_iff e).1 he)]
    exact .bad _ he rfl

/-- An answer that is read when the tool did what it should. -/
theorem verdict_ifOk {α : Type} {a : Action} {e : Exit} {message : String} {command : List String}
    {read : String → Except Failure α} (text : α → String)
    (hused : a.Uses e.output ↔ ∃ x, read e.output = .ok x)
    (hunused : ∀ f, read e.output = .error f → f.isOperational = true)
    (htold : a.complaint? e.output = none) :
    Verdict a e (Operation.ifOk message command read e >>= fun x => .ok ⟨text x, 0⟩) := by
  unfold Operation.ifOk
  by_cases he : e.status = 0
  · rw [if_pos ((Operation.ok_iff e).2 he)]
    cases hr : read e.output with
    | ok x => exact .good _ he (hused.2 ⟨x, hr⟩)
    | error f =>
      refine .failed f (hunused f hr) ?_ (absurd he)
      intro _ h
      obtain ⟨x, hx⟩ := hused.1 h
      rw [hr] at hx
      cases hx
  · rw [if_neg (mt (Operation.ok_iff e).1 he)]
    exact .failed _ rfl (fun h => absurd h he) fun _ => htold

theorem uses_master_iff (name : String) (project region : Option String) (output : String) :
    (Action.master name project region).Uses output ↔
      ∃ node, some <$> Operation.firstMaster name output = .ok node := by
  constructor
  · rintro ⟨c, hc, hne⟩
    obtain ⟨node, others, hm⟩ := List.exists_cons_of_ne_nil hne
    have hn := (Operation.firstMaster_ok_iff name output node).2 ⟨c, others, hc, hm⟩
    exact ⟨some node, (Operation.some_map_ok_iff _ _).2 ⟨node, hn, rfl⟩⟩
  · rintro ⟨node, h⟩
    obtain ⟨n, hn, -⟩ := (Operation.some_map_ok_iff _ _).1 h
    obtain ⟨c, others, hc, hm⟩ := (Operation.firstMaster_ok_iff name output n).1 hn
    exact ⟨c, hc, by rw [hm]; exact List.cons_ne_nil _ _⟩

theorem verdict_master (name : String) (project region : Option String) (message : String)
    (command : List String) (e : Exit) :
    Verdict (.master name project region) e
      (Operation.ifOk message command (fun text => some <$> Operation.firstMaster name text) e >>=
        fun node => .ok (Shown.ofNode node)) := by
  refine verdict_ifOk (fun node => (Shown.ofNode node).text) (uses_master_iff _ _ _ _) ?_ rfl
  intro f hf
  have hf := (Operation.some_map_error_iff _ f).1 hf
  exact isOperational_of_unreadable (Operation.unreadable_of_firstMaster hf)

theorem verdict_of_plan {s : Settings} {a : Action} {p : Plan Shown} (hp : a.plan s = .ok p)
    (e : Exit) : Verdict a e (p.read e) := by
  cases planned_of_plan hp with
  | create region => exact verdict_creation _ region _ e
  | delete => exact verdict_done trivial rfl
  | submit => exact verdict_done trivial rfl
  | list =>
    exact verdict_ifOk (fun cs => (Shown.ofClusters cs).text) Iff.rfl
      (fun f hf => isOperational_of_unreadable (Operation.unreadable_of_readClusters hf)) rfl
  | master =>
    exact verdict_master _ _ _ _ _ e
  | updateMetadata => exact verdict_done trivial rfl

/-! ## What is left behind -/

/-- What a live action comes to by the answer to its run; `notes` are the lines for the person who
watches it. -/
structure Ends (a : Action) (answer : Stub) (notes : String) (report : Report) : Prop where
  status : report.ending = .ok 0 ∨ report.ending = .ok 1
  success : report.ending = .ok 0 ↔ ∃ output, answer = .exits 0 output ∧ a.Uses output
  /-- What did not fail is not reported. -/
  quiet : report.ending = .ok 0 → report.stderr = notes
  /-- A failed tool is reported where the answer would stand. -/
  complaint : ∀ status output text, answer = .exits status output → status ≠ 0 →
    a.complaint? output = some text → report.stdout = text ∧ report.stderr = notes
  /-- All else that failed is reported on the channel of errors alone. -/
  error : report.ending = .ok 1 →
    (∀ status output, answer = .exits status output → status ≠ 0 → a.complaint? output = none) →
    report.stdout = "" ∧ ∃ message, report.stderr = notes ++ errorLine message
  notStarted : ∀ message, answer = .doesNotStart message →
    report.stdout = "" ∧ report.stderr = notes ++ errorLine message

/-- Output that is not delivered does not matter to the action. -/
theorem Planned.delivered {s : Settings} {a : Action} {p : Plan Shown} (h : Planned s a p)
    (output : String) :
    (a.Uses (if p.run.capture then output else "") ↔ a.Uses output) ∧
      a.complaint? (if p.run.capture then output else "") = a.complaint? output := by
  cases h <;> exact ⟨Iff.rfl, rfl⟩

theorem ends_of_notStarted {s : Settings} (live : s.dryRun = false) {a : Action} {p : Plan Shown}
    (hp : a.plan s = .ok p) {runner : Runner} {message : String} {command : List String}
    (hr : runner p.run = .error (.notStarted message command)) :
    Ends a (.doesNotStart message) (watched s runner p.run) (a.run s runner) := by
  have hreport : a.run s runner =
      { stderr := watched s runner p.run ++ errorLine message, runs := [p.run],
        ending := .ok 1 } := by
    rw [run_live hp runner live, hr]
    rfl
  rw [hreport]
  refine ⟨.inr rfl, by simp, by simp, by simp, ?_, ?_⟩
  · exact fun _ _ => ⟨rfl, message, rfl⟩
  · rintro _ ⟨⟩
    exact ⟨rfl, rfl⟩

theorem ends_of_exits {s : Settings} (live : s.dryRun = false) {a : Action} {p : Plan Shown}
    (hp : a.plan s = .ok p) {runner : Runner} {status : Int} {output : String}
    (hr : runner p.run = .ok ⟨status, if p.run.capture then output else ""⟩) :
    Ends a (.exits status output) (watched s runner p.run) (a.run s runner) := by
  have hreport := run_live hp runner live
  obtain ⟨huses, hcomplaint⟩ := (planned_of_plan hp).delivered output
  have hverdict := verdict_of_plan hp ⟨status, if p.run.capture then output else ""⟩
  rw [hr] at hreport
  simp only [bind, Except.bind] at hreport
  generalize hresult : p.read ⟨status, if p.run.capture then output else ""⟩ = result at *
  cases hverdict with
  | good text hstatus hused =>
    simp only at hstatus hused
    simp only [hreport]
    refine ⟨.inl rfl, ?_, fun _ => rfl, ?_, by simp, by simp⟩
    · exact ⟨fun _ => ⟨output, by rw [hstatus], huses.1 hused⟩, fun _ => rfl⟩
    · rintro _ _ _ ⟨⟩ hne
      exact absurd hstatus hne
  | bad text hstatus htold =>
    simp only [hcomplaint] at hstatus htold
    simp only [hreport]
    refine ⟨.inr rfl, ?_, by simp, ?_, ?_, by simp⟩
    · constructor
      · simp
      · rintro ⟨_, ⟨⟩, -⟩
        exact absurd rfl hstatus
    · rintro _ _ text' ⟨⟩ - htext
      rw [htold] at htext
      exact ⟨Option.some.inj htext, rfl⟩
    · intro _ hnone
      have hnone := hnone status output rfl hstatus
      rw [htold] at hnone
      cases hnone
  | failed f hop hunused huntold =>
    simp only [hcomplaint] at hunused huntold
    simp only [hreport, if_pos hop]
    refine ⟨.inr rfl, ?_, by simp, ?_, fun _ _ => ⟨rfl, f.message, rfl⟩, by simp⟩
    · constructor
      · simp
      · rintro ⟨_, ⟨⟩, hused⟩
        exact absurd (huses.2 hused) (hunused rfl)
    · rintro _ _ _ ⟨⟩ hne htext
      rw [huntold hne] at htext
      cases htext

/-- The answer to the run of a live action tells how it ends. -/
theorem ends_run {s : Settings} (live : s.dryRun = false) {a : Action} {p : Plan Shown}
    (hp : a.plan s = .ok p) (tool : Run → Stub) :
    Ends a (tool p.run) (watched s (fun run => (tool run).runner run) p.run)
      (a.run s fun run => (tool run).runner run) := by
  cases h : tool p.run with
  | exits status output => exact ends_of_exits live hp (by simp only [h]; rfl)
  | doesNotStart message => exact ends_of_notStarted live hp (by simp only [h]; rfl)

/-- How a request ends, whatever the configuration holds and however the tool answers. -/
theorem request_ends (files : Config.Files) (tool : Run → Stub) (r : Request) :
    let runner : Runner := fun run => (tool run).runner run
    let report := r.run files runner
    (∀ e, r.settings files = .error e → report = { ending := .error (.load e) }) ∧
    ∀ s, r.settings files = .ok s →
      (report.ending = .ok 0 ∨ report.ending = .ok 1) ∧
      (∀ m, r.action.unmet? s = some m →
        report = { stderr := errorLine m.message, ending := .ok 1 }) ∧
      (r.action.unmet? s = none → s.dryRun = true →
        report.ending = .ok 0 ∧ report.stderr = "" ∧ report.runs = []) ∧
      (r.action.unmet? s = none → s.dryRun = false → ∃ run, report.runs = [run] ∧
        Ends r.action (tool run) (watched s runner run) report) := by
  intro runner report
  constructor
  · intro e he
    simp only [report, Request.run, he]
  · intro s hs
    have hreport : report = r.action.run s runner := by simp only [report, Request.run, hs]
    rw [hreport]
    cases hunmet : r.action.unmet? s with
    | some m =>
      have hrun := run_of_refused (plan_of_unmet hunmet) runner
      rw [hrun]
      refine ⟨.inr rfl, ?_, by simp, by simp⟩
      rintro _ ⟨⟩
      rfl
    | none =>
      obtain ⟨p, hp⟩ := exists_plan_of_met hunmet
      cases hdry : s.dryRun with
      | true =>
        rw [run_dry hp runner hdry]
        exact ⟨.inl rfl, by simp, fun _ _ => ⟨rfl, rfl, rfl⟩, by simp⟩
      | false =>
        have hends := ends_run hdry hp tool
        refine ⟨hends.status, by simp, by simp, fun _ _ => ⟨p.run, ?_, hends⟩⟩
        exact runs_of_plan hdry hp runner

end ClusterPilot.CommandLine
