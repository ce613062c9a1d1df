/-
Laws of performing plans and of sessions. A dry run starts nothing and announces its command; a live
run is started once, announces nothing, and gives what its plan reads from the answer, or the
failure to start it, and being verbose adds notes and nothing else. Two sessions of the same calls
belong together step by step as soon as their single steps do, however their tools answer; when they
also run the same, one tool gives both the same answers.
-/
import ClusterPilot.Tool.Plan

namespace ClusterPilot.Tool

/-! ## One plan -/

/-- The notes of a live run: the echo of it, and a warning when it ended otherwise than it should.
-/
def Mode.notes (mode : Mode) (run : Run) (answer : Except Failure Exit) : List Note :=
  if mode.verbose then
    .echo run.command ::
      match answer with
      | .ok e => if e.status = success then [] else [.warning (run.command.headD "") e.status]
      | .error _ => []
  else []

namespace Plan

variable {α : Type}

theorem perform_dry (plan : Plan α) {mode : Mode} (h : mode.dryRun = true) (runner : Runner) :
    plan.perform mode runner =
      { announced := [announcement plan.run.command], result := .ok plan.standIn } := by
  rw [perform, if_pos h]

/-- A live plan is one run, whatever the answer. -/
theorem perform_live_trace (plan : Plan α) {mode : Mode} (h : mode.dryRun = false)
    (runner : Runner) :
    (plan.perform mode runner).runs = [plan.run] ∧ (plan.perform mode runner).announced = [] := by
  rw [perform, if_neg (by rw [h]; decide)]
  cases runner plan.run with
  | error failure => exact ⟨rfl, rfl⟩
  | ok e =>
    simp only
    cases mode.after plan.run e with
    | error failure => exact ⟨rfl, rfl⟩
    | ok warning => exact ⟨rfl, rfl⟩

/-- Noting a failure takes a first word, and a command has one. -/
theorem exists_after (mode : Mode) {run : Run} (h : run.command ≠ []) (e : Exit) :
    ∃ notes, mode.after run e = .ok notes := by
  unfold Mode.after
  split
  · exact ⟨[], rfl⟩
  · cases hc : run.command with
    | nil => exact absurd hc h
    | cons executable words => exact ⟨[.warning executable e.status], rfl⟩

theorem perform_live_error (plan : Plan α) {mode : Mode} (h : mode.dryRun = false)
    {runner : Runner} {failure : Failure} (hr : runner plan.run = .error failure) :
    (plan.perform mode runner).result = .error failure := by
  rw [perform, if_neg (by rw [h]; decide), hr]

theorem perform_live_ok (plan : Plan α) {mode : Mode} (h : mode.dryRun = false)
    (hc : plan.run.command ≠ []) {runner : Runner} {e : Exit} (hr : runner plan.run = .ok e) :
    (plan.perform mode runner).result = plan.read e := by
  obtain ⟨notes, hn⟩ := exists_after mode hc e
  rw [perform, if_neg (by rw [h]; decide), hr]
  simp only [hn]

theorem before_append_after (mode : Mode) {run : Run} (h : run.command ≠ []) (e : Exit) :
    (mode.after run e).map (mode.before run ++ ·) = .ok (mode.notes run (.ok e)) := by
  obtain ⟨executable, words, hc⟩ := List.exists_cons_of_ne_nil h
  unfold Mode.after Mode.before Mode.notes Exit.ok
  rw [hc]
  cases mode.verbose with
  | false => simp [Except.map]
  | true => by_cases he : e.status = success <;> simp [he, Except.map]

/-- All that a live plan does and gives. -/
theorem perform_live (plan : Plan α) {mode : Mode} (h : mode.dryRun = false)
    (hc : plan.run.command ≠ []) (runner : Runner) :
    plan.perform mode runner =
      { runs := [plan.run], notes := mode.notes plan.run (runner plan.run),
        result := runner plan.run >>= plan.read } := by
  rw [perform, if_neg (by rw [h]; decide)]
  cases hr : runner plan.run with
  | error failure => rfl
  | ok e =>
    have hnotes := before_append_after mode hc e
    obtain ⟨notes, hn⟩ := exists_after mode hc e
    rw [hn] at hnotes
    simp only [hn]
    rw [← Except.ok.inj hnotes]
    rfl

/-- Being verbose adds notes to a live run and nothing else. -/
theorem perform_verbose (plan : Plan α) (dryRun : Bool) (hc : plan.run.command ≠ [])
    (runner : Runner) :
    plan.perform ⟨dryRun, true⟩ runner =
      { plan.perform ⟨dryRun, false⟩ runner with
        notes := if dryRun then [] else Mode.notes ⟨false, true⟩ plan.run (runner plan.run) } := by
  cases dryRun with
  | true => rfl
  | false => rw [perform_live plan rfl hc, perform_live plan rfl hc, if_neg (by decide)]

theorem notes_perform_quiet (plan : Plan α) (dryRun : Bool) (hc : plan.run.command ≠ [])
    (runner : Runner) : (plan.perform ⟨dryRun, false⟩ runner).notes = [] := by
  cases dryRun with
  | true => rfl
  | false =>
    rw [perform_live plan rfl hc]
    rfl

end Plan

/-! ## Many calls -/

section

variable {ι α β : Type}

theorem length_session (perform : ι → Runner → Performed α) (tool : Service) (past : List Run)
    (calls : List ι) : (session perform tool past calls).length = calls.length := by
  induction calls generalizing past with
  | nil => rfl
  | cons call calls ih => rw [session, List.length_cons, ih, List.length_cons]

/-- A session goes on from all that was run before. -/
theorem session_append (perform : ι → Runner → Performed α) (tool : Service) (past : List Run)
    (calls calls' : List ι) :
    session perform tool past (calls ++ calls') =
      session perform tool past calls ++
        session perform tool (past ++ (session perform tool past calls).flatMap Performed.runs)
          calls' := by
  induction calls generalizing past with
  | nil => rw [List.nil_append, session, List.flatMap_nil, List.append_nil, List.nil_append]
  | cons call calls ih =>
    simp only [List.cons_append, session, ih, List.flatMap_cons, List.append_assoc]

/-- Two sessions of the same calls, each step of the one with the same step of the other. -/
inductive InStep (R : ι → Performed α → Performed β → Prop) :
    List ι → List (Performed α) → List (Performed β) → Prop
  | nil : InStep R [] [] []
  | cons {call calls p ps q qs} (head : R call p q) (tail : InStep R calls ps qs) :
    InStep R (call :: calls) (p :: ps) (q :: qs)

/-- What every two steps that belong together tell of the first one holds of all first ones. -/
theorem InStep.forall_mem_left {R : ι → Performed α → Performed β → Prop} {P : Performed α → Prop}
    (hP : ∀ call p q, R call p q → P p) {calls : List ι} {ps : List (Performed α)}
    {qs : List (Performed β)} (h : InStep R calls ps qs) : ∀ p ∈ ps, P p := by
  induction h with
  | nil => exact fun p hp => absurd hp List.not_mem_nil
  | cons head _ ih =>
    intro p hp
    rcases List.mem_cons.1 hp with rfl | hp
    · exact hP _ _ _ head
    · exact ih p hp

theorem inStep_session {R : ι → Performed α → Performed β → Prop}
    {perform : ι → Runner → Performed α} {perform' : ι → Runner → Performed β}
    (hstep : ∀ call runner runner', R call (perform call runner) (perform' call runner'))
    (tool tool' : Service) (calls : List ι) (past past' : List Run) :
    InStep R calls (session perform tool past calls) (session perform' tool' past' calls) := by
  induction calls generalizing past past' with
  | nil => exact .nil
  | cons call calls ih => exact .cons (hstep call _ _) (ih _ _)

/-- Two sessions of the same calls on one tool, which both give the same runs in every step: each
step of the one with the same step of the other and with what answers both. -/
inductive InStepOn (R : ι → Runner → Performed α → Performed β → Prop) (tool : Service) :
    List Run → List ι → List (Performed α) → List (Performed β) → Prop
  | nil {past} : InStepOn R tool past [] [] []
  | cons {past call calls p ps q qs} (head : R call (tool past) p q) (runs : q.runs = p.runs)
    (tail : InStepOn R tool (past ++ p.runs) calls ps qs) :
    InStepOn R tool past (call :: calls) (p :: ps) (q :: qs)

/-- Calls that run the same are answered the same, so their sessions stay together. -/
theorem inStepOn_session {R : ι → Runner → Performed α → Performed β → Prop}
    {perform : ι → Runner → Performed α} {perform' : ι → Runner → Performed β}
    (hstep : ∀ call runner, R call runner (perform call runner) (perform' call runner))
    (hruns : ∀ call runner, (perform' call runner).runs = (perform call runner).runs)
    (tool : Service) (calls : List ι) (past : List Run) :
    InStepOn R tool past calls (session perform tool past calls)
      (session perform' tool past calls) := by
  induction calls generalizing past with
  | nil => exact .nil
  | cons call calls ih =>
    refine .cons (hstep call _) (hruns call _) ?_
    rw [hruns call]
    exact ih _

end

end ClusterPilot.Tool
