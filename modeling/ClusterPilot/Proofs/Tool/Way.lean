/-
The ways to have a command performed: for its effect, for how it ends, or for its output. A tool
that heeds the commands that it is given, and not whether their output is wanted, is used alike in
all three. So in a session the way of a call may be replaced: the step of that call runs the same
command, announces and writes the same, and gives the same failure or the same success, and every
other step stays as it is. What output is delivered is the same for all ways that deliver any.
-/
import ClusterPilot.Host.Machine
import ClusterPilot.Proofs.Tool.Session

namespace ClusterPilot.Tool

/-! ## Calls -/

/-- What a command is performed for. -/
inductive Way where
  | effect
  | outcome
  | output
  deriving DecidableEq, Repr

/-- Whether the output of the command is wanted. -/
def Way.captures : Way → Bool
  | effect => false
  | outcome | output => true

/-- A command, and what it is performed for. -/
structure Call where
  way : Way
  command : List String
  deriving DecidableEq, Repr

/-- What a call gives. -/
inductive Delivered where
  | effect (ok : Bool)
  | outcome (e : Exit)
  | output (ok : Bool) (text : String)
  deriving DecidableEq, Repr

namespace Delivered

/-- Whether the command did what it should. -/
def ok : Delivered → Bool
  | effect ok | output ok _ => ok
  | outcome e => e.ok

/-- The output of the command, when it is delivered. -/
def text? : Delivered → Option String
  | effect _ => none
  | outcome e => some e.output
  | output _ text => some text

end Delivered

namespace Call

/-- The plan of a call. -/
def plan : Call → Plan Delivered
  | ⟨.effect, command⟩ => (Plan.effect command).map .effect
  | ⟨.outcome, command⟩ => (Plan.outcome command).map .outcome
  | ⟨.output, command⟩ => (Plan.output command).map fun r => .output r.1 r.2

/-- Performs a call. -/
def perform (mode : Mode) (call : Call) (runner : Runner) : Performed Delivered :=
  call.plan.perform mode runner

theorem run_plan (call : Call) : call.plan.run = ⟨call.command, call.way.captures⟩ := by
  obtain ⟨way, command⟩ := call
  cases way <;> rfl

theorem standIn_plan (call : Call) :
    call.plan.standIn.ok = true ∧
      (call.way.captures = true → call.plan.standIn.text? = some "") := by
  obtain ⟨way, command⟩ := call
  cases way with
  | effect => exact ⟨rfl, nofun⟩
  | outcome | output => exact ⟨rfl, fun _ => rfl⟩

/-- A call gives something however its run ends. -/
theorem read_plan (call : Call) (e : Exit) :
    ∃ d, call.plan.read e = .ok d ∧ d.ok = e.ok ∧
      (call.way.captures = true → d.text? = some e.output) := by
  obtain ⟨way, command⟩ := call
  cases way with
  | effect => exact ⟨_, rfl, rfl, nofun⟩
  | outcome | output => exact ⟨_, rfl, rfl, fun _ => rfl⟩

end Call

/-! ## Tools that heed commands alone -/

/-- How a tool answers commands: by the ones that it was given so far and the one that it is given
now. -/
abbrev Answers := List (List String) → List String → Except Failure Exit

/-- The tool that answers so. Output that nobody asked for is not delivered. -/
def Answers.service (answers : Answers) : Service := fun past run =>
  (answers (past.map Run.command) run.command).map fun e =>
    { e with output := if run.capture then e.output else "" }

theorem Answers.service_congr (answers : Answers) {past past' : List Run}
    (h : past.map Run.command = past'.map Run.command) :
    answers.service past = answers.service past' := by
  unfold service
  rw [h]

/-- A stand-in for the tool is such a tool. -/
theorem Stub.runner_eq_service (stub : Stub) (past : List Run) :
    stub.runner = Answers.service (fun _ command => stub.runner ⟨command, true⟩) past := by
  funext run
  cases stub <;> rfl

/-- What starts programs is such a tool. -/
theorem machine_eq_service (past : List Run) :
    Host.runner = Answers.service (fun _ command => Host.runner ⟨command, true⟩) past := by
  funext run
  obtain ⟨command, capture⟩ := run
  unfold Answers.service Host.runner
  cases command with
  | nil => rfl
  | cons executable words =>
    simp only
    split
    · rfl
    · cases Host.program executable <;> rfl

/-! ## One call in two ways -/

/-- How a step of a session and the same step done in another way belong together. -/
structure OutputApart (way way' : Way) (p p' : Performed Delivered) : Prop where
  commands : p'.runs.map Run.command = p.runs.map Run.command
  captures : ∀ run ∈ p.runs, run.capture = way.captures
  captures' : ∀ run ∈ p'.runs, run.capture = way'.captures
  announced : p'.announced = p.announced
  /-- What is printed is the same text. -/
  announcements : p'.announcements = p.announcements
  notes : p'.notes = p.notes
  /-- What is written is the same text. -/
  noteLines : p'.noteLines = p.noteLines
  /-- Both give the same failure, or both tell the same success. -/
  result : p'.result.map Delivered.ok = p.result.map Delivered.ok
  /-- Ways that deliver output deliver the same, whether or not the command did what it should. -/
  output : way.captures = true → way'.captures = true →
    p'.result.map Delivered.text? = p.result.map Delivered.text?

/-- What is noted after a run depends on its command and its status. -/
theorem Mode.after_congr (mode : Mode) {run run' : Run} {e e' : Exit}
    (hcommand : run'.command = run.command) (hstatus : e'.status = e.status) :
    mode.after run' e' = mode.after run e := by
  unfold after Exit.ok
  rw [hcommand, hstatus]

theorem outputApart_perform (mode : Mode) (answers : Answers) (past : List Run)
    (command : List String) (way way' : Way) :
    OutputApart way way' (Call.perform mode ⟨way, command⟩ (answers.service past))
      (Call.perform mode ⟨way', command⟩ (answers.service past)) := by
  have hrun := Call.run_plan ⟨way, command⟩
  have hrun' := Call.run_plan ⟨way', command⟩
  unfold Call.perform Plan.perform
  by_cases hdry : mode.dryRun = true
  · obtain ⟨hok, htext⟩ := Call.standIn_plan ⟨way, command⟩
    obtain ⟨hok', htext'⟩ := Call.standIn_plan ⟨way', command⟩
    simp only [if_pos hdry, hrun, hrun']
    refine ⟨rfl, nofun, nofun, rfl, rfl, rfl, rfl, ?_, fun h h' => ?_⟩
    · exact congrArg Except.ok (hok'.trans hok.symm)
    · exact congrArg Except.ok ((htext' h').trans (htext h).symm)
  · simp only [if_neg hdry, hrun, hrun', Answers.service]
    have hcaptures : ∀ w : Way, ∀ run ∈ [(⟨command, w.captures⟩ : Run)], run.capture = w.captures :=
      fun w => List.forall_mem_singleton.2 rfl
    cases answers (past.map Run.command) command with
    | error failure =>
      exact ⟨rfl, hcaptures way, hcaptures way', rfl, rfl, rfl, rfl, rfl, fun _ _ => rfl⟩
    | ok e =>
      -- both ends have the status of the answer, and so they are noted alike
      let ended (w : Way) : Exit := { e with output := if w.captures then e.output else "" }
      have hafter : mode.after ⟨command, way'.captures⟩ (ended way') =
          mode.after ⟨command, way.captures⟩ (ended way) := mode.after_congr rfl rfl
      obtain ⟨d, hread, hok, htext⟩ := Call.read_plan ⟨way, command⟩ (ended way)
      obtain ⟨d', hread', hok', htext'⟩ := Call.read_plan ⟨way', command⟩ (ended way')
      simp only [Except.map, ended] at hafter hread hread' ⊢
      rw [hafter, hread, hread']
      cases mode.after ⟨command, way.captures⟩ (ended way) with
      | error failure =>
        exact ⟨rfl, hcaptures way, hcaptures way', rfl, rfl, rfl, rfl, rfl, fun _ _ => rfl⟩
      | ok warning =>
        refine ⟨rfl, hcaptures way, hcaptures way', rfl, rfl, rfl, rfl, ?_, fun h h' => ?_⟩
        · exact congrArg Except.ok (hok'.trans hok.symm)
        · have houtput : (ended way').output = (ended way).output := by
            simp only [ended, h, h']
          exact congrArg Except.ok
            ((htext' h').trans ((congrArg some houtput).trans (htext h).symm))

/-! ## Sessions -/

/-- A tool that heeds commands alone goes on alike after the same commands. -/
theorem session_service_congr {ι α : Type} (perform : ι → Runner → Performed α) (answers : Answers)
    {past past' : List Run} (h : past.map Run.command = past'.map Run.command) (calls : List ι) :
    session perform answers.service past calls = session perform answers.service past' calls := by
  induction calls generalizing past past' with
  | nil => rfl
  | cons call calls ih =>
    have hpast : ∀ runs : List Run,
        (past ++ runs).map Run.command = (past' ++ runs).map Run.command := by
      intro runs
      rw [List.map_append, List.map_append, h]
    simp only [session, answers.service_congr h, ih (hpast _)]

/-- A call of a session may be done in another way: that step differs in what output is wanted and
delivered, and all other steps do not differ. -/
theorem session_other_way (mode : Mode) (answers : Answers) (before after : List Call)
    (command : List String) (way way' : Way) :
    ∃ steps rest p p',
      session (Call.perform mode) answers.service [] (before ++ ⟨way, command⟩ :: after) =
        steps ++ p :: rest ∧
      session (Call.perform mode) answers.service [] (before ++ ⟨way', command⟩ :: after) =
        steps ++ p' :: rest ∧
      steps.length = before.length ∧ rest.length = after.length ∧ OutputApart way way' p p' := by
  let steps := session (Call.perform mode) answers.service [] before
  let past := [] ++ steps.flatMap Performed.runs
  have apart := outputApart_perform mode answers past command way way'
  refine ⟨steps, _, _, _, session_append _ _ _ _ _, ?_, length_session _ _ _ _,
    length_session _ _ _ _, apart⟩
  rw [session_append, session]
  -- the steps after it go on from the same commands
  refine congrArg (steps ++ ·) (congrArg (_ :: ·) (session_service_congr _ answers ?_ after))
  exact List.map_append.trans
    ((congrArg (past.map Run.command ++ ·) apart.commands).trans List.map_append.symm)

end ClusterPilot.Tool
