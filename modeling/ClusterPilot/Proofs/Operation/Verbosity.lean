/-
What is written for the person who watches has no part in anything else. A verbose session and its
quiet twin get the same answers from one tool, so they run, announce and reply alike in every step;
only the verbose one writes notes. These are none where nothing is started, and else the echo of the
run and, when it ended with another status than success, one line that warns of it.
-/
import ClusterPilot.Proofs.Operation.Plans
import ClusterPilot.Proofs.Tool.Session

namespace ClusterPilot.Operation

open Tool (Exit InStepOn Mode Note Performed Plan Run Runner Service session)

/-! ## What a verbose operation writes -/

/-- The warning after a run: one line when it ended with another status than success. -/
def warning (executable : String) : Except Failure Exit → String
  | .ok e =>
    if e.status = 0 then ""
    else "[WARN] " ++ executable ++ " exited with status " ++ toString e.status ++ "\n"
  | .error _ => ""

/-- What a verbose operation writes for the person who watches. -/
inductive Writes (s : Settings) (op : Operation) (runner : Runner) (verbose : Performed Reply) :
    Prop
  /-- What a caller got wrong is told before anything is written. -/
  | refused (m : Misuse) (misuse : op.misuse? = some m)
      (result : verbose.result = .error (.misuse m.message)) (nothing : verbose.noteLines = "")
  /-- A dry run writes its command elsewhere. -/
  | dry (sound : op.misuse? = none) (dry : s.dryRun = true) (nothing : verbose.noteLines = "")
  /-- The echo of a run stands alone unless the tool failed; a run that cannot be started has no
  status to warn of. -/
  | live (run : Run) (sound : op.misuse? = none) (live : s.dryRun = false)
      (runs : verbose.runs = [run])
      (lines : verbose.noteLines = "[CMD] " ++ Shell.join run.command ++ "\n" ++
        warning s.command (runner run))

/-- How an operation done quietly and the same one done verbosely belong together, on a tool that
answers by `runner`. -/
structure OnlyWritesMore (s : Settings) (op : Operation) (runner : Runner)
    (quiet verbose : Performed Reply) : Prop where
  result : verbose.result = quiet.result
  runs : verbose.runs = quiet.runs
  announced : verbose.announced = quiet.announced
  /-- What is printed is the same text. -/
  announcements : verbose.announcements = quiet.announcements
  nothing : quiet.noteLines = ""
  writes : Writes s op runner verbose

/-- The notes of a live run as they are written. -/
theorem lines_notes (run : Run) (answer : Except Failure Exit) :
    String.join ((Mode.notes ⟨false, true⟩ run answer).map Note.line) =
      "[CMD] " ++ Shell.join run.command ++ "\n" ++ warning (run.command.headD "") answer := by
  unfold Mode.notes warning
  cases answer with
  | error failure => simp [Note.line]
  | ok e => by_cases he : e.status = 0 <;> simp [Note.line, Tool.success, he]

/-! ## One operation and many -/

theorem onlyWritesMore_perform (s : Settings) (op : Operation) (runner : Runner) :
    OnlyWritesMore s op runner (op.perform { s with verbose := false } runner)
      (op.perform { s with verbose := true } runner) := by
  cases h : op.misuse? with
  | some m =>
    rw [perform_of_misuse _ runner h, perform_of_misuse _ runner h]
    exact ⟨rfl, rfl, rfl, rfl, rfl, .refused m h rfl rfl⟩
  | none =>
    obtain ⟨p, hp, isPlan⟩ := exists_plan s h
    -- both perform the same plan, and performing it verbosely adds no more than the notes
    have hquiet : op.perform { s with verbose := false } runner =
        p.perform ⟨s.dryRun, false⟩ runner :=
      perform_of_plan ((plan_mode s s.dryRun false op).trans hp) runner
    have hverbose : op.perform { s with verbose := true } runner =
        p.perform ⟨s.dryRun, true⟩ runner :=
      perform_of_plan ((plan_mode s s.dryRun true op).trans hp) runner
    have hadd := p.perform_verbose s.dryRun isPlan.command runner
    rw [hquiet, hverbose, hadd]
    refine ⟨rfl, rfl, rfl, rfl, ?_, ?_⟩
    · rw [Performed.noteLines, p.notes_perform_quiet s.dryRun isPlan.command]
      rfl
    · cases hdry : s.dryRun with
      | true => exact .dry h hdry rfl
      | false =>
        refine .live p.run h hdry (p.perform_live_trace rfl runner).1 ?_
        rw [Performed.noteLines, if_neg (by decide), lines_notes, head_of_plan hp]

/-- Being verbose changes nothing in a session but what is written for the person who watches. -/
theorem session_verbose (s : Settings) (tool : Service) (ops : List Operation) :
    InStepOn (OnlyWritesMore s) tool [] ops
      (session (fun op runner => op.perform { s with verbose := false } runner) tool [] ops)
      (session (fun op runner => op.perform { s with verbose := true } runner) tool [] ops) :=
  Tool.inStepOn_session (onlyWritesMore_perform s)
    (fun op runner => (onlyWritesMore_perform s op runner).runs) tool ops []

end ClusterPilot.Operation
