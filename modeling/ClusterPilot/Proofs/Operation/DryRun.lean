/-
A dry session is its live twin with every run announced in place of being started. Both refuse the
same operations with the same words and then leave no trace; for every other operation the dry
session announces, in one line, exactly the command that the live one runs, and replies with what
stands for success. So nothing that a tool does can make a dry session fail.
-/
import ClusterPilot.Proofs.Operation.Plans
import ClusterPilot.Proofs.Tool.Session

namespace ClusterPilot.Operation

open Tool (InStep Performed Runner Service session)

/-- Nothing was run and nothing was announced. -/
def LeavesNoTrace (p : Performed Reply) : Prop := p.runs = [] ∧ p.announced = []

/-- How an operation done dry and the same one done live belong together. -/
inductive Announces (op : Operation) (dry live : Performed Reply) : Prop
  /-- What a caller got wrong is told in both modes, before anything happens. -/
  | refused (m : Misuse) (misuse : op.misuse? = some m)
      (dryResult : dry.result = .error (.misuse m.message))
      (liveResult : live.result = .error (.misuse m.message))
      (dryTrace : LeavesNoTrace dry) (liveTrace : LeavesNoTrace live)
  /-- The one run of the live operation is the one line of the dry one. -/
  | announced (run : Tool.Run) (sound : op.misuse? = none)
      (liveRuns : live.runs = [run]) (liveLines : live.announced = [])
      (dryRuns : dry.runs = []) (dryLines : dry.announced = [" ".intercalate run.command])
      (reply : dry.result = .ok op.standIn)
      (creation : ∀ c, dry.result = .ok (.creation c) →
        c.status = .announced ∧ c.ok = true ∧ c.get = .ok none)

/-- The stand-in for a creation says that it was announced, and holds no cluster. -/
theorem standIn_creation {op : Operation} {c : Creation} (h : op.standIn = .creation c) :
    c.status = .announced ∧ c.ok = true ∧ c.get = .ok none := by
  cases op <;> cases h
  exact ⟨rfl, rfl, rfl⟩

theorem announces_perform (s : Settings) (op : Operation) (runner runner' : Runner) :
    Announces op (op.perform { s with dryRun := true } runner)
      (op.perform { s with dryRun := false } runner') := by
  cases h : op.misuse? with
  | some m =>
    rw [perform_of_misuse _ runner h, perform_of_misuse _ runner' h]
    exact .refused m h rfl rfl ⟨rfl, rfl⟩ ⟨rfl, rfl⟩
  | none =>
    obtain ⟨p, hp, isPlan⟩ := exists_plan s h
    -- both modes perform the same plan
    have hdry : op.perform { s with dryRun := true } runner =
        { announced := [Tool.announcement p.run.command], result := .ok op.standIn } := by
      rw [perform_of_plan ((plan_mode s true s.verbose op).trans hp), ← isPlan.standIn]
      exact p.perform_dry rfl runner
    have hlive := perform_of_plan ((plan_mode s false s.verbose op).trans hp) runner'
    have htrace := p.perform_live_trace
      (show ({ s with dryRun := false } : Settings).mode.dryRun = false from rfl) runner'
    rw [← hlive] at htrace
    refine .announced p.run h htrace.1 htrace.2 ?_ ?_ ?_ ?_
    · rw [hdry]
    · rw [hdry]; rfl
    · rw [hdry]
    · intro c hc
      rw [hdry] at hc
      exact standIn_creation (Except.ok.inj hc)

/-- A dry session agrees with its live twin step by step, and fails in no other way than by what a
caller got wrong. -/
theorem session_announces (s : Settings) (tool tool' : Service) (ops : List Operation) :
    let dry := session (fun op runner => op.perform { s with dryRun := true } runner) tool [] ops
    let live := session (fun op runner => op.perform { s with dryRun := false } runner) tool' [] ops
    InStep Announces ops dry live ∧
      ∀ p ∈ dry, ∀ failure, p.result = .error failure → ∃ message, failure = .misuse message := by
  intro dry live
  have h : InStep Announces ops dry live :=
    Tool.inStep_session (announces_perform s) tool tool' ops [] []
  refine ⟨h, h.forall_mem_left ?_⟩
  intro op p q hpq failure hfailure
  cases hpq with
  | refused m _ dryResult =>
    rw [dryResult] at hfailure
    exact ⟨m.message, (Except.error.inj hfailure).symm⟩
  | announced run _ _ _ _ _ reply =>
    rw [reply] at hfailure
    cases hfailure

end ClusterPilot.Operation
