/-
The course of a heartbeat. Live, it looks the cluster up, and only when this finds a first master
machine it stamps that machine, and no other, with the time. It ends well when both runs do; a
stamp that the tool refuses is told with status 1, and any other failure escapes. A lookup that
finds nothing leaves no second run and prints nothing. Dry, it prints both commands, for the
machine that it presumes, and runs none.
-/
import ClusterPilot.Heartbeat.Arguments
import ClusterPilot.Proofs.CommandLine.Plans
import ClusterPilot.Proofs.Operation.Outcome
import Mathlib.Data.Rat.Floor

namespace ClusterPilot.Heartbeat

open CommandLine (Report chosen errorLine line watched)
open Operation (readCluster)
open Tool (Exit Run Runner Stub)

/-! ## The clock -/

/-- An integer is what is left of a number without its fraction. -/
structure Truncates (x : ℚ) (t : Int) : Prop where
  of_nonneg : 0 ≤ x → t ≤ x ∧ x < t + 1
  of_neg : x < 0 → t - 1 < x ∧ x ≤ t

theorem seconds_of_nonneg {clock : ℚ} (h : 0 ≤ clock) : seconds clock = ⌊clock⌋ := by
  rw [seconds, Int.tdiv_eq_ediv_of_nonneg (Rat.num_nonneg.2 h), ← Rat.floor_def']

theorem seconds_neg (clock : ℚ) : seconds (-clock) = -seconds clock := by
  unfold seconds
  rw [Rat.neg_num, Rat.neg_den, Int.neg_tdiv]

theorem truncates_seconds (clock : ℚ) : Truncates clock (seconds clock) := by
  constructor
  · intro h
    rw [seconds_of_nonneg h]
    exact ⟨Int.floor_le clock, Int.lt_floor_add_one clock⟩
  · intro h
    have hneg := seconds_of_nonneg (neg_nonneg.2 h.le)
    rw [seconds_neg, neg_eq_iff_eq_neg, ← Int.ceil_neg, neg_neg] at hneg
    rw [hneg]
    exact ⟨by linarith [Int.ceil_lt_add_one clock], Int.le_ceil clock⟩

/-! ## The two runs -/

/-- A heartbeat under some settings, for a project and a region, at a time in seconds. -/
structure Beat where
  call : Heartbeat
  settings : Settings
  project : String
  region : String
  time : Int

namespace Beat

variable (b : Beat)

/-- The zone of the machine: the given one, or the region with `-b`. -/
def zone : String := chosen b.call.zone (some (b.region ++ "-b"))

/-- The run that looks the cluster up. -/
def lookup : Run :=
  ⟨b.settings.command :: Command.accountWords b.settings.account ++
    ["--format=json", "dataproc", "clusters", "describe", b.call.cluster, "--quiet",
      "--project=" ++ b.project, "--region=" ++ b.region], true⟩

/-- The run that stamps a machine with the time. -/
def stamp (node : String) : Run :=
  ⟨b.settings.command :: Command.accountWords b.settings.account ++
    ["compute", "instances", "add-metadata", node, "--quiet", "--zone=" ++ b.zone,
      "--metadata=heartbeat=" ++ toString b.time], false⟩

/-- What both runs leave behind. -/
def report (runners : Nat → Runner) : Report :=
  b.call.beat b.settings b.project b.region runners b.time

/-! ### The commands -/

theorem zoneIn_eq : b.call.zoneIn b.region = b.zone := by
  unfold zoneIn zone chosen
  simp only [← nonEmpty?_eq_none_iff]
  cases h : nonEmpty? b.call.zone with
  | none => rfl
  | some zone => rw [if_neg (Option.some_ne_none _), eq_some_of_nonEmpty? h]; rfl

theorem zone_ne_empty : b.zone ≠ "" := by
  unfold zone chosen
  split
  · exact fun hempty => absurd (String.append_eq_empty_iff.1 hempty).2 (by decide)
  · rename_i h
    rw [not_or] at h
    cases hz : b.call.zone with
    | none => exact absurd hz h.1
    | some zone => exact fun hempty => h.2 (hz.trans (congrArg some hempty))

variable {b}

theorem run_masterPlan (hproject : b.project ≠ "") (hregion : b.region ≠ "") :
    (Operation.masterPlan b.settings b.project b.region b.call.cluster).run = b.lookup := by
  have hentries : (Operation.place b.project b.region).entries =
      [("project", some b.project), ("region", some b.region)] :=
    OrderedMap.entries_ofList (show ["project", "region"].Nodup by decide)
  unfold Operation.masterPlan Operation.command Command.words lookup
  rw [hentries]
  simp only [List.map_cons, List.map_nil, Command.option_of_ne_empty hproject,
    Command.option_of_ne_empty hregion]
  simp [Command.quiet_eq, Command.passedWords, Operation.formatJson, Command.option, nonEmpty?]

theorem run_updateMetadataPlan (node : String) :
    (Operation.updateMetadataPlan b.settings node
      (some (.ofList [("zone", some (b.call.zoneIn b.region))])) key (toString b.time)).run =
      b.stamp node := by
  have hzone : (OrderedMap.ofList [("zone", some b.zone)]).entries = [("zone", some b.zone)] :=
    OrderedMap.entries_ofList (List.nodup_singleton "zone")
  have hentries : (OptionMap.override (some (.ofList [("zone", some b.zone)]))
      [("metadata", some (key ++ "=" ++ toString b.time))]).entries =
      [("zone", some b.zone), ("metadata", some (key ++ "=" ++ toString b.time))] := by
    unfold OptionMap.override
    rw [Option.getD_some, OrderedMap.entries_insertAll, hzone]
    · rfl
    · rw [hzone]
      show ["zone", "metadata"].Nodup
      decide
  have hvalue : key ++ "=" ++ toString b.time ≠ "" := by
    rw [String.append_assoc]
    exact fun h => absurd (String.append_eq_empty_iff.1 h).1 (by decide)
  have hmetadata : Command.option "metadata" (some (key ++ "=" ++ toString b.time)) =
      "--metadata=heartbeat=" ++ toString b.time := by
    rw [Command.option_of_ne_empty hvalue, ← String.append_assoc]
    exact congrArg (· ++ toString b.time) (by decide)
  unfold Operation.updateMetadataPlan Tool.Plan.effect Operation.command Command.words stamp
  rw [zoneIn_eq, hentries]
  simp only [List.map_cons, List.map_nil, Command.option_of_ne_empty b.zone_ne_empty,
    hmetadata]
  simp [Command.quiet_eq, Command.passedWords]

theorem stamp_injective {node node' : String} (h : b.stamp node = b.stamp node') : node = node' := by
  have hcommand := congrArg Run.command h
  simp only [stamp, List.append_cancel_left_eq, List.cons.injEq] at hcommand
  exact hcommand.2.2.2.1

/-! ## What the answers tell -/

/-- What the answer to the lookup tells: the first master machine, or a failure. -/
inductive Finding (b : Beat) : Stub → Except Failure String → Prop
  | master {output c node others} (read : readCluster output = .ok c)
      (first : c.masters = node :: others) : Finding b (.exits 0 output) (.ok node)
  | noMaster {output c} (read : readCluster output = .ok c) (empty : c.masters = []) :
    Finding b (.exits 0 output) (.error (.unreadable
      ("Cluster " ++ Text.quoted b.call.cluster ++ " lists no master instances") output none))
  | unreadable {output message faults}
      (read : readCluster output = .error (.unreadable message output faults)) :
    Finding b (.exits 0 output) (.error (.unreadable message output faults))
  | failed {status output} (bad : status ≠ 0) :
    Finding b (.exits status output) (.error (.unsuccessful "Failed to get master node name."
      b.lookup.command (some status) output))
  | notStarted {message} :
    Finding b (.doesNotStart message) (.error (.notStarted message b.lookup.command))

/-- The course of a live heartbeat, by the answers to its two runs. -/
structure Course (b : Beat) (first second : Stub) (report : Report) : Prop where
  runs : report.runs = [b.lookup] ∨ ∃ node, report.runs = [b.lookup, b.stamp node]
  /-- The machine that is stamped is the one that was found. -/
  stamped : ∀ node, report.runs = [b.lookup, b.stamp node] ↔ Finding b first (.ok node)
  /-- A lookup that fails leaves no second run, prints nothing, and escapes. -/
  unstamped : ∀ f, Finding b first (.error f) → report.runs = [b.lookup] ∧ report.stdout = "" ∧
    report.ending = .error (.failure f)
  success : report.ending = .ok 0 ↔
    ∃ node output, Finding b first (.ok node) ∧ second = .exits 0 output
  complaint : report.ending = .ok 1 ↔
    ∃ node status output, Finding b first (.ok node) ∧ second = .exits status output ∧ status ≠ 0
  escape : ∀ e, report.ending = .error e ↔
    (∃ f, Finding b first (.error f) ∧ e = .failure f) ∨
    ∃ node message, Finding b first (.ok node) ∧ second = .doesNotStart message ∧
      e = .failure (.notStarted message (b.stamp node).command)
  only : ∀ status, report.ending = .ok status → status = 0 ∨ status = 1
  /-- What is printed when a machine was found: an error only when its stamp was refused. -/
  printed : ∀ node, Finding b first (.ok node) →
    (report.ending ≠ .ok 1 → report.stdout = line ("Master node: " ++ node)) ∧
    (report.ending = .ok 1 → report.stdout = line ("Master node: " ++ node) ++
      errorLine ("Failed to update metadata on " ++ node))

/-- The answer tells one thing. -/
theorem Finding.unique {first : Stub} {r r' : Except Failure String} (h : Finding b first r)
    (h' : Finding b first r') : r = r' := by
  cases h <;> cases h' <;> simp_all

theorem Finding.node_eq {first : Stub} {node node' : String} (h : Finding b first (.ok node))
    (h' : Finding b first (.ok node')) : node' = node :=
  Except.ok.inj (h'.unique h)

theorem Finding.not_error {first : Stub} {node : String} (h : Finding b first (.ok node))
    (f : Failure) : ¬ Finding b first (.error f) := by
  intro hf
  cases hf.unique h

/-- Only the machine that was found is stamped. -/
theorem Finding.stamped_iff {first : Stub} {node : String} (h : Finding b first (.ok node))
    (node' : String) :
    [b.lookup, b.stamp node] = [b.lookup, b.stamp node'] ↔ Finding b first (.ok node') := by
  constructor
  · intro heq
    have hrun : b.stamp node = b.stamp node' := by simpa using heq
    rwa [← stamp_injective hrun]
  · intro h'
    rw [h.node_eq h']

/-! ## The reports -/

/-- What the lookup is read as. -/
theorem exists_finding (hproject : b.project ≠ "") (hregion : b.region ≠ "") (first : Stub) :
    ∃ r, Finding b first r ∧
      (first.runner b.lookup >>=
        (Operation.masterPlan b.settings b.project b.region b.call.cluster).read) =
      r.map some := by
  have hrun := run_masterPlan hproject hregion
  have hread : ∀ e, (Operation.masterPlan b.settings b.project b.region b.call.cluster).read e =
      Operation.ifOk "Failed to get master node name." b.lookup.command
        (fun text => some <$> Operation.firstMaster b.call.cluster text) e := by
    intro e
    rw [← hrun]
    rfl
  cases first with
  | doesNotStart message => exact ⟨_, .notStarted, rfl⟩
  | exits status output =>
    have hanswer : (Stub.exits status output).runner b.lookup = .ok ⟨status, output⟩ := rfl
    rw [hanswer]
    simp only [bind, Except.bind, hread, Operation.ifOk]
    by_cases hstatus : status = 0
    · subst hstatus
      rw [if_pos ((Operation.ok_iff _).2 rfl), Operation.firstMaster_eq]
      cases hr : readCluster output with
      | error f =>
        obtain ⟨message, faults, rfl⟩ := Operation.unreadable_of_readCluster hr
        exact ⟨_, .unreadable hr, rfl⟩
      | ok c =>
        cases hm : c.masters with
        | nil => exact ⟨_, .noMaster hr hm, by simp only [hm]; rfl⟩
        | cons node others => exact ⟨_, .master hr hm, by simp only [hm]; rfl⟩
    · rw [if_neg (mt (Operation.ok_iff _).1 hstatus)]
      exact ⟨_, .failed hstatus, rfl⟩

section Live

variable (live : b.settings.dryRun = false) (hproject : b.project ≠ "") (hregion : b.region ≠ "")
  {answers : Nat → Stub}

include live hproject hregion

theorem perform_lookup (runner : Runner) :
    (Operation.masterPlan b.settings b.project b.region b.call.cluster).perform b.settings.mode
      runner =
      { runs := [b.lookup], notes := b.settings.mode.notes b.lookup (runner b.lookup),
        result := runner b.lookup >>=
          (Operation.masterPlan b.settings b.project b.region b.call.cluster).read } := by
  rw [Tool.Plan.perform_live _ live (Operation.command_ne_nil b.settings _ _ _),
    run_masterPlan hproject hregion]

/-- A lookup that finds nothing is all that happens. -/
theorem report_lost {f : Failure} (h : Finding b (answers 0) (.error f)) :
    b.report (fun i => (answers i).runner) =
      { stderr := watched b.settings (answers 0).runner b.lookup, runs := [b.lookup],
        ending := .error (.failure f) } := by
  obtain ⟨r, hr, hread⟩ := exists_finding hproject hregion (answers 0)
  cases hr.unique h
  unfold report beat
  rw [perform_lookup live hproject hregion, hread]
  simp [Except.map, Tool.Performed.announcements, Tool.Performed.noteLines, watched]

omit hproject hregion in
theorem perform_stamp (node : String) (runner : Runner) :
    (Operation.updateMetadataPlan b.settings node
      (some (.ofList [("zone", some (b.call.zoneIn b.region))])) key (toString b.time)).perform
      b.settings.mode runner =
      { runs := [b.stamp node], notes := b.settings.mode.notes (b.stamp node) (runner (b.stamp node)),
        result := runner (b.stamp node) >>= fun e => .ok e.ok } := by
  rw [Tool.Plan.perform_live _ live (Operation.command_ne_nil b.settings _ _ _),
    run_updateMetadataPlan]
  rfl

/-- A machine that was found is stamped, and how this ends is how all ends. -/
theorem report_found {node : String} (h : Finding b (answers 0) (.ok node)) :
    b.report (fun i => (answers i).runner) =
      { stdout := line ("Master node: " ++ node) ++
          (match answers 1 with
            | .exits status _ =>
              if status = 0 then "" else errorLine ("Failed to update metadata on " ++ node)
            | .doesNotStart _ => ""),
        stderr := watched b.settings (answers 0).runner b.lookup ++
          watched b.settings (answers 1).runner (b.stamp node),
        runs := [b.lookup, b.stamp node],
        ending :=
          match answers 1 with
          | .exits status _ => .ok (if status = 0 then 0 else 1)
          | .doesNotStart message => .error (.failure (.notStarted message (b.stamp node).command)) } := by
  obtain ⟨r, hr, hread⟩ := exists_finding hproject hregion (answers 0)
  cases hr.unique h
  unfold report beat
  rw [perform_lookup live hproject hregion, hread]
  simp only [Except.map, Option.getD_some]
  rw [perform_stamp live]
  cases answers 1 with
  | doesNotStart message =>
    have hanswer : (Stub.doesNotStart message).runner (b.stamp node) =
      .error (.notStarted message (b.stamp node).command) := rfl
    simp [Tool.Performed.announcements, Tool.Performed.noteLines, watched, hanswer, bind,
      Except.bind]
  | exits status output =>
    rcases eq_or_ne status 0 with rfl | hstatus
    · have hanswer : (Stub.exits 0 output).runner (b.stamp node) = .ok ⟨0, ""⟩ := rfl
      have hok : (⟨0, ""⟩ : Exit).ok = true := rfl
      simp [Tool.Performed.announcements, Tool.Performed.noteLines, watched, hanswer, bind,
        Except.bind, hok]
    · have hanswer : (Stub.exits status output).runner (b.stamp node) = .ok ⟨status, ""⟩ := rfl
      have hok : (⟨status, ""⟩ : Exit).ok = false := by
        rw [Bool.eq_false_iff]
        exact mt (Operation.ok_iff _).1 hstatus
      simp [Tool.Performed.announcements, Tool.Performed.noteLines, watched, hanswer, bind,
        Except.bind, hok, hstatus]

theorem course_of_lost {f : Failure} (h : Finding b (answers 0) (.error f)) :
    Course b (answers 0) (answers 1) (b.report fun i => (answers i).runner) := by
  have hno : ∀ node, ¬ Finding b (answers 0) (.ok node) := fun _ hnode => hnode.not_error f h
  rw [report_lost live hproject hregion h]
  refine ⟨.inl rfl, ?_, ?_, ?_, ?_, ?_, nofun, ?_⟩
  · intro node
    simpa using hno node
  · intro f' hf'
    cases h.unique hf'
    exact ⟨rfl, rfl, rfl⟩
  · simpa using fun node hnode => absurd hnode (hno node)
  · simpa using fun node hnode => absurd hnode (hno node)
  · intro e
    constructor
    · rintro ⟨⟩
      exact .inl ⟨f, h, rfl⟩
    · rintro (⟨f', hf', rfl⟩ | ⟨node, message, hnode, -⟩)
      · cases h.unique hf'
        rfl
      · exact absurd hnode (hno node)
  · exact fun node hnode => absurd hnode (hno node)

theorem course_of_notStarted {node message : String} (h : Finding b (answers 0) (.ok node))
    (hsecond : answers 1 = .doesNotStart message) :
    Course b (answers 0) (answers 1) (b.report fun i => (answers i).runner) := by
  rw [report_found live hproject hregion h, hsecond]
  refine ⟨.inr ⟨node, rfl⟩, h.stamped_iff, fun f hf => absurd hf (h.not_error f), by simp, by simp,
    ?_, nofun, ?_⟩
  · intro e
    constructor
    · rintro ⟨⟩
      exact .inr ⟨node, message, h, rfl, rfl⟩
    · rintro (⟨f, hf, -⟩ | ⟨node', _, hnode', ⟨⟩, rfl⟩)
      · exact absurd hf (h.not_error f)
      · rw [h.node_eq hnode']
  · intro node' hnode'
    rw [h.node_eq hnode']
    exact ⟨fun _ => String.append_empty, nofun⟩

theorem course_of_exits {node output : String} {status : Int} (h : Finding b (answers 0) (.ok node))
    (hsecond : answers 1 = .exits status output) :
    Course b (answers 0) (answers 1) (b.report fun i => (answers i).runner) := by
  rw [report_found live hproject hregion h, hsecond]
  refine ⟨.inr ⟨node, rfl⟩, h.stamped_iff, fun f hf => absurd hf (h.not_error f), ?_, ?_, ?_, ?_, ?_⟩
  · constructor
    · intro hend
      have hstatus : status = 0 := by by_contra hne; simp [hne] at hend
      exact ⟨node, output, h, by rw [hstatus]⟩
    · rintro ⟨_, _, -, ⟨⟩⟩
      rfl
  · constructor
    · intro hend
      have hstatus : status ≠ 0 := by rintro rfl; simp at hend
      exact ⟨node, status, output, h, rfl, hstatus⟩
    · rintro ⟨_, _, _, -, ⟨⟩, hne⟩
      exact congrArg Except.ok (if_neg hne)
  · intro e
    constructor
    · nofun
    · rintro (⟨f, hf, -⟩ | ⟨_, _, -, ⟨⟩, -⟩)
      exact absurd hf (h.not_error f)
  · rintro _ ⟨⟩
    by_cases hstatus : status = 0
    · exact .inl (if_pos hstatus)
    · exact .inr (if_neg hstatus)
  · intro node' hnode'
    rw [h.node_eq hnode']
    by_cases hstatus : status = 0 <;> simp [hstatus]

/-- Every live heartbeat takes its course. -/
theorem course_report : Course b (answers 0) (answers 1) (b.report fun i => (answers i).runner) := by
  obtain ⟨r, hr, -⟩ := exists_finding hproject hregion (answers 0)
  cases r with
  | error f => exact course_of_lost live hproject hregion hr
  | ok node =>
    cases hsecond : answers 1 with
    | doesNotStart message =>
      rw [← hsecond]
      exact course_of_notStarted live hproject hregion hr hsecond
    | exits status output =>
      rw [← hsecond]
      exact course_of_exits live hproject hregion hr hsecond

end Live

/-- A dry heartbeat prints what it would run, and runs nothing. -/
theorem report_dry (dry : b.settings.dryRun = true) (hproject : b.project ≠ "")
    (hregion : b.region ≠ "") (runners : Nat → Runner) :
    b.report runners =
      { stdout := line (" ".intercalate b.lookup.command) ++
          line ("Master node: " ++ b.call.presumedMaster) ++
          line (" ".intercalate (b.stamp b.call.presumedMaster).command),
        ending := .ok 0 } := by
  have hnode : ((Operation.masterPlan b.settings b.project b.region b.call.cluster).standIn).getD
      b.call.presumedMaster = b.call.presumedMaster := rfl
  unfold report beat
  rw [Tool.Plan.perform_dry _ dry, run_masterPlan hproject hregion]
  simp only [hnode]
  rw [Tool.Plan.perform_dry _ dry, run_updateMetadataPlan]
  simp [Tool.Performed.announcements, Tool.Performed.noteLines, Tool.announcement, line,
    Operation.updateMetadataPlan, Tool.Plan.effect]

end Beat

/-! ## From the command line -/

theorem nonEmpty?_or {given configured : Option String} (h : chosen given configured ≠ "") :
    (nonEmpty? given <|> nonEmpty? configured) = some (chosen given configured) := by
  unfold chosen at h ⊢
  simp only [← nonEmpty?_eq_none_iff] at h ⊢
  cases hg : nonEmpty? given with
  | some value =>
    rw [if_neg (Option.some_ne_none value), eq_some_of_nonEmpty? hg]
    rfl
  | none =>
    rw [hg, if_pos rfl, ← nonEmpty?_getD] at h
    rw [if_pos rfl, ← nonEmpty?_getD]
    cases hc : nonEmpty? configured with
    | some value => rfl
    | none => rw [hc] at h; exact absurd rfl h

section Answer

variable {words : List String} {h : Heartbeat} (hw : ofWords words = .ok h) {files : Config.Files}
  {environment : Option String} {c : Config}
  (hc : Config.load files (Config.location h.config environment) = .ok c)
  (hproject : chosen h.project c.settings.project ≠ "")
  (hregion : chosen h.region c.settings.region ≠ "")

include hw hc hproject hregion

theorem answer_eq (runners : Nat → Runner) (clock : ℚ) :
    answer words files environment runners clock =
      .ok (h.beat { c.settings with dryRun := h.dryRun || c.settings.dryRun }
        (chosen h.project c.settings.project) (chosen h.region c.settings.region) runners
        (seconds clock)) := by
  have hsettings : Config.loadSettings files (Config.location h.config environment)
      (if h.dryRun then some true else none) true =
      .ok { c.settings with dryRun := h.dryRun || c.settings.dryRun } := by
    unfold Config.loadSettings
    rw [if_pos rfl, hc]
    cases h.dryRun <;> rfl
  rw [answer, hw]
  show h.run files environment runners (seconds clock) = _
  unfold run
  simp only [hsettings, nonEmpty?_or hproject, nonEmpty?_or hregion]

/-- What a command line for a heartbeat leaves behind when the configuration can be loaded and a
project and a region are given or configured. -/
theorem heartbeat_takes_course (answers : Nat → Stub) (clock : ℚ) :
    ∃ t report, Truncates clock t ∧
      answer words files environment (fun i => (answers i).runner) clock = .ok report ∧
      let b : Beat := ⟨h, c.settings, chosen h.project c.settings.project,
        chosen h.region c.settings.region, t⟩
      (h.dryRun = false → c.settings.dryRun = false →
        b.Course (answers 0) (answers 1) report) ∧
      (h.dryRun = true ∨ c.settings.dryRun = true → report =
        { stdout := " ".intercalate b.lookup.command ++ "\n" ++
            "Master node: " ++ h.cluster ++ "-m\n" ++
            " ".intercalate (b.stamp (h.cluster ++ "-m")).command ++ "\n",
          ending := .ok 0 }) := by
  refine ⟨seconds clock, _, truncates_seconds clock,
    answer_eq hw hc hproject hregion (fun i => (answers i).runner) clock, ?_, ?_⟩
  · intro hoff hlive
    rw [hoff, hlive, Bool.false_or]
    have hsame : { c.settings with dryRun := false } = c.settings := by rw [← hlive]
    rw [hsame]
    exact Beat.course_report (b := ⟨h, c.settings, _, _, seconds clock⟩) hlive hproject hregion
  · intro hdry
    have hon : (h.dryRun || c.settings.dryRun) = true := by rwa [Bool.or_eq_true]
    rw [hon]
    refine (Beat.report_dry (b := ⟨h, { c.settings with dryRun := true }, _, _, seconds clock⟩)
      rfl hproject hregion _).trans ?_
    simp only [line, presumedMaster, String.append_assoc]
    rfl

end Answer

/-- A cluster with two master machines. -/
def twoMasters : String :=
  "\x7b\"clusterName\": \"c\", \"config\": \x7b\"masterConfig\": \x7b\"instanceNames\": " ++
    "[\"m-0\", \"m-1\"]\x7d\x7d\x7d"

theorem finding_twoMasters (b : Beat) : b.Finding (.exits 0 twoMasters) (.ok "m-0") := by
  have hmasters : (readCluster twoMasters).map Cluster.masters = .ok ["m-0", "m-1"] := by
    decide +kernel
  obtain ⟨c, hc, hm⟩ := map_ok hmasters
  exact .master hc hm

/-- A tool that describes two masters and then refuses the stamp, asked without a zone late in a
second: the first master is stamped with the second. -/
theorem heartbeat_takes_course_refused :
    let files : Config.Files := fun _ => .file "driver: \x7bdefault_region: eu\x7d".toUTF8.toList
    let answers : Nat → Stub := fun i => if i = 0 then .exits 0 twoMasters else .exits 3 ""
    ∃ report,
      answer ["c", "--project", "p", "--zone="] files none (fun i => (answers i).runner)
        (17600000009 / 10) = .ok report ∧
      report.runs =
        [⟨["gcloud", "--format=json", "dataproc", "clusters", "describe", "c", "--quiet",
            "--project=p", "--region=eu"], true⟩,
          ⟨["gcloud", "compute", "instances", "add-metadata", "m-0", "--quiet", "--zone=eu-b",
            "--metadata=heartbeat=1760000000"], false⟩] ∧
      report.stdout = "Master node: m-0\n[ERROR] Failed to update metadata on m-0\n" ∧
      report.ending = .ok 1 := by
  intro files answers
  have hw : ofWords ["c", "--project", "p", "--zone="] =
      .ok { cluster := "c", project := some "p", zone := some "" } := by decide +kernel
  have hc : Config.load files (Config.location none none) =
      .ok { settings := { region := some "eu" } } := by decide +kernel
  obtain ⟨t, report, ht, hanswer, hcourse, -⟩ := heartbeat_takes_course hw hc
    (show "p" ≠ "" by decide) (show "eu" ≠ "" by decide) answers (17600000009 / 10)
  have ht : t = 1760000000 := by
    obtain ⟨hle, hlt⟩ := ht.of_nonneg (by norm_num)
    have hlow : (1759999999 : ℚ) < t := by linarith
    have hhigh : (t : ℚ) < 1760000001 := by linarith
    norm_cast at hlow hhigh
    omega
  subst ht
  have hcourse := hcourse rfl rfl
  have hfound := finding_twoMasters ⟨{ cluster := "c", project := some "p", zone := some "" },
    { region := some "eu" }, "p", "eu", 1760000000⟩
  have hending := hcourse.complaint.2 ⟨"m-0", 3, "", hfound, rfl, by decide⟩
  exact ⟨report, hanswer, (hcourse.stamped "m-0").2 hfound,
    (hcourse.printed "m-0" hfound).2 hending, hending⟩

end ClusterPilot.Heartbeat
