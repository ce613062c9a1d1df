/-
The command that a request makes, read back. For the four actions that take options, the words of
the one command that reaches the tool tell the request: the executable, the account and the
subcommand stand in front of `--quiet`; each word after it, up to the lone `--` of a job that takes
arguments, is an option; and read back in order, the options are those that were specified, with
the one that the action sets itself in its place. No specification can set that one a second time
or otherwise, and no argument of the job can move the lone `--`.
-/
import ClusterPilot.CommandLine.Request
import ClusterPilot.Proofs.CommandLine.Options
import ClusterPilot.Proofs.Operation.Plans
import ClusterPilot.Proofs.Tool.Session

namespace ClusterPilot.CommandLine

open Tool (Plan Run Runner)

/-! ## What a command is made of -/

/-- What the command of an action is made of. -/
structure Invocation where
  /-- The words in front of `--quiet`. -/
  subcommand : List String
  /-- The specified options. -/
  specs : List String
  /-- The name of the option that the action itself sets. -/
  name : String
  /-- The value of that option. -/
  value : String
  /-- The words that are passed through. -/
  arguments : List String

/-- A text that is given and not empty, or else the configured one. -/
def chosen (given configured : Option String) : String :=
  if given = none ∨ given = some "" then configured.getD "" else given.getD ""

/-- What the commands of the actions with options are made of. -/
def Action.invocation? (s : Settings) : Action → Option Invocation
  | .create name region specs =>
    some ⟨["--format=json", "dataproc", "clusters", "create", name], specs, "region",
      chosen region s.region, []⟩
  | .delete name region specs =>
    some ⟨["dataproc", "clusters", "delete", name, "--async"], specs, "region",
      chosen region s.region, []⟩
  | .submit kind file region specs arguments =>
    some ⟨["dataproc", "jobs", "submit", kind] ++ Operation.mainWords kind file, specs, "region",
      chosen region s.region, arguments⟩
  | .updateMetadata node key value specs =>
    some ⟨["compute", "instances", "add-metadata", node], specs, "metadata", key ++ "=" ++ value,
      []⟩
  | .list .. | .master .. => none

namespace Invocation

variable (s : Settings) (i : Invocation)

/-- Where `--quiet` stands: after the executable, the account and the subcommand. -/
def quietIndex : Nat := Command.frontLength s.account + i.subcommand.length

/-- The words after `--quiet`. -/
def rest (words : List String) : List String := words.drop (i.quietIndex s + 1)

/-- The option words: all words after `--quiet`, or those in front of the first lone `--` when
arguments are passed through. -/
def optionPart (words : List String) : List String :=
  if i.arguments = [] then i.rest s words else (i.rest s words).takeWhile (· ≠ "--")

/-- The words of a command tell an invocation whose specifications set up some options. -/
structure Decodes (options : OptionMap) (words : List String) : Prop where
  front : words.take (i.quietIndex s) =
    s.command :: Command.accountWords s.account ++ i.subcommand
  quiet : words[i.quietIndex s]? = some "--quiet"
  dashed : ∀ w ∈ i.optionPart s words, ['-', '-'] <+: w.toList
  /-- The specified options in order, with the one that the action sets in its place. -/
  entries : (i.optionPart s words).map Command.readOption =
    (options.insert i.name (some i.value)).entries.map fun e => (e.1, e.2.getD "")
  distinct : (((i.optionPart s words).map Command.readOption).map Prod.fst).Nodup
  own : ((i.optionPart s words).map Command.readOption).filter (fun e => e.1 = i.name) =
    [(i.name, i.value)]
  passed : i.arguments ≠ [] → (i.rest s words).dropWhile (· ≠ "--") = "--" :: i.arguments
  unpassed : i.arguments = [] → "--" ∉ i.rest s words

/-! ## The words of an invocation -/

theorem rest_words (options : OptionMap) :
    i.rest s (Command.words s.command s.account i.subcommand options i.arguments) =
      Command.optionWords options ++ Command.passedWords i.arguments := by
  unfold rest quietIndex
  rw [Command.words_eq, ← Command.length_front s.command, List.drop_length_add_append]
  rfl

theorem optionPart_words {options : OptionMap}
    (h : ∀ e ∈ options.entries, Command.IsName e.1) :
    i.optionPart s (Command.words s.command s.account i.subcommand options i.arguments) =
      Command.optionWords options := by
  unfold optionPart
  rw [rest_words]
  have hsep : "--" ∉ Command.optionWords options := Command.separator_not_mem_optionWords h
  split
  · rename_i harg
    rw [harg]
    exact List.append_nil _
  · -- no option word is a lone `--`, so the first one is that of the arguments
    rename_i harg
    rw [Command.passedWords, if_neg (by rwa [List.isEmpty_iff])]
    exact Command.takeWhile_ne_append hsep i.arguments

/-- The words of a command tell what it is made of. -/
theorem decodes_words {options : OptionMap} (h : ∀ e ∈ options.entries, Command.IsName e.1)
    (hname : Command.IsName i.name) :
    i.Decodes s options (Command.words s.command s.account i.subcommand
      (options.insert i.name (some i.value)) i.arguments) := by
  have hall : ∀ e ∈ (options.insert i.name (some i.value)).entries, Command.IsName e.1 :=
    OrderedMap.forall_mem_insert h hname
  have hsep : "--" ∉ Command.optionWords (options.insert i.name (some i.value)) :=
    Command.separator_not_mem_optionWords hall
  have hpart := i.optionPart_words s hall
  have hentries := Command.readOption_optionWords hall
  have hkeys : (((options.insert i.name (some i.value)).entries.map
      fun e => (e.1, e.2.getD "")).map Prod.fst).Nodup := by
    rw [List.map_map]
    exact (options.insert i.name (some i.value)).nodup_keys
  refine ⟨?_, ?_, ?_, ?_, ?_, ?_, ?_, ?_⟩
  · unfold quietIndex
    rw [Command.words_eq, ← Command.length_front s.command, List.take_left]
  · unfold quietIndex
    rw [Command.words_eq, ← Command.length_front s.command,
      List.getElem?_append_right (Nat.le_refl _), Nat.sub_self, Command.quiet_eq]
    rfl
  · intro w hw
    rw [hpart] at hw
    obtain ⟨e, -, rfl⟩ := List.mem_map.1 hw
    exact Command.option_starts e.1 e.2
  · rw [hpart, hentries]
  · rw [hpart, hentries]
    exact hkeys
  · rw [hpart, hentries]
    apply filter_key_eq hkeys
    have hget := OrderedMap.get?_insert options i.name i.name (some i.value)
    rw [if_pos rfl] at hget
    rw [lookup_map_snd (fun v : Option String => v.getD "")]
    rw [OrderedMap.get?] at hget
    rw [hget]
    rfl
  · intro harg
    rw [rest_words, Command.passedWords, if_neg (by rwa [List.isEmpty_iff])]
    exact Command.dropWhile_ne_append hsep i.arguments
  · intro harg
    rw [rest_words, harg]
    simpa [Command.passedWords] using hsep

end Invocation

/-! ## From requests to commands -/

theorem resolve_ok {given configured : Option String} {name value : String}
    (h : resolve given configured name = .ok value) : value = chosen given configured := by
  unfold resolve at h
  unfold chosen
  cases hg : nonEmpty? given with
  | some v =>
    rw [hg] at h
    cases h
    have hne : ¬ (given = none ∨ given = some "") := by
      rw [← nonEmpty?_eq_none_iff, hg]
      exact Option.some_ne_none _
    rw [if_neg hne, eq_some_of_nonEmpty? hg, Option.getD_some]
  | none =>
    rw [hg] at h
    rw [if_pos ((nonEmpty?_eq_none_iff given).1 hg)]
    cases hc : nonEmpty? configured with
    | some v =>
      rw [hc] at h
      cases h
      rw [eq_some_of_nonEmpty? hc, Option.getD_some]
    | none =>
      rw [hc] at h
      cases h

theorem submitPlan_ok {s : Settings} {kind : String} {file : Option String} {region : String}
    {options : Option OptionMap} {arguments : List String} {p : Plan Bool}
    (h : Operation.submitPlan s kind file region options arguments = .ok p) :
    p.run.command = Operation.command s
      (["dataproc", "jobs", "submit", kind] ++ Operation.mainWords kind file)
      (.override options [("region", some region)]) arguments := by
  by_cases hfile : kind = "pyspark" ∧ (file = none ∨ file = some "")
  · obtain ⟨rfl, hfile⟩ := hfile
    rw [Operation.submitPlan_of_no_file s region options arguments hfile] at h
    cases h
  · rw [Operation.submitPlan_of_file s region options arguments hfile] at h
    cases h
    rfl

/-- What is planned after a region was resolved and options were read. -/
theorem resolve_parse_ok {α : Type} {given configured : Option String} {name : String}
    {specs : List String} {next : String → OptionMap → Except Misuse α} {a : α}
    (h : (do
      let region ← resolve given configured name
      let options ← parseOptions specs
      next region options) = .ok a) :
    ∃ options, parseOptions specs = .ok options ∧
      next (chosen given configured) options = .ok a := by
  obtain ⟨region, hregion, h⟩ := bind_ok h
  obtain ⟨options, hoptions, h⟩ := bind_ok h
  rw [resolve_ok hregion] at h
  exact ⟨options, hoptions, h⟩

/-- The command of a planned action has the words of its invocation. -/
theorem command_of_plan {s : Settings} {a : Action} {i : Invocation} {p : Plan Shown}
    (hi : a.invocation? s = some i) (hp : a.plan s = .ok p) :
    ∃ options, parseOptions i.specs = .ok options ∧
      p.run.command = Command.words s.command s.account i.subcommand
        (options.insert i.name (some i.value)) i.arguments := by
  cases a with
  | create name region specs =>
    cases hi
    obtain ⟨options, hoptions, hp⟩ := resolve_parse_ok hp
    cases hp
    exact ⟨options, hoptions, rfl⟩
  | delete name region specs =>
    cases hi
    obtain ⟨options, hoptions, hp⟩ := resolve_parse_ok hp
    cases hp
    exact ⟨options, hoptions, rfl⟩
  | submit kind file region specs arguments =>
    cases hi
    obtain ⟨options, hoptions, hp⟩ := resolve_parse_ok hp
    obtain ⟨job, hjob, hp⟩ := bind_ok hp
    cases hp
    exact ⟨options, hoptions, submitPlan_ok hjob⟩
  | updateMetadata node key value specs =>
    cases hi
    obtain ⟨options, hoptions, hp⟩ := bind_ok hp
    cases hp
    exact ⟨options, hoptions, rfl⟩
  | list project region filters => cases hi
  | master cluster project region => cases hi

theorem runs_of_plan {s : Settings} (live : s.dryRun = false) {a : Action} {p : Plan Shown}
    (hp : a.plan s = .ok p) (runner : Runner) : (a.run s runner).runs = [p.run] := by
  have htrace := (p.perform_live_trace (show s.mode.dryRun = false from live) runner).1
  unfold Action.run
  rw [hp]
  simp only
  split
  · exact htrace
  · split
    · exact htrace
    · exact htrace

/-- A run of a live action is the run of its plan. -/
theorem plan_of_mem_runs {s : Settings} (live : s.dryRun = false) {a : Action} {runner : Runner}
    {run : Run} (h : run ∈ (a.run s runner).runs) : ∃ p, a.plan s = .ok p ∧ run = p.run := by
  cases hp : a.plan s with
  | error m =>
    rw [Action.run, hp] at h
    cases h
  | ok p =>
    rw [runs_of_plan live hp runner, List.mem_singleton] at h
    exact ⟨p, rfl, h⟩

theorem isName_invocation {s : Settings} {a : Action} {i : Invocation}
    (hi : a.invocation? s = some i) : Command.IsName i.name := by
  have hname : i.name = "region" ∨ i.name = "metadata" := by
    cases a <;> cases hi <;> simp
  rcases hname with h | h <;> rw [h] <;> decide

/-- The command of a live request that reaches the tool tells the request. -/
theorem request_decodes {files : Config.Files} {r : Request} {s : Settings}
    (hs : r.settings files = .ok s) (live : s.dryRun = false) {i : Invocation}
    (hi : r.action.invocation? s = some i) {runner : Runner} {run : Run}
    (hrun : run ∈ (r.run files runner).runs) :
    ∃ options, parseOptions i.specs = .ok options ∧ i.Decodes s options run.command := by
  have hrun : run ∈ (r.action.run s runner).runs := by
    rw [Request.run, hs] at hrun
    exact hrun
  obtain ⟨p, hp, rfl⟩ := plan_of_mem_runs live hrun
  obtain ⟨options, hoptions, hcommand⟩ := command_of_plan hi hp
  refine ⟨options, hoptions, ?_⟩
  rw [hcommand]
  exact i.decodes_words s (isName_of_parseOptions hoptions) (isName_invocation hi)

/-- A configuration that names an account. -/
def accountFile : Config.Files := fun _ => .file
  [100, 114, 105, 118, 101, 114, 58, 32, 123, 97, 99, 99, 111, 117, 110, 116, 58, 32, 109, 101, 125]

/-- A job whose options and arguments try to set the region again. -/
def jobRequest : Request :=
  { action := .submit "pyspark" (some "job.py") (some "eu") ["region=x", "a=b=c"]
      ["--", "--region=x"] }

theorem request_decodes_job :
    ∃ options words, jobRequest.settings accountFile = .ok { account := some "me" } ∧
      (jobRequest.run accountFile (Tool.Stub.exits 1 "").runner).runs = [⟨words, false⟩] ∧
      parseOptions ["region=x", "a=b=c"] = .ok options ∧
      Invocation.Decodes { account := some "me" }
        ⟨["dataproc", "jobs", "submit", "pyspark", "job.py"], ["region=x", "a=b=c"], "region", "eu",
          ["--", "--region=x"]⟩ options words := by
  have hs : jobRequest.settings accountFile = .ok { account := some "me" } := by decide +kernel
  have hruns : (jobRequest.run accountFile (Tool.Stub.exits 1 "").runner).runs =
      [⟨["gcloud", "--account", "me", "dataproc", "jobs", "submit", "pyspark", "job.py", "--quiet",
        "--region=eu", "--a=b=c", "--", "--", "--region=x"], false⟩] := by
    rw [Request.run, hs]
    rfl
  obtain ⟨options, hoptions, h⟩ := request_decodes hs rfl rfl
    (show _ ∈ (jobRequest.run accountFile (Tool.Stub.exits 1 "").runner).runs by
      rw [hruns]; exact List.mem_singleton.2 rfl)
  exact ⟨options, _, hs, hruns, hoptions, h⟩

end ClusterPilot.CommandLine
