/-
Where the configuration of a command line is looked for. A command line that does not name one takes
the default path as if it had been given, so the environment has no say in it. It agrees with what
is found when nothing is given exactly where the environment names no other path.
-/
import ClusterPilot.CommandLine.Arguments
import ClusterPilot.Proofs.OrderedMap

namespace ClusterPilot.CommandLine

/-! ## Command lines that name no configuration -/

/-- A word that names the configuration, with or without the path attached. -/
def NamesConfig (w : String) : Prop := (Text.cut '=' w.toList).1 = "--config".toList

instance (w : String) : Decidable (NamesConfig w) := inferInstanceAs (Decidable (_ = _))

/-- What stands before the first `=` stays there when the underscores in it become dashes. -/
theorem takeWhile_dashed (cs : List Char) :
    (dashed (cs.takeWhile (· ≠ '=')) ++ cs.drop (cs.takeWhile (· ≠ '=')).length).takeWhile
      (· ≠ '=') = dashed (cs.takeWhile (· ≠ '=')) := by
  induction cs with
  | nil => rfl
  | cons c cs ih =>
    by_cases h : c = '='
    · simp [h, dashed]
    · have hdash : (if c = '_' then '-' else c) ≠ '=' := by
        split
        · decide
        · exact h
      simpa [h, hdash, dashed] using ih

/-- The name of the option has no letter that dashes could have been written for. -/
theorem eq_config_of_dashed {cs : List Char} (dashes : ['-', '-'] <+: cs)
    (h : dashed cs = "--config".toList) : cs = "--config".toList := by
  obtain ⟨rest, rfl⟩ := dashes
  have hrest : dashed rest = "config".toList := by simpa [dashed] using h
  have hsame : dashed rest = rest := by
    unfold dashed
    rw [List.map_congr_left (g := id), List.map_id]
    intro c hc
    have hmem : (if c = '_' then '-' else c) ∈ "config".toList := by
      rw [← hrest]
      exact List.mem_map_of_mem hc
    by_cases hline : c = '_'
    · rw [if_pos hline] at hmem
      exact absurd hmem (by decide)
    · exact if_neg hline
  rw [← hsame, hrest]
  rfl

/-- A word that names the configuration once it is spelled with dashes did so before. -/
theorem namesConfig_of_respell {w : String} (h : NamesConfig (respell w)) : NamesConfig w := by
  unfold NamesConfig respell at *
  simp only [Text.cut_fst] at *
  split at h
  · rename_i hdashes
    rw [String.toList_ofList, takeWhile_dashed] at h
    refine eq_config_of_dashed ?_ h
    obtain ⟨rest, hrest⟩ := List.isPrefixOf_iff_prefix.1 hdashes
    rw [← hrest]
    exact ⟨rest.takeWhile (· ≠ '='), by simp⟩
  · exact h

/-- The option of a word is the one that the word names. -/
theorem ofString_ne_config {options : List String} {w name : String} {attached : Option String}
    (h : Word.ofString options false w = .option name attached) (unnamed : ¬NamesConfig w) :
    name ≠ "--config" := by
  rintro rfl
  apply unnamed
  unfold NamesConfig
  unfold Word.ofString at h
  simp only at h
  split at h
  · cases h
  split at h
  · cases h
  split at h
  · cases h
    decide
  split at h
  · rename_i o hnamed
    cases h
    unfold Word.named at hnamed
    split at hnamed
    · have hname := congrArg String.toList (List.cons.inj hnamed).1
      rwa [String.toList_ofList] at hname
    · simp at hnamed
  · cases h
  · split at h <;> cases h

/-! ## Drafts without a configuration -/

/-- No path was given for the configuration, and the next value will be none either. -/
structure Draft.Unnamed (d : Draft) : Prop where
  lookup : d.values.lookup "config" = none
  taking : ∀ f, d.taking = some f → f.name ≠ "config"

section Steps

variable {fields : List Field} {d d' : Draft}

theorem Draft.Unnamed.set (h : d.Unnamed) {f : Field} (hf : f.name ≠ "config")
    (values : List String) : (setEntry f.name values d.values).lookup "config" = none := by
  rw [lookup_setEntry, if_neg (Ne.symm hf)]
  exact h.lookup

theorem Draft.Unnamed.value (h : d.Unnamed) (v : String) : (d.value v).Unnamed := by
  unfold Draft.value
  split
  · exact ⟨h.lookup, h.taking⟩
  · rename_i f hf
    split
    · exact ⟨h.set (h.taking f hf) _, h.taking⟩
    · exact ⟨h.set (h.taking f hf) _, nofun⟩

theorem Draft.Unnamed.option (h : d.Unnamed) {name : String} {attached : Option String}
    (unnamed : name ≠ "--config") (hd : d.option fields name attached = .ok d') : d'.Unnamed := by
  have hfound : ∀ f, fields.find? (fun f => "--" ++ f.name = name) = some f →
      f.name ≠ "config" := by
    intro f hf heq
    have hname : "--" ++ f.name = name := by simpa using List.find?_some hf
    rw [heq] at hname
    exact unnamed hname.symm
  unfold Draft.option at hd
  split at hd
  · rename_i f v hf
    cases hd
    exact ⟨h.set (hfound f hf) _, nofun⟩
  · rename_i f hf
    have htaking : ∀ f', some f = some f' → f'.name ≠ "config" := by
      rintro _ ⟨⟩
      exact hfound f hf
    split at hd
    · cases hd
      exact ⟨h.set (hfound f hf) _, htaking⟩
    · cases hd
      exact ⟨h.lookup, htaking⟩
  · cases hd
  · split at hd
    · cases hd
    · cases hd
      exact ⟨h.lookup, nofun⟩

theorem Draft.Unnamed.step (h : d.Unnamed) {w : String} (unnamed : ¬NamesConfig w)
    (hd : d.step fields w = .ok d') : d'.Unnamed := by
  unfold Draft.step at hd
  split at hd
  · cases hd
    exact h
  · split at hd
    · cases hd
      exact h.value w
    · split at hd
      · cases hd
      · split at hd
        · rename_i name attached hword
          exact h.option (ofString_ne_config hword unnamed) hd
        · cases hd
          exact ⟨h.lookup, h.taking⟩
        · cases hd
          exact ⟨h.lookup, nofun⟩

theorem Draft.Unnamed.foldlM {words : List String} (h : d.Unnamed)
    (unnamed : ∀ w ∈ words, ¬NamesConfig w) (hd : words.foldlM (Draft.step fields) d = .ok d') :
    d'.Unnamed := by
  induction words generalizing d with
  | nil =>
    cases hd
    exact h
  | cons w words ih =>
    rw [List.foldlM_cons] at hd
    rcases hstep : d.step fields w with e | d1
    · rw [hstep] at hd
      cases hd
    · rw [hstep] at hd
      exact ih (h.step (unnamed w List.mem_cons_self) hstep)
        (fun v hv => unnamed v (List.mem_cons_of_mem w hv)) hd

end Steps

theorem findAction_suffix {words rest : List String} {stray stray' : Bool} {name : String}
    (h : findAction stray words = .ok (name, rest, stray')) : rest <:+ words := by
  induction words generalizing stray with
  | nil => cases h
  | cons w words ih =>
    unfold findAction at h
    split at h
    · cases h
      exact List.suffix_cons w _
    · cases h
    · exact (ih h).trans (List.suffix_cons w words)
    · cases h

/-- A command line that does not name a configuration has the default one. -/
theorem config_of_ofWords {words : List String} {r : Request} (h : Request.ofWords words = .ok r)
    (unnamed : ∀ w ∈ words, ¬NamesConfig w) : r.config = Config.defaultPath := by
  unfold Request.ofWords at h
  rcases hfind : findAction false (words.map respell) with e | ⟨name, rest, stray⟩
  · rw [hfind] at h
    cases h
  rw [hfind] at h
  rcases hfields : actionFields.lookup name with _ | fields
  · simp only [hfields, bind, Except.bind] at h
    cases h
  rcases hfold : rest.foldlM (Draft.step fields) { stray } with e | d
  · simp only [hfields, hfold, bind, Except.bind] at h
    cases h
  simp only [hfields, hfold, bind, Except.bind] at h
  have hrest : ∀ w ∈ rest, ¬NamesConfig w := by
    intro w hw hnames
    obtain ⟨v, hv, rfl⟩ := List.mem_map.1 ((findAction_suffix hfind).subset hw)
    exact unnamed v hv (namesConfig_of_respell hnames)
  have hstart : Draft.Unnamed { stray } := ⟨rfl, nofun⟩
  have hd : d.Unnamed := hstart.foldlM hrest hfold
  unfold Draft.request at h
  rw [hd.lookup] at h
  split at h
  · cases h
  · rcases haction : d.action name with e | a
    · rw [haction] at h
      cases h
    · rw [haction] at h
      cases h
      rfl

/-! ## What is found -/

/-- A file that sets another executable. -/
def otherFile : Config.Entry :=
  .file (Text.Utf8.encode "driver:\n  base_command: other\n".toList)

/-- The files of a directory with this file in one place and nothing else. -/
def otherAt (path : String) : Config.Files := fun p => if p = path then otherFile else .missing

theorem load_otherAt (path : String) :
    Config.load (otherAt path) path = .ok { settings := { command := "other" } } := by
  have hbytes : Config.ofBytes (Text.Utf8.encode "driver:\n  base_command: other\n".toList) =
      .ok { settings := { command := "other" } } := by decide +kernel
  unfold Config.load otherAt
  rw [if_pos rfl]
  exact hbytes

theorem load_otherAt_of_ne {path p : String} (h : p ≠ path) :
    Config.load (otherAt path) p = .error (.missing p) := by
  unfold Config.load otherAt
  rw [if_neg h]

/-- Where a configuration loads it does not matter whether it has to be there. -/
theorem loadSettings_of_load {files : Config.Files} {path : String} {c : Config}
    (h : Config.load files path = .ok c) (dryRun : Option Bool) (required : Bool) :
    Config.loadSettings files path dryRun required =
      .ok { c.settings with dryRun := dryRun.getD c.settings.dryRun } := by
  unfold Config.loadSettings Config.loadOrDefault
  cases required <;> rw [h] <;> rfl

/-- A command line that names no configuration has the settings at the default path, whatever the
environment says. These are the settings that are found when nothing is given, in every directory
where that configuration loads, exactly if the environment leads to the default path too. -/
theorem unnamed_settings {words : List String} {r : Request} (h : Request.ofWords words = .ok r)
    (unnamed : ∀ w ∈ words, ¬NamesConfig w) (environment : Option String) :
    let dryRun := if r.dryRun then some true else none
    let found := Config.location none environment
    (∀ files, r.settings files = Config.loadSettings files (Config.location none none) dryRun false) ∧
      ((∀ files required, (∃ c, Config.load files found = .ok c) →
          r.settings files = Config.loadSettings files found dryRun required) ↔
        found = Config.location none none) := by
  intro dryRun found
  have hsettings : ∀ files, r.settings files =
      Config.loadSettings files (Config.location none none) dryRun false := by
    intro files
    unfold Request.settings
    rw [config_of_ofWords h unnamed]
    rfl
  refine ⟨hsettings, fun agree => ?_, fun same files required hload => ?_⟩
  · -- a directory with one file at the path that is found tells the two places apart
    by_contra hne
    have hother := agree (otherAt found) false ⟨_, load_otherAt found⟩
    rw [hsettings, loadSettings_of_load (load_otherAt found), Config.loadSettings,
      Config.loadOrDefault, if_neg Bool.false_ne_true, load_otherAt_of_ne (Ne.symm hne)] at hother
    have hcommand : "gcloud" = "other" := congrArg Settings.command (Except.ok.inj hother)
    exact absurd hcommand (by decide)
  · obtain ⟨c, hc⟩ := hload
    rw [hsettings, ← same, loadSettings_of_load hc, loadSettings_of_load hc]

/-- A command line whose environment spells out the default path. -/
theorem unnamed_settings_spelled :
    ∃ r : Request, Request.ofWords ["delete", "--name", "c", "--region", "r", "--dry-run"] = .ok r ∧
      ∀ required, r.settings (otherAt "gcloud-driver.yaml") =
        Config.loadSettings (otherAt "gcloud-driver.yaml")
          (Config.location none (some ".//gcloud-driver.yaml")) (some true) required := by
  have hwords : Request.ofWords ["delete", "--name", "c", "--region", "r", "--dry-run"] =
      .ok { action := .delete "c" (some "r") [], dryRun := true } := by decide +kernel
  have hplace : Config.location none (some ".//gcloud-driver.yaml") = Config.location none none := by
    decide +kernel
  refine ⟨_, hwords, fun required => ?_⟩
  refine (unnamed_settings hwords (by decide) (some ".//gcloud-driver.yaml")).2.2 hplace _ required ?_
  rw [hplace]
  exact ⟨_, load_otherAt _⟩

/-- The environment names a file that loads, and a command line that names none does not read it. -/
theorem environment_unread :
    let files := otherAt "other.yaml"
    let found := Config.location none (some "other.yaml")
    ∃ r : Request, Request.ofWords ["delete", "--name", "c", "--region", "r"] = .ok r ∧
      Config.load files found = .ok { settings := { command := "other" } } ∧
      r.settings files = .ok {} ∧
      Config.loadSettings files found none false = .ok { command := "other" } := by
  intro files found
  have hwords : Request.ofWords ["delete", "--name", "c", "--region", "r"] =
      .ok { action := .delete "c" (some "r") [] } := by decide +kernel
  have hfound : found = "other.yaml" := by decide +kernel
  have hload : Config.load files found = .ok { settings := { command := "other" } } := by
    rw [hfound]
    exact load_otherAt "other.yaml"
  refine ⟨_, hwords, hload, ?_, loadSettings_of_load hload none false⟩
  have hmissing : Config.load files (Config.normalizePath Config.defaultPath) = .error _ :=
    load_otherAt_of_ne (by decide +kernel)
  unfold Request.settings Config.loadSettings Config.loadOrDefault
  rw [if_neg Bool.false_ne_true]
  simp only
  rw [hmissing]
  rfl

end ClusterPilot.CommandLine
