/-
Configurations are checked field by field. The faults are those of the version and then those of
the section of settings, under its name; each setting of a section contributes one fault at most,
in the order of their declaration, and nothing but the value that is found for it matters. So
entries with other keys change nothing, a configuration that is written out whole is read again as
it is, and where entries are left out their fields have the defaults and all others what they had.
-/
import ClusterPilot.Proofs.Checked
import ClusterPilot.Proofs.Config.Written

namespace ClusterPilot

namespace Checked

variable {α β : Type}

/-- What is wrong first, wherever it is. -/
def fault? : Checked α → Option FaultKind
  | .ok _ => none
  | .faulty f _ => some f.kind

/-- The check of a value without parts: it has one fault at most, and that at the value itself. -/
def IsPlain (c : Checked α) : Prop := c.faults = c.fault?.toList.map fun kind => ⟨kind, []⟩

theorem isPlain_ok (a : α) : (ok a).IsPlain := rfl

theorem isPlain_fault (kind : FaultKind) : (fault kind : Checked α).IsPlain := rfl

theorem IsPlain.map {c : Checked α} (h : c.IsPlain) (f : α → β) : (c.map f).IsPlain := by
  cases c with
  | ok a => rfl
  | faulty e es => exact h

end Checked

namespace Config

/-! ## Values of settings -/

theorem isPlain_text (d : Data) : (text d).IsPlain := by
  unfold text
  split
  · exact Checked.isPlain_ok _
  · split
    · exact Checked.isPlain_ok _
    · exact Checked.isPlain_fault _
  · exact Checked.isPlain_fault _

theorem isPlain_textOrNull (d : Data) : (textOrNull d).IsPlain := by
  unfold textOrNull
  split
  · exact Checked.isPlain_ok _
  · exact (isPlain_text _).map some

theorem isPlain_boolOfWord (s : String) : (boolOfWord s).IsPlain := by
  simp only [boolOfWord]
  split
  · exact Checked.isPlain_ok _
  · split
    · exact Checked.isPlain_ok _
    · exact Checked.isPlain_fault _

theorem isPlain_boolOfInt (n : Int) : (boolOfInt n).IsPlain := by
  unfold boolOfInt
  split
  · exact Checked.isPlain_ok _
  · split
    · exact Checked.isPlain_ok _
    · split <;> exact Checked.isPlain_fault _

theorem isPlain_bool (d : Data) : (bool d).IsPlain := by
  unfold bool
  split
  · exact Checked.isPlain_ok _
  · exact isPlain_boolOfInt _
  · split
    · exact isPlain_boolOfInt _
    · exact Checked.isPlain_fault _
  · exact isPlain_boolOfWord _
  · split
    · exact isPlain_boolOfWord _
    · exact Checked.isPlain_fault _
  · exact Checked.isPlain_fault _

/-! ## What fields contribute -/

/-- A field: its name, and what is wrong with a value of it. -/
structure Field where
  name : String
  fault? : Data → Option FaultKind

/-- What a field contributes to the faults of a mapping: nothing when it is missing. -/
def Field.contribution? (f : Field) (entries : List (Data × Data)) : Option Fault :=
  ((Data.find? f.name entries).bind f.fault?).map fun kind => ⟨kind, [.key f.name]⟩

/-- The version of a configuration. -/
def versionField : Field := ⟨"version", fun d => (text d).fault?⟩

/-- The fields of settings, in the order of their declaration. -/
def settingChecks : List Field := [
  ⟨"base_command", fun d => (text d).fault?⟩, ⟨"account", fun d => (textOrNull d).fault?⟩,
  ⟨"dry_run", fun d => (bool d).fault?⟩, ⟨"verbose", fun d => (bool d).fault?⟩,
  ⟨"default_region", fun d => (textOrNull d).fault?⟩,
  ⟨"default_project", fun d => (textOrNull d).fault?⟩]

/-- The faults of a section of settings: none when it is missing. -/
def sectionFaults : Option Data → List Fault
  | none => []
  | some (.mapping entries) => settingChecks.filterMap fun f => f.contribution? entries
  | some _ => [⟨.notRecord, []⟩]

theorem faults_setting {α : Type} {read : Data → Checked α} (h : ∀ d, (read d).IsPlain)
    (name : String) (value : α) (entries : List (Data × Data)) :
    (setting name value read entries).faults =
      (Field.contribution? ⟨name, fun d => (read d).fault?⟩ entries).toList := by
  unfold setting Field.contribution?
  cases Data.find? name entries with
  | none => rfl
  | some d =>
    show ((read d).within (.key name)).faults = (((read d).fault?).map _).toList
    rw [Checked.faults_within, h d]
    cases (read d).fault? <;> rfl

theorem faults_readSettings (entries : List (Data × Data)) :
    (readSettings entries).faults = settingChecks.filterMap fun f => f.contribution? entries := by
  simp only [readSettings, Checked.faults_seq, Checked.faults_map_apply,
    faults_setting isPlain_text, faults_setting isPlain_textOrNull, faults_setting isPlain_bool]
  simp only [settingChecks, List.filterMap_eq_flatMap_toList, List.flatMap_cons, List.flatMap_nil,
    List.append_nil, List.append_assoc]

theorem faults_section (d : Data) : (record readSettings d).faults = sectionFaults (some d) := by
  cases d with
  | mapping entries => exact faults_readSettings entries
  | _ => rfl

/-- The faults of a configuration are those of its two fields, one after the other. -/
theorem faults_readConfig (entries : List (Data × Data)) :
    (readConfig entries).faults = (versionField.contribution? entries).toList ++
      (sectionFaults (Data.find? "driver" entries)).map (Fault.within (.key "driver")) := by
  simp only [readConfig, Checked.faults_seq, Checked.faults_map_apply,
    faults_setting isPlain_text]
  congr 1
  unfold setting
  cases Data.find? "driver" entries with
  | none => rfl
  | some d =>
    simp only [Checked.faults_within, faults_section]

/-! ## What is found -/

/-- Whether an entry has a name. -/
def isNamed (name : String) (e : Data × Data) : Bool :=
  match e.1 with
  | .text k => k == name
  | _ => false

theorem isNamed_iff {name : String} {e : Data × Data} :
    isNamed name e = true ↔ e.1 = .text name := by
  obtain ⟨key, d⟩ := e
  cases key <;> simp [isNamed]

theorem find?_eq (name : String) (entries : List (Data × Data)) :
    Data.find? name entries = (entries.reverse.find? (isNamed name)).map Prod.snd := rfl

/-- Where entries are left out by their keys, a name is found as it was, or not at all. -/
theorem find?_filter (name : String) (keep : Data → Bool) (entries : List (Data × Data)) :
    Data.find? name (entries.filter fun e => keep e.1) =
      if keep (.text name) then Data.find? name entries else none := by
  have hkeep : ∀ e, isNamed name e = true → keep e.1 = keep (.text name) :=
    fun e he => congrArg keep (isNamed_iff.1 he)
  rw [find?_eq, find?_eq, ← List.filter_reverse, List.find?_filter]
  split
  · rename_i hname
    -- the entries that have the name are all kept
    congr 2
    funext e
    cases he : isNamed name e with
    | false => simp
    | true => simp [hkeep e he, hname]
  · rename_i hname
    rw [Option.map_eq_none_iff, List.find?_eq_none]
    intro e _ h
    rw [decide_eq_true_eq] at h
    exact hname (hkeep e h.2 ▸ h.1)

/-- Where values are changed, the changed one is what a name is found with. -/
theorem find?_map {name : String} {f : Data × Data → Data} {change : Data → Data}
    (h : ∀ e, isNamed name e = true → f e = change e.2) (entries : List (Data × Data)) :
    Data.find? name (entries.map fun e => (e.1, f e)) = (Data.find? name entries).map change := by
  have hnamed : (isNamed name ∘ fun e => (e.1, f e)) = isNamed name := rfl
  rw [find?_eq, find?_eq, ← List.map_reverse, List.find?_map, hnamed]
  cases hfind : entries.reverse.find? (isNamed name) with
  | none => rfl
  | some e => exact congrArg some (h e (List.find?_some hfind))

/-! ## Entries that are left out -/

/-- A section of which only the entries with some keys are left. -/
def sectionOf (keep : Data → Bool) : Data → Data
  | .mapping entries => .mapping (entries.filter fun e => keep e.1)
  | d => d

/-- The entries of a configuration with some keys, and in its section of settings those with some
keys. The keys of a mapping are distinct, so this is any part of it. -/
def entriesOf (keep keepSetting : Data → Bool) (entries : List (Data × Data)) :
    List (Data × Data) :=
  (entries.filter fun e => keep e.1).map fun e =>
    (e.1, if isNamed "driver" e then sectionOf keepSetting e.2 else e.2)

/-- Settings of which only some are kept, and the others have their defaults. -/
def settingsKept (keep : String → Bool) (s : Settings) : Settings :=
  let default : Settings := {}
  { command := if keep "base_command" then s.command else default.command
    account := if keep "account" then s.account else default.account
    dryRun := if keep "dry_run" then s.dryRun else default.dryRun
    verbose := if keep "verbose" then s.verbose else default.verbose
    region := if keep "default_region" then s.region else default.region
    project := if keep "default_project" then s.project else default.project }

/-- A configuration of which only some fields are kept, and only some of the settings. -/
def configKept (keep keepSetting : String → Bool) (c : Config) : Config :=
  let default : Config := {}
  { version := if keep "version" then c.version else default.version
    settings := if keep "driver" then settingsKept keepSetting c.settings else default.settings }

section LeftOut

variable {α : Type} {read : Data → Checked α} {name : String} {value : α}
  {entries entries' : List (Data × Data)} (keep keepSetting : Data → Bool)

theorem find?_version_entriesOf (entries : List (Data × Data)) :
    Data.find? "version" (entriesOf keep keepSetting entries) =
      if keep (.text "version") then Data.find? "version" entries else none := by
  have hsame : ∀ e, isNamed "version" e = true →
      (if isNamed "driver" e then sectionOf keepSetting e.2 else e.2) = id e.2 := by
    intro e he
    have hother : ¬ isNamed "driver" e = true := by
      rw [isNamed_iff, isNamed_iff.1 he]
      simp
    exact if_neg hother
  rw [entriesOf, find?_map hsame, find?_filter, Option.map_id_fun, id]

theorem find?_driver_entriesOf (entries : List (Data × Data)) :
    Data.find? "driver" (entriesOf keep keepSetting entries) =
      if keep (.text "driver") then (Data.find? "driver" entries).map (sectionOf keepSetting)
      else none := by
  have hchanged : ∀ e, isNamed "driver" e = true →
      (if isNamed "driver" e then sectionOf keepSetting e.2 else e.2) = sectionOf keepSetting e.2 :=
    fun e he => if_pos he
  rw [entriesOf, find?_map hchanged, find?_filter]
  split <;> rfl

theorem setting_congr (h : Data.find? name entries' = Data.find? name entries) :
    setting name value read entries' = setting name value read entries := by
  unfold setting
  rw [h]

theorem setting_of_none (h : Data.find? name entries = none) :
    setting name value read entries = .ok value := by
  unfold setting
  rw [h]

/-- A setting is what it was where its entry is left, and the default where it is not. -/
theorem setting_filter {a : α} (h : setting name value read entries = .ok a) :
    setting name value read (entries.filter fun e => keep e.1) =
      .ok (if keep (.text name) then a else value) := by
  have hfind := find?_filter name keep entries
  split at hfind
  · rename_i hkeep
    rw [if_pos hkeep, setting_congr hfind, h]
  · rename_i hkeep
    rw [if_neg hkeep, setting_of_none hfind]

theorem readSettings_congr
    (h : ∀ f ∈ settingChecks, Data.find? f.name entries' = Data.find? f.name entries) :
    readSettings entries' = readSettings entries := by
  simp only [settingChecks, List.forall_mem_cons] at h
  obtain ⟨hcommand, haccount, hdryRun, hverbose, hregion, hproject, -⟩ := h
  simp only [readSettings, setting_congr hcommand, setting_congr haccount, setting_congr hdryRun,
    setting_congr hverbose, setting_congr hregion, setting_congr hproject]

theorem settingsKept_default (keep : String → Bool) : settingsKept keep {} = {} := by
  simp only [settingsKept, ite_self]

theorem readSettings_filter {s : Settings} (h : readSettings entries = .ok s) :
    readSettings (entries.filter fun e => keep e.1) =
      .ok (settingsKept (fun name => keep (.text name)) s) := by
  simp only [readSettings, Checked.seq_eq_ok_iff, Checked.map_apply_eq_ok_iff] at h
  obtain ⟨_, _, ⟨_, _, ⟨_, _, ⟨_, _, ⟨_, _, ⟨_, hcommand, rfl⟩, haccount, rfl⟩, hdryRun, rfl⟩,
    hverbose, rfl⟩, hregion, rfl⟩, hproject, rfl⟩ := h
  simp only [readSettings, setting_filter keep hcommand, setting_filter keep haccount,
    setting_filter keep hdryRun, setting_filter keep hverbose, setting_filter keep hregion,
    setting_filter keep hproject, Checked.map_ok, Checked.seq_ok, settingsKept]

theorem record_sectionOf {d : Data} {s : Settings} (h : record readSettings d = .ok s) :
    record readSettings (sectionOf keep d) =
      .ok (settingsKept (fun name => keep (.text name)) s) := by
  cases d with
  | mapping settings => exact readSettings_filter keep h
  | _ => cases h

theorem record_sectionOf_named (hkeep : ∀ f ∈ settingChecks, keep (.text f.name) = true) (d : Data) :
    record readSettings (sectionOf keep d) = record readSettings d := by
  cases d with
  | mapping settings =>
    refine readSettings_congr fun f hf => ?_
    rw [find?_filter, if_pos (hkeep f hf)]
  | _ => rfl

/-- Entries with other keys do not matter. -/
theorem readConfig_entriesOf_named (hversion : keep (.text "version") = true)
    (hdriver : keep (.text "driver") = true)
    (hsettings : ∀ f ∈ settingChecks, keepSetting (.text f.name) = true)
    (entries : List (Data × Data)) :
    readConfig (entriesOf keep keepSetting entries) = readConfig entries := by
  have hfindVersion := find?_version_entriesOf keep keepSetting entries
  have hfindDriver := find?_driver_entriesOf keep keepSetting entries
  rw [if_pos hversion] at hfindVersion
  rw [if_pos hdriver] at hfindDriver
  have hread : setting "driver" ({} : Config).settings (record readSettings)
      (entriesOf keep keepSetting entries) =
        setting "driver" ({} : Config).settings (record readSettings) entries := by
    unfold setting
    rw [hfindDriver]
    cases Data.find? "driver" entries with
    | none => rfl
    | some d => simp only [Option.map_some, record_sectionOf_named keepSetting hsettings]
  simp only [readConfig, setting_congr hfindVersion, hread]

/-- Fields whose entries are left out have their defaults, and the others what they had. -/
theorem readConfig_entriesOf {c : Config} (h : readConfig entries = .ok c) :
    readConfig (entriesOf keep keepSetting entries) =
      .ok (configKept (fun name => keep (.text name)) (fun name => keepSetting (.text name)) c) := by
  simp only [readConfig, Checked.seq_eq_ok_iff, Checked.map_apply_eq_ok_iff] at h
  obtain ⟨_, settings, ⟨version, hversion, rfl⟩, hsettings, rfl⟩ := h
  have hversion' : setting "version" ({} : Config).version text
      (entriesOf keep keepSetting entries) =
        .ok (if keep (.text "version") then version else ({} : Config).version) := by
    rw [setting_congr ((find?_version_entriesOf keep keepSetting entries).trans
      (find?_filter "version" keep entries).symm)]
    exact setting_filter keep hversion
  have hsettings' : setting "driver" ({} : Config).settings (record readSettings)
      (entriesOf keep keepSetting entries) =
        .ok (if keep (.text "driver") then
          settingsKept (fun name => keepSetting (.text name)) settings
        else ({} : Config).settings) := by
    have hfind := find?_driver_entriesOf keep keepSetting entries
    by_cases hkeep : keep (.text "driver") = true
    · rw [if_pos hkeep] at hfind ⊢
      unfold setting at hsettings ⊢
      rw [hfind]
      cases hdriver : Data.find? "driver" entries with
      | none =>
        -- without a section all settings have their defaults already
        rw [hdriver] at hsettings
        cases hsettings
        exact congrArg Checked.ok (settingsKept_default _).symm
      | some d =>
        rw [hdriver] at hsettings
        have hread : record readSettings d = .ok settings := Checked.within_eq_ok_iff.1 hsettings
        exact Checked.within_eq_ok_iff.2 (record_sectionOf keepSetting hread)
    · rw [if_neg hkeep] at hfind ⊢
      exact setting_of_none hfind
  simp only [readConfig, hversion', hsettings', Checked.map_ok, Checked.seq_ok, configKept]

end LeftOut

/-! ## Configurations that are written out -/

/-- The entries of a mapping that has some fields. -/
def entriesWith (fields : List (String × Data)) : List (Data × Data) :=
  fields.map fun f => (.text f.1, f.2)

/-- A configuration as the entries of a mapping with all its fields. -/
def written (c : Config) : List (Data × Data) :=
  entriesWith [("version", .text c.version),
    ("driver", .mapping (entriesWith (settingFields c.settings)))]

/-- A field of a mapping is found. -/
theorem setting_entriesWith {α : Type} {name : String} {value a : α} {read : Data → Checked α}
    {fields : List (String × Data)} (distinct : (fields.map Prod.fst).Nodup) {d : Data}
    (hfield : (name, d) ∈ fields) (hread : read d = .ok a) :
    setting name value read (entriesWith fields) = .ok a := by
  have hmem : (.text name, d) ∈ entriesWith fields :=
    List.mem_map.2 ⟨(name, d), hfield, rfl⟩
  obtain ⟨d', hd'⟩ := Option.ne_none_iff_exists'.1 (find?_ne_none hmem)
  obtain ⟨f, hf, hentry⟩ := List.mem_map.1 (mem_of_find? hd')
  simp only [Prod.mk.injEq, Data.text.injEq] at hentry
  obtain ⟨hname, rfl⟩ := hentry
  have hsame : f = (name, d) := List.inj_on_of_nodup_map distinct hf hfield hname
  unfold setting
  rw [hd', hsame]
  exact Checked.within_eq_ok_iff.2 hread

theorem readSettings_written (s : Settings) :
    readSettings (entriesWith (settingFields s)) = .ok s :=
  readSettings_of_fields fun hfield hread _ =>
    setting_entriesWith (nodup_settingFields s) hfield hread

theorem readConfig_written (c : Config) : readConfig (written c) = .ok c := by
  have hdistinct : (List.map Prod.fst [("version", Data.text c.version),
      ("driver", .mapping (entriesWith (settingFields c.settings)))]).Nodup := by
    show ["version", "driver"].Nodup
    decide
  have hversion : setting "version" "1.0" text (written c) = .ok c.version :=
    setting_entriesWith hdistinct (d := .text c.version) (by simp) rfl
  have hsettings : setting "driver" {} (record readSettings) (written c) = .ok c.settings :=
    setting_entriesWith hdistinct (d := .mapping _) (by simp) (readSettings_written c.settings)
  unfold readConfig
  simp only [hversion, hsettings, Checked.map_ok, Checked.seq_ok]

/-! ## Checking a configuration -/

/-- What checking a mapping comes to. -/
structure CheckedByFields (entries : List (Data × Data)) : Prop where
  /-- The fault of the version comes first, and then those of the section under its name; those of
  a section that is a mapping are one at most for each setting. -/
  faults : (ofData (.mapping entries)).faults = (versionField.contribution? entries).toList ++
    (sectionFaults (Data.find? "driver" entries)).map (Fault.within (.key "driver"))
  ok_iff : (∃ c, ofData (.mapping entries) = .ok c) ↔ versionField.contribution? entries = none ∧
    sectionFaults (Data.find? "driver" entries) = []
  /-- Entries with other keys, in the mapping or in its section, change nothing. -/
  others : ∀ keep keepSetting : Data → Bool,
    (∀ name ∈ ["version", "driver"], keep (.text name) = true) →
    (∀ f ∈ settingChecks, keepSetting (.text f.name) = true) →
      ofData (.mapping (entriesOf keep keepSetting entries)) = ofData (.mapping entries)
  /-- A configuration that was read is read again when it is written out. -/
  again : ∀ c, ofData (.mapping entries) = .ok c → ofData (.mapping (written c)) = .ok c
  /-- Where entries are left out, their fields have the defaults and all others what they had. -/
  part : ∀ c, ofData (.mapping entries) = .ok c → ∀ keep keepSetting : Data → Bool,
    ofData (.mapping (entriesOf keep keepSetting entries)) =
      .ok (configKept (fun name => keep (.text name)) (fun name => keepSetting (.text name)) c)

/-- A configuration is checked field by field. -/
theorem ofData_by_fields (entries : List (Data × Data)) : CheckedByFields entries := by
  constructor
  case faults => exact faults_readConfig entries
  case ok_iff =>
    show (∃ c, readConfig entries = .ok c) ↔ _
    rw [← Checked.faults_eq_nil_iff, faults_readConfig, List.append_eq_nil_iff,
      Option.toList_eq_nil_iff, List.map_eq_nil_iff]
  case others =>
    intro keep keepSetting hkeep hsettings
    exact readConfig_entriesOf_named keep keepSetting (hkeep _ (by simp)) (hkeep _ (by simp))
      hsettings entries
  case again => exact fun c _ => readConfig_written c
  case part => exact fun c hc keep keepSetting => readConfig_entriesOf keep keepSetting hc

-- in the order of the fields, and not in that of the entries
example :
    let settings : Data := .mapping [(.text "verbose", .integer 2), (.text "account", .bool true)]
    (ofData (.mapping [(.text "driver", settings), (.text "version", .null)])).faults =
      [⟨.notText, [.key "version"]⟩, ⟨.notText, [.key "driver", .key "account"]⟩,
        ⟨.unreadableBoolean, [.key "driver", .key "verbose"]⟩] := by decide +kernel

end Config

end ClusterPilot
