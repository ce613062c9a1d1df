/-
Configurations that are written out. A text is written between double quotes, nothing as `null` and
a boolean as `true` or `false`; the entries stand in any order, those that hold a default may be
left out, and entries with other keys may be added. What is loaded is the configuration that was
written.
-/
import ClusterPilot.Proofs.Config.Reading
import Mathlib.Data.List.Nodup

namespace ClusterPilot.Config

open Yaml (IsKey Layout Line Part Tag TextSpelled)

/-! ## Lines -/

/-- The line writes a piece of data. -/
def Spells (l : Line) : Data → Prop
  | .text s => l.plain = false ∧ l.content = s.toList
  | .null => l.plain = true ∧ l.content = "null".toList
  | .bool b => l.plain = true ∧ l.content = (if b then "true" else "false").toList
  | _ => False

theorem Spells.data_eq {l : Line} {d : Data} (h : Spells l d) : l.data = .ok d := by
  unfold Spells at h
  unfold Line.data
  cases d with
  | text s =>
    rw [h.1, h.2]
    show Except.ok (Data.text (String.ofList s.toList)) = _
    rw [String.ofList_toList]
  | null =>
    rw [h.1, h.2]
    rfl
  | bool b =>
    rw [h.1, h.2]
    cases b <;> rfl
  | _ => exact h.elim

/-! ## Records -/

/-- The lines write some fields, apart from those that hold their defaults, and may have other
keys. -/
structure Records (fields defaults : List (String × Data)) (ls : List Line) : Prop where
  lines : ∀ l ∈ ls, (∃ f ∈ fields, l.key = f.1.toList ∧ Spells l f.2) ∨
    (∀ f ∈ fields, l.key ≠ f.1.toList) ∧ l.plain = false
  missing : ∀ f ∈ fields, (∃ l ∈ ls, l.key = f.1.toList) ∨ f ∈ defaults

/-- A text or nothing. -/
def nullable : Option String → Data
  | none => .null
  | some s => .text s

/-- The fields of settings. -/
def settingFields (s : Settings) : List (String × Data) := [
  ("base_command", .text s.command), ("account", nullable s.account), ("dry_run", .bool s.dryRun),
  ("verbose", .bool s.verbose), ("default_region", nullable s.region),
  ("default_project", nullable s.project)]

theorem nodup_settingFields (s : Settings) : ((settingFields s).map Prod.fst).Nodup := by
  show ["base_command", "account", "dry_run", "verbose", "default_region",
    "default_project"].Nodup
  decide

theorem textOrNull_nullable (s : Option String) : textOrNull (nullable s) = .ok s := by
  cases s <;> rfl

theorem nullable_inj {s t : Option String} (h : nullable s = nullable t) : s = t := by
  cases s <;> cases t <;> simp_all [nullable]

section Records

variable {fields defaults : List (String × Data)} {ls : List Line} {layout : Layout}
  {entries : List (Data × Data)}

theorem Records.exists_data (h : Records fields defaults ls) (layout : Layout) :
    ∃ entries, Yaml.Entry.mappingData (ls.map (Line.entry layout)) = .ok entries := by
  refine exists_mappingData fun e he => ?_
  obtain ⟨l, hl, rfl⟩ := List.mem_map.1 he
  refine ⟨l.isKey, ?_⟩
  rcases h.lines l hl with ⟨f, -, -, hspells⟩ | ⟨-, hquoted⟩
  · exact ⟨_, hspells.data_eq⟩
  · refine ⟨.text (String.ofList l.content), ?_⟩
    show l.data = _
    unfold Line.data
    rw [hquoted]
    rfl

/-- What is read of a field. -/
theorem Records.setting_eq {α : Type} {name : String} {d : Data} {value default : α}
    {read : Data → Checked α} (h : Records fields defaults ls)
    (hdata : Yaml.Entry.mappingData (ls.map (Line.entry layout)) = .ok entries)
    (distinct : (fields.map Prod.fst).Nodup) (hname : Tag.ofPlain name.toList = .text)
    (hfield : (name, d) ∈ fields) (hread : read d = .ok value)
    (hdefault : (name, d) ∈ defaults → value = default) :
    setting name default read entries = .ok value := by
  refine Config.setting_eq hdata (fun e he => ?_) hname (fun e he hkey => ?_) ?_
  · obtain ⟨l, -, rfl⟩ := List.mem_map.1 he
    exact l.isKey
  · obtain ⟨l, hl, rfl⟩ := List.mem_map.1 he
    rcases h.lines l hl with ⟨f, hf, hkey', hspells⟩ | ⟨hother, -⟩
    · have hsame : f = (name, d) := by
        refine List.inj_on_of_nodup_map distinct hf hfield ?_
        exact String.toList_injective (hkey'.symm.trans hkey)
      rw [hsame] at hspells
      exact ⟨d, hspells.data_eq, hread⟩
    · exact absurd hkey (hother _ hfield)
  · rcases h.missing _ hfield with ⟨l, hl, hkey⟩ | hmem
    · exact .inl ⟨l.entry layout, List.mem_map_of_mem hl, hkey⟩
    · exact .inr (hdefault hmem)

end Records

/-- Settings are read when each of their fields is; a field with its default need not be there. -/
theorem readSettings_of_fields {s : Settings} {entries : List (Data × Data)}
    (h : ∀ {α : Type} {name : String} {d : Data} {value default : α} {read : Data → Checked α},
      (name, d) ∈ settingFields s → read d = .ok value →
      ((name, d) ∈ settingFields {} → value = default) →
        setting name default read entries = .ok value) :
    readSettings entries = .ok s := by
  have hcommand : setting "base_command" "gcloud" text entries = .ok s.command :=
    h (by simp [settingFields]) (d := .text s.command) rfl fun hmem => by
      simpa [settingFields] using hmem
  have haccount : setting "account" none textOrNull entries = .ok s.account :=
    h (by simp [settingFields]) (textOrNull_nullable _) fun hmem =>
      nullable_inj (by simpa [settingFields] using hmem)
  have hdryRun : setting "dry_run" false bool entries = .ok s.dryRun :=
    h (by simp [settingFields]) (d := .bool s.dryRun) rfl fun hmem => by
      simpa [settingFields] using hmem
  have hverbose : setting "verbose" false bool entries = .ok s.verbose :=
    h (by simp [settingFields]) (d := .bool s.verbose) rfl fun hmem => by
      simpa [settingFields] using hmem
  have hregion : setting "default_region" none textOrNull entries = .ok s.region :=
    h (by simp [settingFields]) (textOrNull_nullable _) fun hmem =>
      nullable_inj (by simpa [settingFields] using hmem)
  have hproject : setting "default_project" none textOrNull entries = .ok s.project :=
    h (by simp [settingFields]) (textOrNull_nullable _) fun hmem =>
      nullable_inj (by simpa [settingFields] using hmem)
  unfold readSettings
  simp only [hcommand, haccount, hdryRun, hverbose, hregion, hproject, Checked.map_ok,
    Checked.seq_ok]

/-- The names of settings need no quotes. -/
theorem ofPlain_of_mem_settingFields {s : Settings} {name : String} {d : Data}
    (h : (name, d) ∈ settingFields s) : Tag.ofPlain name.toList = .text := by
  have hall : ∀ name ∈ ["base_command", "account", "dry_run", "verbose", "default_region",
      "default_project"], Tag.ofPlain name.toList = .text := by decide
  exact hall name (List.mem_map_of_mem (f := Prod.fst) h)

/-- The settings that lines write are read back. -/
theorem readSettings_of_records {s : Settings} {ls : List Line} {layout : Layout}
    {entries : List (Data × Data)} (h : Records (settingFields s) (settingFields {}) ls)
    (hdata : Yaml.Entry.mappingData (ls.map (Line.entry layout)) = .ok entries) :
    readSettings entries = .ok s := by
  refine readSettings_of_fields fun hfield hread hdefault => ?_
  exact h.setting_eq hdata (nodup_settingFields s) (ofPlain_of_mem_settingFields hfield) hfield
    hread hdefault

/-! ## Configurations -/

/-- A part of what is written for a configuration. -/
inductive PartOf (c : Config) : Part → Prop
  | version {l : Line} (key : l.key = "version".toList) (h : Spells l (.text c.version)) :
    PartOf c (.line l)
  | settings {key : List Char} {isKey : IsKey key} {first : Line} {more : List Line}
    (driver : key = "driver".toList)
    (h : Records (settingFields c.settings) (settingFields {}) (first :: more)) :
    PartOf c (.group key isKey first more)
  | other {l : Line} (version : l.key ≠ "version".toList) (driver : l.key ≠ "driver".toList)
    (quoted : l.plain = false) : PartOf c (.line l)

/-- The parts write a configuration; a version or settings that are left out are the default
ones. -/
structure Written (c : Config) (ps : List Part) : Prop where
  parts : ∀ p ∈ ps, PartOf c p
  version : (∃ l, Part.line l ∈ ps ∧ l.key = "version".toList) ∨ c.version = ({} : Config).version
  settings : (∃ key isKey first more, Part.group key isKey first more ∈ ps) ∨
    c.settings = ({} : Config).settings

section

variable {c : Config} {ps : List Part}

/-- A group of lines that write settings has data that holds them. -/
theorem Records.group {s : Settings} {first : Line} {more : List Line}
    (h : Records (settingFields s) (settingFields {}) (first :: more)) (layout : Layout)
    {key : List Char} {isKey : IsKey key} :
    ∃ d, ((Part.group key isKey first more).entry layout).bodyData = .ok d ∧
      record readSettings d = .ok s := by
  obtain ⟨entries, hentries⟩ := h.exists_data layout
  refine ⟨.mapping entries, ?_, readSettings_of_records h hentries⟩
  show Data.mapping <$> Yaml.Entry.mappingData _ = _
  rw [hentries]
  rfl

theorem PartOf.exists_data {p : Part} (h : PartOf c p) (layout : Layout) :
    ∃ d, (p.entry layout).bodyData = .ok d := by
  cases h with
  | version key h => exact ⟨_, h.data_eq⟩
  | settings driver h =>
    obtain ⟨d, hd, -⟩ := h.group layout
    exact ⟨d, hd⟩
  | other version driver quoted =>
    rename_i l
    refine ⟨.text (String.ofList l.content), ?_⟩
    show l.data = _
    unfold Line.data
    rw [quoted]
    rfl

/-- The data that a written configuration is read as holds it. -/
theorem ofDataOrVoid_written (h : Written c ps) (layout : Layout) :
    ∃ d, layout.data ps = .ok d ∧ ofDataOrVoid d = .ok c := by
  cases ps with
  | nil =>
    have hversion : c.version = ({} : Config).version := by simpa using h.version
    have hsettings : c.settings = ({} : Config).settings := by simpa using h.settings
    obtain ⟨version, settings⟩ := c
    refine ⟨.null, rfl, ?_⟩
    simp only at hversion hsettings
    rw [hversion, hsettings]
    rfl
  | cons p ps =>
    have hkeys : ∀ e ∈ (p :: ps).map (Part.entry layout), IsKey e.key := by
      intro e he
      obtain ⟨q, -, rfl⟩ := List.mem_map.1 he
      exact q.isKey layout
    obtain ⟨entries, hentries⟩ : ∃ entries, Yaml.Entry.mappingData
        ((p :: ps).map (Part.entry layout)) = .ok entries := by
      refine exists_mappingData fun e he => ⟨hkeys e he, ?_⟩
      obtain ⟨q, hq, rfl⟩ := List.mem_map.1 he
      exact (h.parts q hq).exists_data layout
    have hversion : setting "version" ({} : Config).version text entries = .ok c.version := by
      refine setting_eq hentries hkeys (by decide) (fun e he hkey => ?_) ?_
      · obtain ⟨q, hq, rfl⟩ := List.mem_map.1 he
        cases h.parts q hq with
        | version key h => exact ⟨_, h.data_eq, rfl⟩
        | settings driver h => exact absurd (driver.symm.trans hkey) (by decide)
        | other version driver quoted => exact absurd hkey version
      · rcases h.version with ⟨l, hl, hkey⟩ | hdefault
        · exact .inl ⟨_, List.mem_map_of_mem hl, hkey⟩
        · exact .inr hdefault
    have hsettings : setting "driver" ({} : Config).settings (record readSettings) entries =
        .ok c.settings := by
      refine setting_eq hentries hkeys (by decide) (fun e he hkey => ?_) ?_
      · obtain ⟨q, hq, rfl⟩ := List.mem_map.1 he
        cases h.parts q hq with
        | version key h => exact absurd (key.symm.trans hkey) (by decide)
        | settings driver h => exact h.group layout
        | other version driver quoted => exact absurd hkey driver
      · rcases h.settings with ⟨key, isKey, first, more, hgroup⟩ | hdefault
        · refine .inl ⟨_, List.mem_map_of_mem hgroup, ?_⟩
          cases h.parts _ hgroup with
          | settings driver h => exact driver
        · exact .inr hdefault
    refine ⟨.mapping entries, ?_, ?_⟩
    · show Data.mapping <$> Yaml.Entry.mappingData _ = _
      rw [hentries]
      rfl
    · have hof : ofDataOrVoid (.mapping entries) = readConfig entries := by
        cases entries <;> rfl
      rw [hof]
      unfold readConfig
      simp only [hversion, hsettings, Checked.map_ok, Checked.seq_ok]

end

/-- A written configuration loads back. -/
theorem load_written {c : Config} {ps : List Part} (h : Written c ps) (layout : Layout)
    {files : Files} {path : String} (hfile : files path = .file (Text.Utf8.encode (layout.text ps))) :
    load files path = .ok c :=
  (load_outline hfile c).2 (ofDataOrVoid_written h layout)

/-- A text with an escape, a default that is written, defaults that are left out, and an entry of
another name. -/
theorem load_written_spelled :
    load (fun _ => .file (Text.Utf8.encode
      ("driver:\n  dry_run: true\n  base_command: \"\\xe9\\\"\"\n  account: null\n" ++
        "  colour: \"1\"\nversion: \"2\"\n").toList)) "gcloud-driver.yaml" =
      .ok { version := "2", settings := { command := "é\"", dryRun := true } } := by
  have hdigit {x : Char} (h : Yaml.IsPrintable x ∧ x ≠ '"' ∧ x ≠ '\\') : TextSpelled [x] [x] :=
    .cons (.plain h.1 h.2.1 h.2.2) .nil
  have hcommand : TextSpelled "é\"".toList "\\xe9\\\"".toList :=
    .cons (.code 'x' ['e', '9'] (by decide) (List.all_eq_true.1 (by decide)) (by decide))
      (.cons (.marked (by decide)) .nil)
  let dryRun : Line := ⟨"dry_run".toList, "true".toList, true, _, by decide, .word (by decide)⟩
  let command : Line := ⟨"base_command".toList, "é\"".toList, false, _, by decide, .quoted hcommand⟩
  let account : Line := ⟨"account".toList, "null".toList, true, _, by decide, .word (by decide)⟩
  let colour : Line := ⟨"colour".toList, ['1'], false, _, by decide,
    .quoted (hdigit (by decide))⟩
  let version : Line := ⟨"version".toList, ['2'], false, _, by decide,
    .quoted (hdigit (by decide))⟩
  have hrecords : Records (settingFields { command := "é\"", dryRun := true }) (settingFields {})
      [dryRun, command, account, colour] := by
    constructor
    · intro l hl
      simp only [List.mem_cons, List.not_mem_nil, or_false] at hl
      rcases hl with rfl | rfl | rfl | rfl
      · exact .inl ⟨("dry_run", .bool true), by simp [settingFields], rfl, rfl, rfl⟩
      · exact .inl ⟨("base_command", .text "é\""), by simp [settingFields], rfl, rfl, rfl⟩
      · exact .inl ⟨("account", .null), by simp [settingFields, nullable], rfl, rfl, rfl⟩
      · refine .inr ⟨?_, rfl⟩
        have hnames : ∀ n ∈ ["base_command", "account", "dry_run", "verbose", "default_region",
            "default_project"], "colour".toList ≠ n.toList := by decide
        intro f hf
        exact hnames f.1 (List.mem_map_of_mem hf)
    · intro f hf
      simp only [settingFields, List.mem_cons, List.not_mem_nil, or_false] at hf
      rcases hf with rfl | rfl | rfl | rfl | rfl | rfl
      · exact .inl ⟨command, by simp, rfl⟩
      · exact .inl ⟨account, by simp, rfl⟩
      · exact .inl ⟨dryRun, by simp, rfl⟩
      · exact .inr (by simp [settingFields])
      · exact .inr (by simp [settingFields])
      · exact .inr (by simp [settingFields])
  have hwritten : Written { version := "2", settings := { command := "é\"", dryRun := true } }
      [.group "driver".toList (by decide) dryRun [command, account, colour],
        .line version] := by
    refine ⟨fun p hp => ?_, .inl ⟨version, by simp, rfl⟩, .inl ⟨_, _, _, _, List.mem_cons_self⟩⟩
    simp only [List.mem_cons, List.not_mem_nil, or_false] at hp
    rcases hp with rfl | rfl
    · exact .settings rfl hrecords
    · exact .version rfl ⟨rfl, rfl⟩
  exact load_written hwritten ⟨2, 1, true, by decide, by decide⟩ rfl

/-! ## Every configuration can be written -/

theorem exists_spells {key : List Char} (isKey : IsKey key) {d : Data}
    (h : (∃ s, d = .text s) ∨ d = .null ∨ ∃ b, d = .bool b) :
    ∃ l : Line, l.key = key ∧ Spells l d := by
  rcases h with ⟨s, rfl⟩ | rfl | ⟨b, rfl⟩
  · obtain ⟨cs, hcs⟩ := Yaml.exists_textSpelled s.toList
    exact ⟨⟨key, s.toList, false, _, isKey, .quoted hcs⟩, rfl, rfl, rfl⟩
  · have hnull : Yaml.IsWord "null".toList := by decide
    exact ⟨⟨key, "null".toList, true, _, isKey, .word hnull⟩, rfl, rfl, rfl⟩
  · have hword : Yaml.IsWord (if b then "true" else "false").toList := by
      cases b <;> decide
    exact ⟨⟨key, _, true, _, isKey, .word hword⟩, rfl, rfl, rfl⟩

theorem exists_lines {fields : List (String × Data)}
    (h : ∀ f ∈ fields, ∃ l : Line, l.key = f.1.toList ∧ Spells l f.2) :
    ∃ ls : List Line, ls.map Line.key = fields.map (fun f => f.1.toList) ∧
      ∀ l ∈ ls, ∃ f ∈ fields, l.key = f.1.toList ∧ Spells l f.2 := by
  induction fields with
  | nil => exact ⟨[], rfl, nofun⟩
  | cons f fields ih =>
    obtain ⟨l, hkey, hspells⟩ := h f List.mem_cons_self
    obtain ⟨ls, hkeys, hls⟩ := ih fun x hx => h x (List.mem_cons_of_mem f hx)
    refine ⟨l :: ls, by simp [hkey, hkeys], fun x hx => ?_⟩
    rcases List.mem_cons.1 hx with rfl | hx
    · exact ⟨f, List.mem_cons_self, hkey, hspells⟩
    · obtain ⟨f', hf', hrest⟩ := hls x hx
      exact ⟨f', List.mem_cons_of_mem f hf', hrest⟩

theorem exists_line_of_mem {s : Settings} {f : String × Data} (hf : f ∈ settingFields s) :
    ∃ l : Line, l.key = f.1.toList ∧ Spells l f.2 := by
  have hkeys : ∀ n ∈ ["base_command", "account", "dry_run", "verbose", "default_region",
      "default_project"], IsKey n.toList := by decide
  refine exists_spells (hkeys f.1 (List.mem_map_of_mem (f := Prod.fst) hf)) ?_
  have hnullable : ∀ t, (∃ s, nullable t = .text s) ∨ nullable t = .null := by
    rintro (_ | t)
    · exact .inr rfl
    · exact .inl ⟨t, rfl⟩
  simp only [settingFields, List.mem_cons, List.not_mem_nil, or_false] at hf
  rcases hf with rfl | rfl | rfl | rfl | rfl | rfl
  · exact .inl ⟨_, rfl⟩
  · exact (hnullable _).imp id .inl
  · exact .inr (.inr ⟨_, rfl⟩)
  · exact .inr (.inr ⟨_, rfl⟩)
  · exact (hnullable _).imp id .inl
  · exact (hnullable _).imp id .inl

/-- A configuration can be written with all of its settings, in any order. -/
theorem exists_written (c : Config) {order : List (String × Data)}
    (h : order.Perm (settingFields c.settings)) :
    ∃ version isKey first more,
      (first :: more).map Line.key = order.map (fun f => f.1.toList) ∧
      Written c [.line version, .group "driver".toList isKey first more] := by
  have hversion : IsKey "version".toList := by decide
  have hdriver : IsKey "driver".toList := by decide
  obtain ⟨version, hkey, hspells⟩ := exists_spells hversion (.inl ⟨c.version, rfl⟩)
  obtain ⟨ls, hkeys, hls⟩ := exists_lines fun f hf => exists_line_of_mem (h.mem_iff.1 hf)
  have hrecords : Records (settingFields c.settings) (settingFields {}) ls := by
    constructor
    · intro l hl
      obtain ⟨f, hf, hrest⟩ := hls l hl
      exact .inl ⟨f, h.mem_iff.1 hf, hrest⟩
    · intro f hf
      have hmem : f.1.toList ∈ ls.map Line.key := by
        rw [hkeys]
        exact List.mem_map_of_mem (f := fun f => f.1.toList) (h.mem_iff.2 hf)
      obtain ⟨l, hl, hkey⟩ := List.mem_map.1 hmem
      exact .inl ⟨l, hl, hkey⟩
  cases ls with
  | nil =>
    have hlength := h.length_eq
    have hempty : order = [] := List.map_eq_nil_iff.1 hkeys.symm
    rw [hempty] at hlength
    simp [settingFields] at hlength
  | cons first more =>
    refine ⟨version, hdriver, first, more, hkeys, fun p hp => ?_, .inl ⟨version, by simp, hkey⟩,
      .inl ⟨_, hdriver, first, more, by simp⟩⟩
    simp only [List.mem_cons, List.not_mem_nil, or_false] at hp
    rcases hp with rfl | rfl
    · exact .version hkey hspells
    · exact .settings rfl hrecords

end ClusterPilot.Config
