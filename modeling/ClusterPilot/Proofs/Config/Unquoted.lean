/-
Settings that are written without quotes. A word that has the form of a boolean, a number or a date
is refused where a text is asked for, and so is one that is no scalar; any other word is taken as it
is written, apart from the words for nothing.
-/
import ClusterPilot.Proofs.Checked
import ClusterPilot.Proofs.Config.Reading

namespace ClusterPilot.Config

open Yaml (IsKey IsWord Layout Line Part Tag isWordChar)

/-! ## Settings that are texts -/

/-- The settings that are texts. -/
inductive TextSetting where
  | command
  | account
  | region
  | project
  deriving DecidableEq, Repr

namespace TextSetting

/-- The name under which a setting is written. -/
def name : TextSetting → String
  | command => "base_command"
  | account => "account"
  | region => "default_region"
  | project => "default_project"

/-- Whether a setting may be nothing. -/
def isNullable : TextSetting → Bool
  | command => false
  | account | region | project => true

/-- What settings hold. -/
def get (f : TextSetting) (s : Settings) : Option String :=
  match f with
  | command => some s.command
  | account => s.account
  | region => s.region
  | project => s.project

/-- How the data of a setting is read. -/
def read (f : TextSetting) (d : Data) : Checked (Option String) :=
  if f.isNullable then textOrNull d else (text d).map some

/-- The configuration in which one setting may be another than the default. -/
def config (f : TextSetting) (value : Option String) : Config :=
  match f, value with
  | command, some s => { settings := { command := s } }
  | command, none => {}
  | account, s => { settings := { account := s } }
  | region, s => { settings := { region := s } }
  | project, s => { settings := { project := s } }

/-- What is written with one setting. -/
def written (f : TextSetting) (s : String) (closed : Bool) : List Char :=
  ("driver:\n  " ++ f.name ++ ": " ++ s ++ if closed then "\n" else "").toList

theorem get_config (f : TextSetting) (s : String) : f.get (f.config (some s)).settings = some s := by
  cases f <;> rfl

theorem isKey (f : TextSetting) : IsKey f.name.toList := by
  cases f <;> decide

/-- A configuration whose only entry is a setting. -/
theorem ofDataOrVoid_eq (f : TextSetting) (d : Data) (c : Config) :
    ofDataOrVoid (.mapping [(.text "driver", .mapping [(.text f.name, d)])]) = .ok c ↔
      ∃ value, f.read d = .ok value ∧ c = f.config value := by
  have hsettings : ofDataOrVoid (.mapping [(.text "driver", .mapping [(.text f.name, d)])]) =
      (((f.read d).within (.key f.name)).within (.key "driver")).map f.config := by
    cases f with
    | command =>
      simp only [ofDataOrVoid, Data.isVoid, List.isEmpty_cons, Bool.false_eq_true, if_false]
      simp [ofData, record, readConfig, setting, Data.find?, readSettings, name, read, isNullable]
      cases text d with
      | ok s => rfl
      | faulty e es =>
        simp [Checked.map_faulty, Checked.ok_seq_faulty, Checked.faulty_seq_ok, Checked.map,
          Checked.within]
    | _ =>
      simp only [ofDataOrVoid, Data.isVoid, List.isEmpty_cons, Bool.false_eq_true, if_false]
      simp [ofData, record, readConfig, setting, Data.find?, readSettings, name, read, isNullable]
      cases textOrNull d with
      | ok s => rfl
      | faulty e es =>
        simp [Checked.ok_seq_faulty, Checked.faulty_seq_ok, Checked.map, Checked.within]
  rw [hsettings, Checked.map_eq_ok_iff]
  simp only [Checked.within_eq_ok_iff]
  constructor
  · rintro ⟨value, hvalue, rfl⟩
    exact ⟨value, hvalue, rfl⟩
  · rintro ⟨value, hvalue, rfl⟩
    exact ⟨value, hvalue, rfl⟩

end TextSetting

/-- The words for nothing that need no quotes. -/
theorem ofPlain_eq_null_iff {s : String} (h : IsWord s.toList) :
    Tag.ofPlain s.toList = .null ↔ s ∈ ["null", "Null", "NULL"] := by
  constructor
  · intro htag
    have hlast : s.toList.getLast? ≠ some '\n' := fun hfeed =>
      absurd (h.chars '\n' (List.mem_of_getLast? hfeed)) (by decide)
    rw [Tag.ofPlain_eq hlast] at htag
    have hmem : s ∈ ["", "~", "null", "Null", "NULL"] := by
      have := Tag.mem_nullWords htag
      rwa [String.ofList_toList] at this
    simp only [List.mem_cons, List.not_mem_nil, or_false] at hmem
    rcases hmem with rfl | rfl | rfl | rfl | rfl
    · exact absurd rfl h.nonempty
    · exact absurd (h.chars '~' (by decide)) (by decide)
    all_goals decide
  · intro hs
    have hall : ∀ w ∈ ["null", "Null", "NULL"], Tag.ofPlain w.toList = .null := by decide
    exact hall s hs

/-- What a word is read as where a text is asked for. -/
theorem read_ofPlain (f : TextSetting) {s : String} (h : IsWord s.toList) (value : Option String) :
    (∃ d, Yaml.ScalarData.ofText (Tag.ofPlain s.toList) s.toList = .ok d ∧ f.read d = .ok value) ↔
      Tag.ofPlain s.toList = .text ∧ value = some s ∨
      f.isNullable = true ∧ s ∈ ["null", "Null", "NULL"] ∧ value = none := by
  -- forms of which no data is a text
  have hrefused {α : Type} {r : Except Yaml.Error α} (make : α → Data)
      (hmake : ∀ a v, f.read (make a) ≠ .ok v) :
      ¬∃ d, make <$> r = .ok d ∧ f.read d = .ok value := by
    rintro ⟨d, hd, hread⟩
    cases r with
    | error e => cases hd
    | ok a =>
      cases hd
      exact hmake a value hread
  rw [← ofPlain_eq_null_iff h]
  cases htag : Tag.ofPlain s.toList with
  | text =>
    have hread : f.read (.text (String.ofList s.toList)) = .ok (some s) := by
      rw [String.ofList_toList]
      cases f <;> rfl
    constructor
    · rintro ⟨d, ⟨⟩, hd⟩
      rw [hread] at hd
      cases hd
      exact .inl ⟨rfl, rfl⟩
    · rintro (⟨-, rfl⟩ | ⟨-, hnull, -⟩)
      · exact ⟨_, rfl, hread⟩
      · cases hnull
  | null =>
    constructor
    · rintro ⟨d, ⟨⟩, hd⟩
      cases f <;> cases hd <;> exact .inr ⟨rfl, rfl, rfl⟩
    · rintro (⟨⟨⟩, -⟩ | ⟨hnullable, -, rfl⟩)
      refine ⟨.null, rfl, ?_⟩
      cases f <;> first | rfl | cases hnullable
  | bool =>
    refine iff_of_false (hrefused Data.bool fun b v => ?_) (by simp)
    cases f <;> exact nofun
  | integer =>
    refine iff_of_false (hrefused Data.integer fun i v => ?_) (by simp)
    cases f <;> exact nofun
  | number =>
    refine iff_of_false (hrefused Data.number fun x v => ?_) (by simp)
    cases f <;> exact nofun
  | date =>
    refine iff_of_false (hrefused (fun _ => Data.date) fun u v => ?_) (by simp)
    cases f <;> exact nofun
  | binary => exact absurd htag (Tag.ofPlain_ne_binary _)
  | _ =>
    refine iff_of_false ?_ (by simp)
    rintro ⟨d, ⟨⟩, -⟩

theorem load_word {f : TextSetting} {s : String} (h : IsWord s.toList) {closed : Bool}
    {files : Files} {path : String}
    (hfile : files path = .file (Text.Utf8.encode (f.written s closed))) (c : Config) :
    load files path = .ok c ↔ Tag.ofPlain s.toList = .text ∧ c = f.config (some s) ∨
      f.isNullable = true ∧ s ∈ ["null", "Null", "NULL"] ∧ c = f.config none := by
  let line : Line := ⟨f.name.toList, s.toList, true, s.toList, f.isKey, .word h⟩
  have hdriver : IsKey "driver".toList := by decide
  let layout : Layout := ⟨2, 1, closed, by decide, by decide⟩
  have htext : layout.text [.group "driver".toList hdriver line []] = f.written s closed := by
    cases closed <;> simp [Layout.text, Part.entry, Line.entry, Yaml.Entry.text, Yaml.Entry.below,
      TextSetting.written, layout, line]
  have hdata : layout.data [.group "driver".toList hdriver line []] =
      line.data.map fun d => .mapping [(.text "driver", .mapping [(.text f.name, d)])] := by
    have hname : Tag.ofPlain f.name.toList = .text := by cases f <;> decide
    have hroot : Tag.ofPlain "driver".toList = .text := by decide
    have hline : Yaml.Entry.mappingData [line.entry layout] =
        line.data.map fun d => [(.text f.name, d)] := mappingData_singleton f.isKey hname rfl
    have hgroup : (Part.entry layout (.group "driver".toList hdriver line [])).bodyData =
        line.data.map fun d => .mapping [(.text f.name, d)] := by
      show Data.mapping <$> Yaml.Entry.mappingData [line.entry layout] = _
      rw [hline]
      cases line.data <;> rfl
    show Data.mapping <$> Yaml.Entry.mappingData [_] = _
    rw [mappingData_singleton hdriver hroot rfl, hgroup]
    cases line.data <;> rfl
  rw [← htext] at hfile
  rw [load_outline hfile, hdata]
  have hread := read_ofPlain f h
  constructor
  · rintro ⟨d, hd, hc⟩
    obtain ⟨v, hv, rfl⟩ := map_ok hd
    obtain ⟨value, hvalue, rfl⟩ := (f.ofDataOrVoid_eq v c).1 hc
    rcases (hread value).1 ⟨v, hv, hvalue⟩ with ⟨htag, rfl⟩ | ⟨hnull, hword, rfl⟩
    · exact .inl ⟨htag, rfl⟩
    · exact .inr ⟨hnull, hword, rfl⟩
  · intro hc
    obtain ⟨value, hvalue, rfl⟩ : ∃ value, (Tag.ofPlain s.toList = .text ∧ value = some s ∨
        f.isNullable = true ∧ s ∈ ["null", "Null", "NULL"] ∧ value = none) ∧ c = f.config value := by
      rcases hc with ⟨htag, hc⟩ | ⟨hnull, hword, hc⟩
      · exact ⟨some s, .inl ⟨htag, rfl⟩, hc⟩
      · exact ⟨none, .inr ⟨hnull, hword, rfl⟩, hc⟩
    obtain ⟨v, hv, hvalue⟩ := (hread value).2 hvalue
    refine ⟨_, ?_, (f.ofDataOrVoid_eq v _).2 ⟨value, hvalue, rfl⟩⟩
    show line.data.map _ = _
    rw [show line.data = .ok v from hv]
    rfl

/-- A lone dash is the sign of an entry and stands where none may. -/
theorem load_dash {f : TextSetting} {closed : Bool} {files : Files} {path : String}
    (hfile : files path = .file (Text.Utf8.encode (f.written "-" closed))) :
    load files path = .error (.notReadable .misplacedEntry) := by
  have hall : ∀ closed, ofBytes (Text.Utf8.encode (f.written "-" closed)) =
      .error (.notReadable .misplacedEntry) := by
    cases f <;> decide +kernel
  unfold load
  rw [hfile]
  exact hall closed

/-- A setting without quotes is what is written, or nothing where nothing is written, or refused. -/
theorem load_unquoted {f : TextSetting} {s : String} (nonempty : s ≠ "")
    (chars : ∀ x ∈ s.toList, isWordChar x = true) {closed : Bool} {files : Files} {path : String}
    (hfile : files path = .file (Text.Utf8.encode (f.written s closed))) :
    (∀ c, load files path = .ok c → f.get c.settings = some s ∨
      f.get c.settings = none ∧ f.isNullable = true ∧ s ∈ ["null", "Null", "NULL"]) ∧
    ((∃ c, load files path = .ok c) ↔ s ≠ "-" ∧ Tag.ofPlain s.toList = .text ∨
      f.isNullable = true ∧ s ∈ ["null", "Null", "NULL"]) := by
  by_cases hdash : s = "-"
  · subst hdash
    have hload := load_dash hfile
    refine ⟨fun c hc => ?_, iff_of_false ?_ (by simp)⟩
    · rw [hload] at hc
      cases hc
    · rintro ⟨c, hc⟩
      rw [hload] at hc
      cases hc
  · have hword : IsWord s.toList := by
      refine ⟨fun hnil => nonempty (String.toList_injective hnil), chars, fun heq => hdash ?_⟩
      exact String.toList_injective heq
    have hiff := load_word hword hfile
    refine ⟨fun c hc => ?_, ?_⟩
    · rcases (hiff c).1 hc with ⟨-, rfl⟩ | ⟨hnullable, hnull, rfl⟩
      · exact .inl (f.get_config s)
      · refine .inr ⟨?_, hnullable, hnull⟩
        cases f <;> first | rfl | cases hnullable
    · constructor
      · rintro ⟨c, hc⟩
        rcases (hiff c).1 hc with ⟨htag, -⟩ | ⟨hnullable, hnull, -⟩
        · exact .inl ⟨hdash, htag⟩
        · exact .inr ⟨hnullable, hnull⟩
      · rintro (⟨-, htag⟩ | ⟨hnullable, hnull⟩)
        · exact ⟨_, (hiff _).2 (.inl ⟨htag, rfl⟩)⟩
        · exact ⟨_, (hiff _).2 (.inr ⟨hnullable, hnull, rfl⟩)⟩

/-- A word that starts like a number. -/
theorem load_unquoted_project :
    ∃ c, load (fun _ => .file (Text.Utf8.encode "driver:\n  default_project: 0x1g-2\n".toList))
      "gcloud-driver.yaml" = .ok c ∧ c.settings.project = some "0x1g-2" := by
  let files : Files := fun _ =>
    .file (Text.Utf8.encode "driver:\n  default_project: 0x1g-2\n".toList)
  have hfile : files "gcloud-driver.yaml" =
      .file (Text.Utf8.encode (TextSetting.project.written "0x1g-2" true)) := rfl
  obtain ⟨hsame, hloads⟩ := load_unquoted (by decide) (List.all_eq_true.1 (by decide)) hfile
  obtain ⟨c, hc⟩ := hloads.2 (.inl ⟨by decide, by decide⟩)
  refine ⟨c, hc, ?_⟩
  rcases hsame c hc with hproject | ⟨-, -, hnull⟩
  · exact hproject
  · exact absurd hnull (by decide)

end ClusterPilot.Config
