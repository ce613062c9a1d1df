/-
Configurations in the files of outlines. The characters of an outline are bytes by themselves, a
YAML text may hold them all, and its line ends have one spelling; so a file that holds one is read
as its data, however long it is, and a setting is found in that data exactly where a line has its
name for a key.
-/
import ClusterPilot.Config.Load
import ClusterPilot.Proofs.Checked
import ClusterPilot.Proofs.Text.Newline
import ClusterPilot.Proofs.Text.Utf8
import ClusterPilot.Proofs.Yaml.Outline
import ClusterPilot.Proofs.Yaml.Source

namespace ClusterPilot.Config

open Yaml (IsKey IsShown Layout Line Part Tag)

/-! ## Files -/

theorem unifyNewlines_eq {cs : List Char} (h : ∀ x ∈ cs, IsShown x) : Text.unifyNewlines cs = cs := by
  have hreturn : ∀ c ∈ cs, c ≠ '\r' := by
    rintro c hc rfl
    rcases h _ hc with hc | hc <;> exact absurd hc (by decide)
  have hunify := Text.unifyNewlines_append_of_ne hreturn []
  rwa [List.append_nil, Text.unifyNewlines, List.append_nil] at hunify

/-- A file that holds an outline is a configuration exactly when the data of the outline is one. -/
theorem load_outline {files : Files} {path : String} {layout : Layout} {ps : List Part}
    (h : files path = .file (Text.Utf8.encode (layout.text ps))) (c : Config) :
    load files path = .ok c ↔ ∃ d, layout.data ps = .ok d ∧ ofDataOrVoid d = .ok c := by
  have hshown := layout.isShown ps
  have hsource : Yaml.Source.ofBytes (Text.Utf8.encode (layout.text ps)) =
      ⟨layout.text ps, none⟩ := by
    have hunify := unifyNewlines_eq hshown
    have hall : (Text.unifyNewlines (layout.text ps)).all Yaml.isAllowed = true := by
      rw [hunify, List.all_eq_true]
      exact fun x hx => (hshown x hx).isAllowed
    rw [Yaml.Source.ofBytes_eq (Text.Utf8.decode?_encode _) hall, hunify]
  unfold load ofBytes
  simp only [h, hsource]
  constructor
  · intro hload
    cases hread : Yaml.read depth ⟨layout.text ps, none⟩ with
    | error e =>
      rw [hread] at hload
      cases hload
    | ok d =>
      refine ⟨d, (Yaml.read_outline layout ps d).1 hread, ?_⟩
      rw [hread] at hload
      simp only at hload
      split at hload
      · rename_i c' hc
        cases hload
        exact hc
      · cases hload
  · rintro ⟨d, hd, hc⟩
    have hread : Yaml.read depth ⟨layout.text ps, none⟩ = .ok d :=
      (Yaml.read_outline layout ps d).2 hd
    rw [hread]
    simp only [hc]

/-! ## Entries -/

/-- What is found under a name is held by an entry that has it. -/
theorem mem_of_find? {name : String} {entries : List (Data × Data)} {d : Data}
    (h : Data.find? name entries = some d) : (.text name, d) ∈ entries := by
  obtain ⟨x, hx, rfl⟩ := Option.map_eq_some_iff.1 h
  have hname := List.find?_some hx
  have hmem := List.mem_of_find?_eq_some hx
  split at hname
  · rename_i k hk
    have hkey : k = name := by simpa using hname
    have hpair : x = (.text name, x.2) := by rw [← hkey, ← hk]
    rw [← hpair]
    exact List.mem_reverse.1 hmem
  · cases hname

/-- Nothing is found only where no entry has the name. -/
theorem find?_ne_none {name : String} {entries : List (Data × Data)} {d : Data}
    (h : (.text name, d) ∈ entries) : Data.find? name entries ≠ none := by
  intro hnone
  have hall := List.find?_eq_none.1 (Option.map_eq_none_iff.1 hnone) _ (List.mem_reverse.2 h)
  simp at hall

section Entries

variable {es : List Yaml.Entry} {entries : List (Data × Data)}

/-- What the data of entries is made of. -/
theorem mem_mappingData (h : Yaml.Entry.mappingData es = .ok entries) {x : Data × Data} :
    x ∈ entries ↔ ∃ e ∈ es, Yaml.ScalarData.ofText (Tag.ofPlain e.key) e.key = .ok x.1 ∧
      e.bodyData = .ok x.2 := by
  induction es generalizing entries with
  | nil =>
    cases h
    simp
  | cons e es ih =>
    unfold Yaml.Entry.mappingData at h ih
    rw [List.mapM_cons] at h
    obtain ⟨p, hp, h⟩ := bind_ok h
    obtain ⟨k, hk, hp⟩ := bind_ok hp
    obtain ⟨d, hd, hp⟩ := bind_ok hp
    obtain ⟨more, hmore, h⟩ := bind_ok h
    cases hp
    cases h
    constructor
    · intro hx
      rcases List.mem_cons.1 hx with rfl | hx
      · exact ⟨e, List.mem_cons_self, hk, hd⟩
      · obtain ⟨e', he', hrest⟩ := (ih hmore).1 hx
        exact ⟨e', List.mem_cons_of_mem e he', hrest⟩
    · rintro ⟨e', he', hkey, hdata⟩
      rcases List.mem_cons.1 he' with rfl | he'
      · rw [hk] at hkey
        rw [hd] at hdata
        cases hkey
        cases hdata
        exact List.mem_cons_self
      · exact List.mem_cons_of_mem _ ((ih hmore).2 ⟨e', he', hkey, hdata⟩)

/-- An entry has a name exactly when its key was written so. -/
theorem key_eq_text {k : List Char} (h : IsKey k) {name : String}
    (hname : Tag.ofPlain name.toList = .text) :
    Yaml.ScalarData.ofText (Tag.ofPlain k) k = .ok (.text name) ↔ k = name.toList := by
  constructor
  · intro hk
    obtain ⟨d, hd, htext⟩ := Yaml.exists_data_of_isKey h
    rw [hd] at hk
    cases hk
    rw [htext name rfl, String.toList_ofList]
  · rintro rfl
    rw [hname]
    show Except.ok (Data.text (String.ofList name.toList)) = _
    rw [String.ofList_toList]

/-- Entries with data are a mapping with data. -/
theorem exists_mappingData {es : List Yaml.Entry}
    (h : ∀ e ∈ es, IsKey e.key ∧ ∃ d, e.bodyData = .ok d) :
    ∃ entries, Yaml.Entry.mappingData es = .ok entries := by
  induction es with
  | nil => exact ⟨[], rfl⟩
  | cons e es ih =>
    obtain ⟨more, hmore⟩ := ih fun x hx => h x (List.mem_cons_of_mem e hx)
    obtain ⟨hkey, d, hd⟩ := h e List.mem_cons_self
    obtain ⟨k, hk, -⟩ := Yaml.exists_data_of_isKey hkey
    unfold Yaml.Entry.mappingData at hmore ⊢
    rw [List.mapM_cons, hk, hd, hmore]
    exact ⟨_, rfl⟩

/-- The data of a single entry. -/
theorem mappingData_singleton {e : Yaml.Entry} {name : String} (h : IsKey e.key)
    (hname : Tag.ofPlain name.toList = .text) (hkey : e.key = name.toList) :
    Yaml.Entry.mappingData [e] = e.bodyData.map fun d => [(.text name, d)] := by
  unfold Yaml.Entry.mappingData
  rw [List.mapM_cons, (key_eq_text h hname).2 hkey]
  cases e.bodyData <;> rfl

/-- A setting, when all entries that have its name hold its value, and one has it unless the value
is the default. -/
theorem setting_eq {α : Type} {name : String} {value default : α} {read : Data → Checked α}
    (h : Yaml.Entry.mappingData es = .ok entries) (keys : ∀ e ∈ es, IsKey e.key)
    (hname : Tag.ofPlain name.toList = .text)
    (hall : ∀ e ∈ es, e.key = name.toList → ∃ d, e.bodyData = .ok d ∧ read d = .ok value)
    (hmissing : (∃ e ∈ es, e.key = name.toList) ∨ value = default) :
    setting name default read entries = .ok value := by
  unfold setting
  cases hfind : Data.find? name entries with
  | some d =>
    obtain ⟨e, he, hk, hd⟩ := (mem_mappingData h).1 (mem_of_find? hfind)
    obtain ⟨d', hd', hread⟩ := hall e he ((key_eq_text (keys e he) hname).1 hk)
    rw [hd] at hd'
    cases hd'
    simp only [hread, Checked.within_ok]
  | none =>
    rcases hmissing with ⟨e, he, hkey⟩ | rfl
    · obtain ⟨d, hd, -⟩ := hall e he hkey
      have hmem : (.text name, d) ∈ entries :=
        (mem_mappingData h).2 ⟨e, he, (key_eq_text (keys e he) hname).2 hkey, hd⟩
      exact absurd hfind (find?_ne_none hmem)
    · rfl

end Entries

end ClusterPilot.Config
