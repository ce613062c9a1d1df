/-
Records as members of a JSON object. Each field of a record gives one member, under one of its two
spellings, or none when it may be left out; the members stand in any order. When no key spells two
fields, each field is found as it was written, whatever stands around it.
-/
import ClusterPilot.Cluster.Response
import Mathlib.Data.List.Forall2

namespace ClusterPilot

open Json (Value)

/-! ## Fields -/

/-- A key is one of the two spellings of a field. -/
def FieldName.Spells (f : FieldName) (key : String) : Prop := key = f.inResponse ∨ key = f.inWords

/-- No key spells both fields. -/
def FieldName.Apart (f g : FieldName) : Prop :=
  f.inResponse ≠ g.inResponse ∧ f.inResponse ≠ g.inWords ∧ f.inWords ≠ g.inResponse ∧
    f.inWords ≠ g.inWords

instance : Std.Symm FieldName.Apart where
  symm _ _ h := ⟨h.1.symm, h.2.2.1.symm, h.2.1.symm, h.2.2.2.symm⟩

theorem FieldName.Apart.not_spells {f g : FieldName} (h : f.Apart g) {key : String}
    (hf : f.Spells key) : ¬ g.Spells key := by
  obtain ⟨h₁, h₂, h₃, h₄⟩ := h
  rintro (hg | hg) <;> rcases hf with hf | hf
  · exact h₁ (hf.symm.trans hg)
  · exact h₃ (hf.symm.trans hg)
  · exact h₂ (hf.symm.trans hg)
  · exact h₄ (hf.symm.trans hg)

namespace Response

/-- What a record says in one of its fields: the name of the field, the values that may stand
there, and whether the member may be left out. -/
structure Field where
  name : FieldName
  values : Value → Prop
  omissible : Prop

/-- The members that a field gives. -/
inductive Field.Written (f : Field) : Members → Prop
  | member {key : String} {v : Value} (hkey : f.name.Spells key) (hv : f.values v) :
    f.Written [(key, v)]
  | omitted (h : f.omissible) : f.Written []

/-- Members that the fields of a record give, in any order. -/
def Written (fields : List Field) (ms : Members) : Prop :=
  ∃ pieces, List.Forall₂ Field.Written fields pieces ∧ ms.Perm pieces.flatten

/-- A record can be written when each of its fields has a value. -/
theorem exists_written {fields : List Field} (h : ∀ f ∈ fields, ∃ v, f.values v) :
    ∃ ms, Written fields ms := by
  induction fields with
  | nil => exact ⟨[], [], .nil, .refl _⟩
  | cons f fields ih =>
    obtain ⟨v, hv⟩ := h f List.mem_cons_self
    obtain ⟨ms, pieces, hpieces, hperm⟩ := ih fun g hg => h g (List.mem_cons_of_mem _ hg)
    exact ⟨(f.name.inResponse, v) :: ms, [(f.name.inResponse, v)] :: pieces,
      .cons (.member (.inl rfl) hv) hpieces, hperm.cons _⟩

/-! ## The members of a record -/

section Pieces

variable {f : Field} {fields : List Field} {piece : Members} {pieces : List Members}
  {m : String × Value}

theorem Field.Written.of_mem (h : f.Written piece) (hm : m ∈ piece) :
    f.name.Spells m.1 ∧ f.values m.2 := by
  cases h with
  | member hkey hv => rw [List.mem_singleton.1 hm]; exact ⟨hkey, hv⟩
  | omitted => cases hm

/-- Every member belongs to a field. -/
theorem exists_field_of_mem (h : List.Forall₂ Field.Written fields pieces)
    (hm : m ∈ pieces.flatten) : ∃ f ∈ fields, f.name.Spells m.1 ∧ f.values m.2 := by
  induction h with
  | nil => cases hm
  | cons head tail ih =>
    rw [List.flatten_cons, List.mem_append] at hm
    rcases hm with hm | hm
    · exact ⟨_, List.mem_cons_self, head.of_mem hm⟩
    · obtain ⟨f, hf, hspells⟩ := ih hm
      exact ⟨f, List.mem_cons_of_mem _ hf, hspells⟩

/-- The members under the spellings of a field are those that it gives. -/
theorem exists_piece_of_mem (h : List.Forall₂ Field.Written fields pieces)
    (hapart : (fields.map Field.name).Pairwise FieldName.Apart) (hf : f ∈ fields) :
    ∃ piece, f.Written piece ∧
      ∀ key v, f.name.Spells key → ((key, v) ∈ pieces.flatten ↔ (key, v) ∈ piece) := by
  induction h with
  | nil => cases hf
  | cons head tail ih =>
    rename_i f₀ piece fields pieces
    rw [List.map_cons, List.pairwise_cons] at hapart
    rcases List.mem_cons.1 hf with rfl | hf
    · refine ⟨piece, head, fun key v hkey => ?_⟩
      rw [List.flatten_cons, List.mem_append, or_iff_left]
      intro hm
      obtain ⟨g, hg, hspells, -⟩ := exists_field_of_mem tail hm
      exact (hapart.1 g.name (List.mem_map_of_mem hg)).not_spells hkey hspells
    · obtain ⟨piece', hpiece, hmem⟩ := ih hapart.2 hf
      refine ⟨piece', hpiece, fun key v hkey => ?_⟩
      rw [List.flatten_cons, List.mem_append, or_iff_right, hmem key v hkey]
      intro hm
      have hspells := (head.of_mem hm).1
      exact (hapart.1 f.name (List.mem_map_of_mem hf)).not_spells hspells hkey

end Pieces

/-! ## Finding a field -/

theorem last?_eq_none {ms : Members} {key : String} (h : ∀ v, (key, v) ∉ ms) :
    last? ms key = none := by
  rw [last?, List.lookup_eq_none_iff]
  rintro ⟨k, v⟩ hm
  rw [bne_iff_ne]
  rintro rfl
  exact h v (List.mem_reverse.1 hm)

theorem mem_of_last? {ms : Members} {key : String} {v : Value} (h : last? ms key = some v) :
    (key, v) ∈ ms := by
  rw [last?, List.lookup_eq_some_iff] at h
  obtain ⟨front, back, hms, -⟩ := h
  rw [← List.mem_reverse, hms]
  exact List.mem_append_right _ List.mem_cons_self

theorem exists_last?_of_mem {ms : Members} {key : String} {v : Value} (h : (key, v) ∈ ms) :
    ∃ w, last? ms key = some w := by
  cases hlast : last? ms key with
  | some w => exact ⟨w, rfl⟩
  | none =>
    rw [last?, List.lookup_eq_none_iff] at hlast
    exact absurd rfl (bne_iff_ne.1 (hlast (key, v) (List.mem_reverse.2 h)))

theorem last?_eq_some {ms : Members} {key : String} {v : Value} (hmem : (key, v) ∈ ms)
    (h : ∀ w, (key, w) ∈ ms → w = v) : last? ms key = some v := by
  obtain ⟨w, hw⟩ := exists_last?_of_mem hmem
  rw [hw, h w (mem_of_last? hw)]

/-- A field is found as it was written. -/
theorem Field.Written.find? {f : Field} {piece ms : Members} (h : f.Written piece)
    (hms : ∀ key v, f.name.Spells key → ((key, v) ∈ ms ↔ (key, v) ∈ piece)) :
    (∃ key v, find? ms f.name = some (key, v) ∧ f.values v) ∨
      find? ms f.name = none ∧ f.omissible := by
  have hnone : ∀ key, f.name.Spells key → (∀ v, (key, v) ∉ piece) → last? ms key = none :=
    fun key hkey hv => last?_eq_none fun v hm => hv v ((hms key v hkey).1 hm)
  unfold Response.find?
  cases h with
  | omitted homit =>
    rw [hnone _ (.inl rfl) (by simp), hnone _ (.inr rfl) (by simp)]
    exact .inr ⟨rfl, homit⟩
  | member hkey hv =>
    rename_i key v
    have hsome : last? ms key = some v := by
      refine last?_eq_some ((hms key v hkey).2 List.mem_cons_self) fun w hw => ?_
      have hw := List.mem_singleton.1 ((hms key w hkey).1 hw)
      exact congrArg Prod.snd hw
    -- the spelling of the response is looked up first, and finds nothing under the other one
    left
    by_cases hresponse : key = f.name.inResponse
    · rw [← hresponse, hsome]
      exact ⟨key, v, rfl, hv⟩
    · have hwords : key = f.name.inWords := hkey.resolve_left hresponse
      rw [hnone _ (.inl rfl) (by simp [Ne.symm hresponse]), ← hwords, hsome]
      exact ⟨key, v, rfl, hv⟩

section Fields

variable {fields : List Field} {ms : Members} {f : Field} {α : Type} {read : Value → Checked α}
  {a : α}

theorem Written.find? (h : Written fields ms)
    (hapart : (fields.map Field.name).Pairwise FieldName.Apart) (hf : f ∈ fields) :
    (∃ key v, find? ms f.name = some (key, v) ∧ f.values v) ∨
      find? ms f.name = none ∧ f.omissible := by
  obtain ⟨pieces, hpieces, hperm⟩ := h
  obtain ⟨piece, hpiece, hmem⟩ := exists_piece_of_mem hpieces hapart hf
  exact hpiece.find? fun key v hkey => hperm.mem_iff.trans (hmem key v hkey)

/-- A field with a default is read from any values that are read alike. -/
theorem Written.withDefault_eq (h : Written fields ms)
    (hapart : (fields.map Field.name).Pairwise FieldName.Apart) (hf : f ∈ fields)
    (hread : ∀ v, f.values v → read v = .ok a) {value : α} (hvalue : f.omissible → value = a) :
    withDefault value read f.name ms = .ok a := by
  unfold Response.withDefault
  rcases h.find? hapart hf with ⟨key, v, hfind, hv⟩ | ⟨hfind, homit⟩
  · simp only [hfind, hread v hv, Checked.within_ok]
  · simp only [hfind, hvalue homit]

/-- A field that may not be left out is read from any values that are read alike. -/
theorem Written.required_eq (h : Written fields ms)
    (hapart : (fields.map Field.name).Pairwise FieldName.Apart) (hf : f ∈ fields)
    (hread : ∀ v, f.values v → read v = .ok a) (homissible : ¬ f.omissible) :
    required read f.name ms = .ok a := by
  unfold Response.required
  rcases h.find? hapart hf with ⟨key, v, hfind, hv⟩ | ⟨-, homit⟩
  · simp only [hfind, hread v hv, Checked.within_ok]
  · exact absurd homit homissible

end Fields

end Response

end ClusterPilot
