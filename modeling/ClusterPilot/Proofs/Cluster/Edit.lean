/-
Edits of the members of a record. A record is read through the look-up of its fields, so an edit
that no look-up notices does not matter: a member with another key, another order of the members, a
member whose key comes again, a member under the second spelling of a field that is there under the
first. Respelling a key moves what was found under one spelling of a field to the other.
-/
import ClusterPilot.Proofs.Cluster.Field
import Mathlib.Data.List.Nodup
import Mathlib.Data.List.Pairwise

namespace ClusterPilot

open Json (Value)

namespace Response

/-! ## The edits -/

/-- Edits of the members of a record that no look-up of its fields notices. -/
inductive Idle (names : List FieldName) : Members → Members → Prop
  /-- A member whose key spells no field. -/
  | stranger (front back : Members) (key : String) (v : Value)
      (h : ∀ f ∈ names, ¬ f.Spells key) : Idle names (front ++ back) (front ++ (key, v) :: back)
  /-- Members in another order, where no key comes twice. -/
  | reordered {ms ms' : Members} (hnodup : (ms.map Prod.fst).Nodup) (hperm : ms.Perm ms') :
      Idle names ms ms'
  /-- A member whose key comes again. -/
  | overridden (front back : Members) {key : String} (v : Value) {w : Value}
      (h : (key, w) ∈ back) : Idle names (front ++ back) (front ++ (key, v) :: back)
  /-- A member under a field's name in words, where the field is there as responses have it. -/
  | shadowed (front back : Members) {f : FieldName} (v : Value) {w : Value} (hf : f ∈ names)
      (hne : f.inWords ≠ f.inResponse) (h : (f.inResponse, w) ∈ front ++ back) :
      Idle names (front ++ back) (front ++ (f.inWords, v) :: back)

/-- One spelling for another. -/
def respell (old new key : String) : String := if key = old then new else key

/-- Members with one spelling for another. -/
def rekey (old new : String) (ms : Members) : Members := ms.map fun m => (respell old new m.1, m.2)

/-- All members under one spelling of a field get the other one, which none had before. -/
structure Respelled (old new : String) (names : List FieldName) (ms ms' : Members) : Prop where
  spells : ∃ f ∈ names, old = f.inResponse ∧ new = f.inWords ∨ old = f.inWords ∧ new = f.inResponse
  occurs : ∃ v, (old, v) ∈ ms
  fresh : ∀ v, (new, v) ∉ ms
  rekeyed : ms' = rekey old new ms

/-! ## Looking up a key -/

section Last

variable {ms ms' front back : Members} {key k : String} {v w : Value}

theorem last?_cons {m : String × Value} :
    last? (m :: ms) key = (last? ms key).or (if key = m.1 then some m.2 else none) := by
  obtain ⟨k, v⟩ := m
  have hsingle : List.lookup key [(k, v)] = if key = k then some v else none := by
    by_cases hkey : key = k
    · simp [hkey]
    · simp [List.lookup_cons, beq_eq_false_iff_ne.2 hkey, hkey]
  rw [last?, List.reverse_cons, List.lookup_append, hsingle]
  rfl

theorem last?_append : last? (front ++ back) key = (last? back key).or (last? front key) := by
  rw [last?, List.reverse_append, List.lookup_append]
  rfl

/-- A member does not count for other keys. -/
theorem last?_insert_of_ne (h : key ≠ k) :
    last? (front ++ (k, v) :: back) key = last? (front ++ back) key := by
  rw [last?_append, last?_append, last?_cons, if_neg h, Option.or_none]

/-- A member does not count when its key comes again. -/
theorem last?_insert_of_mem (h : (k, w) ∈ back) :
    last? (front ++ (k, v) :: back) key = last? (front ++ back) key := by
  by_cases hkey : key = k
  · obtain ⟨w, hw⟩ := exists_last?_of_mem h
    rw [hkey, last?_append, last?_append, last?_cons, hw]
    rfl
  · exact last?_insert_of_ne hkey

/-- The last member with a key is the one that is found. -/
theorem last?_insert_self (h : ∀ w, (key, w) ∉ back) :
    last? (front ++ (key, v) :: back) key = some v := by
  rw [last?_append, last?_cons, last?_eq_none h, if_pos rfl]
  rfl

/-- The order of members with different keys does not count. -/
theorem last?_perm (hnodup : (ms.map Prod.fst).Nodup) (hperm : ms.Perm ms') :
    last? ms' key = last? ms key := by
  cases hlast : last? ms key with
  | none =>
    refine last?_eq_none fun v hv => ?_
    obtain ⟨w, hw⟩ := exists_last?_of_mem (hperm.mem_iff.2 hv)
    rw [hlast] at hw
    cases hw
  | some v =>
    have hv := mem_of_last? hlast
    refine last?_eq_some (hperm.mem_iff.1 hv) fun w hw => ?_
    exact congrArg Prod.snd (List.inj_on_of_nodup_map hnodup (hperm.mem_iff.2 hw) hv rfl)

end Last

section Rekey

variable {ms : Members} {old new key : String}

theorem mem_rekey {v : Value} :
    (key, v) ∈ rekey old new ms ↔ ∃ k, (k, v) ∈ ms ∧ respell old new k = key := by
  simp [rekey]

theorem last?_rekey_cons {m : String × Value} : last? (rekey old new (m :: ms)) key =
    (last? (rekey old new ms) key).or (if key = respell old new m.1 then some m.2 else none) :=
  last?_cons

/-- Keys that are neither of the two spellings are looked up as before. -/
theorem last?_rekey_of_ne (hold : key ≠ old) (hnew : key ≠ new) :
    last? (rekey old new ms) key = last? ms key := by
  induction ms with
  | nil => rfl
  | cons m ms ih =>
    have hkey : key = respell old new m.1 ↔ key = m.1 := by
      unfold respell
      split
      · rename_i hm
        rw [hm]
        exact iff_of_false hnew hold
      · rfl
    simp only [last?_rekey_cons, last?_cons, ih, hkey]

theorem last?_rekey_old (hne : old ≠ new) : last? (rekey old new ms) old = none := by
  refine last?_eq_none fun v hv => ?_
  obtain ⟨k, -, hk⟩ := mem_rekey.1 hv
  unfold respell at hk
  split at hk
  · exact hne hk.symm
  · exact absurd hk ‹_›

/-- Under the new spelling stands what stood under the old one. -/
theorem last?_rekey_new (hfresh : ∀ v, (new, v) ∉ ms) :
    last? (rekey old new ms) new = last? ms old := by
  induction ms with
  | nil => rfl
  | cons m ms ih =>
    have hm : new ≠ m.1 := fun h => hfresh m.2 (h ▸ List.mem_cons_self)
    have hkey : new = respell old new m.1 ↔ old = m.1 := by
      unfold respell
      split
      · exact iff_of_true rfl (Eq.symm ‹_›)
      · exact iff_of_false hm (Ne.symm ‹_›)
    simp only [last?_rekey_cons, last?_cons, hkey,
      ih fun v hv => hfresh v (List.mem_cons_of_mem _ hv)]

end Rekey

/-! ## Looking up a field -/

section Find

variable {names : List FieldName} {ms ms' front back : Members} {f : FieldName} {key : String}
  {v v' : Value}

theorem spells_of_find? (h : find? ms f = some (key, v)) : f.Spells key := by
  unfold find? at h
  split at h
  · cases h
    exact .inl rfl
  · obtain ⟨_, -, h⟩ := Option.map_eq_some_iff.1 h
    cases h
    exact .inr rfl

/-- A field is looked up through its spellings. -/
theorem find?_congr (h : ∀ key, f.Spells key → last? ms' key = last? ms key) :
    find? ms' f = find? ms f := by
  rw [find?, find?, h _ (.inl rfl), h _ (.inr rfl)]

theorem find?_insert_of_not_spells (h : ¬ f.Spells key) :
    find? (front ++ (key, v) :: back) f = find? (front ++ back) f :=
  find?_congr fun _ hspells => last?_insert_of_ne fun heq => h (heq ▸ hspells)

/-- Another value in the place of one that was found is found instead. -/
theorem find?_replace (hlast : ∀ w, (key, w) ∉ back)
    (h : find? (front ++ (key, v) :: back) f = some (key, v)) :
    find? (front ++ (key, v') :: back) f = some (key, v') := by
  have hv' : last? (front ++ (key, v') :: back) key = some v' := last?_insert_self hlast
  by_cases hkey : key = f.inResponse
  · rw [find?, ← hkey, hv']
  · have hwords : key = f.inWords := (spells_of_find? h).resolve_left hkey
    have hnone : last? (front ++ (key, v) :: back) f.inResponse = none := by
      unfold find? at h
      split at h
      · cases h
        exact absurd rfl hkey
      · assumption
    rw [last?_insert_of_ne (Ne.symm hkey)] at hnone
    rw [find?, last?_insert_of_ne (Ne.symm hkey), hnone, ← hwords, hv']
    rfl

/-- No look-up of a field notices an idle edit. -/
theorem Idle.find?_eq (h : Idle names ms ms') (hapart : names.Pairwise FieldName.Apart)
    (hf : f ∈ names) : find? ms' f = find? ms f := by
  cases h with
  | stranger _ _ _ _ h => exact find?_insert_of_not_spells (h f hf)
  | reordered hnodup hperm => exact find?_congr fun _ _ => last?_perm hnodup hperm
  | overridden _ _ _ h => exact find?_congr fun _ _ => last?_insert_of_mem h
  | @shadowed _ _ g _ w hg hne h =>
    by_cases hgf : g = f
    · -- the field is found under its other spelling before and after
      subst hgf
      obtain ⟨w, hw⟩ := exists_last?_of_mem h
      rw [find?, find?, last?_insert_of_ne (Ne.symm hne), hw]
    · exact find?_insert_of_not_spells ((hapart.forall hg hf hgf).not_spells (.inr rfl))

theorem find?_of_none (h : last? ms f.inResponse = none) :
    find? ms f = (last? ms f.inWords).map fun v => (f.inWords, v) := by
  rw [find?, h]

theorem find?_of_no_words (h : last? ms f.inWords = none) :
    find? ms f = (last? ms f.inResponse).map fun v => (f.inResponse, v) := by
  rw [find?, h]
  cases last? ms f.inResponse <;> rfl

/-- After respelling every field is found with the value that it had, and the field that was
respelled is found under its other spelling. -/
theorem Respelled.find?_eq {old new : String} (h : Respelled old new names ms ms')
    (hapart : names.Pairwise FieldName.Apart) (hf : f ∈ names) :
    find? ms' f = (find? ms f).map fun found => (respell old new found.1, found.2) := by
  obtain ⟨⟨g, hg, hspells⟩, ⟨v, hv⟩, hfresh, rfl⟩ := h
  have hne : old ≠ new := fun heq => hfresh v (heq ▸ hv)
  have hnew : last? ms new = none := last?_eq_none hfresh
  by_cases hgf : g = f
  · subst hgf
    rcases hspells with ⟨rfl, rfl⟩ | ⟨rfl, rfl⟩
    · rw [find?_of_none (last?_rekey_old hne), last?_rekey_new hfresh, find?_of_no_words hnew,
        Option.map_map]
      simp [Function.comp_def, respell]
    · rw [find?_of_no_words (last?_rekey_old hne), last?_rekey_new hfresh, find?_of_none hnew,
        Option.map_map]
      simp [Function.comp_def, respell]
  · -- no spelling of another field is changed, and none is the new one
    have hother := hapart.forall hg hf hgf
    have hkeys : ∀ key, f.Spells key → key ≠ old ∧ key ≠ new := by
      rintro key hkey
      rcases hspells with ⟨rfl, rfl⟩ | ⟨rfl, rfl⟩
      · exact ⟨fun heq => hother.not_spells (.inl rfl) (heq ▸ hkey),
          fun heq => hother.not_spells (.inr rfl) (heq ▸ hkey)⟩
      · exact ⟨fun heq => hother.not_spells (.inr rfl) (heq ▸ hkey),
          fun heq => hother.not_spells (.inl rfl) (heq ▸ hkey)⟩
    rw [find?_congr fun key hkey => last?_rekey_of_ne (hkeys key hkey).1 (hkeys key hkey).2]
    cases hfind : find? ms f with
    | none => rfl
    | some found =>
      rw [Option.map_some, respell, if_neg (hkeys _ (spells_of_find? hfind)).1]

end Find

end Response

end ClusterPilot
