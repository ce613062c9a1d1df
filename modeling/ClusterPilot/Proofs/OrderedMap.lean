/-
Laws of ordered maps. Setting a key changes the value found for it and no other; a key that is new
goes to the end, so setting up a map from its own entries gives it back. What holds of the keys of a
map and of the entries set on top holds of all keys afterwards, and no key has two entries. A map is
told by its keys, in their order, and by what is found under each; with another map set on top both
are known, so that setting maps on top is associative, and doing it twice changes nothing more.
-/
import ClusterPilot.OptionMap
import Mathlib.Data.List.Nodup

namespace ClusterPilot

variable {β : Type}

/-! ## Entries -/

theorem setEntry_of_not_mem {key : String} (value : β) {es : List (String × β)}
    (h : key ∉ es.map Prod.fst) : setEntry key value es = es ++ [(key, value)] := by
  induction es with
  | nil => rfl
  | cons e rest ih =>
    obtain ⟨k, v⟩ := e
    simp only [List.map_cons, List.mem_cons, not_or] at h
    rw [setEntry, if_neg (Ne.symm h.1), ih h.2, List.cons_append]

theorem keys_setEntry_of_mem {key : String} (value : β) {es : List (String × β)}
    (h : key ∈ es.map Prod.fst) : (setEntry key value es).map Prod.fst = es.map Prod.fst := by
  induction es with
  | nil => exact absurd h List.not_mem_nil
  | cons e rest ih =>
    obtain ⟨k, v⟩ := e
    by_cases hk : k = key
    · rw [setEntry, if_pos hk, List.map_cons, List.map_cons]
    · rw [List.map_cons, List.mem_cons] at h
      rw [setEntry, if_neg hk, List.map_cons, List.map_cons, ih (h.resolve_left (Ne.symm hk))]

theorem lookup_cons_of_ne {k k' : String} (v : β) (es : List (String × β)) (h : k ≠ k') :
    ((k', v) :: es).lookup k = es.lookup k := by
  rw [List.lookup_cons, beq_false_of_ne h]

theorem lookup_setEntry (key k : String) (value : β) (es : List (String × β)) :
    (setEntry key value es).lookup k = if k = key then some value else es.lookup k := by
  induction es with
  | nil =>
    by_cases h : k = key
    · rw [h, setEntry, List.lookup_cons_self, if_pos rfl]
    · rw [setEntry, lookup_cons_of_ne value [] h, if_neg h]
  | cons e rest ih =>
    obtain ⟨k', v⟩ := e
    by_cases hk : k' = key
    · rw [setEntry, if_pos hk, hk]
      by_cases h : k = key
      · rw [h, List.lookup_cons_self, if_pos rfl]
      · rw [lookup_cons_of_ne value rest h, lookup_cons_of_ne v rest h, if_neg h]
    · rw [setEntry, if_neg hk]
      by_cases h : k = k'
      · rw [h, List.lookup_cons_self, List.lookup_cons_self, if_neg hk]
      · rw [lookup_cons_of_ne v _ h, lookup_cons_of_ne v _ h, ih]

theorem lookup_map_snd {γ : Type} (f : β → γ) (key : String) (es : List (String × β)) :
    (es.map fun e => (e.1, f e.2)).lookup key = (es.lookup key).map f := by
  induction es with
  | nil => rfl
  | cons e rest ih =>
    obtain ⟨k, v⟩ := e
    by_cases h : key = k
    · rw [h, List.map_cons, List.lookup_cons_self, List.lookup_cons_self, Option.map_some]
    · rw [List.map_cons, lookup_cons_of_ne _ _ h, lookup_cons_of_ne _ _ h, ih]

/-- Only the last value that is set for a key is kept. -/
theorem setEntry_setEntry (key : String) (first last : β) (es : List (String × β)) :
    setEntry key last (setEntry key first es) = setEntry key last es := by
  induction es with
  | nil => rw [setEntry, setEntry, setEntry, if_pos rfl]
  | cons e rest ih =>
    obtain ⟨k, v⟩ := e
    by_cases h : k = key
    · rw [setEntry, if_pos h, setEntry, if_pos h, setEntry, if_pos h]
    · rw [setEntry, if_neg h, setEntry, if_neg h, ih, setEntry, if_neg h]

theorem mem_of_lookup {key : String} {value : β} {es : List (String × β)}
    (h : es.lookup key = some value) : (key, value) ∈ es := by
  obtain ⟨before, after, rfl, -⟩ := List.lookup_eq_some_iff.1 h
  exact List.mem_append_right before List.mem_cons_self

theorem mem_setEntry {key : String} {value : β} {es : List (String × β)} {e : String × β}
    (h : e ∈ setEntry key value es) : e = (key, value) ∨ e ∈ es := by
  induction es with
  | nil => exact .inl (by simpa [setEntry] using h)
  | cons e' rest ih =>
    obtain ⟨k, v⟩ := e'
    by_cases hk : k = key
    · rw [setEntry, if_pos hk, hk] at h
      rcases List.mem_cons.1 h with rfl | h
      · exact .inl rfl
      · exact .inr (List.mem_cons_of_mem _ h)
    · rw [setEntry, if_neg hk] at h
      rcases List.mem_cons.1 h with rfl | h
      · exact .inr List.mem_cons_self
      · exact (ih h).imp_right (List.mem_cons_of_mem _)

/-- Among entries with distinct keys, the one of a key is alone. -/
theorem filter_key_eq {key : String} {value : β} {es : List (String × β)}
    (hnd : (es.map Prod.fst).Nodup) (h : es.lookup key = some value) :
    es.filter (fun e => e.1 = key) = [(key, value)] := by
  induction es with
  | nil => cases h
  | cons e rest ih =>
    obtain ⟨k, v⟩ := e
    rw [List.map_cons, List.nodup_cons] at hnd
    by_cases hk : key = k
    · subst hk
      rw [List.lookup_cons_self, Option.some.injEq] at h
      have hrest : rest.filter (fun e => e.1 = key) = [] := by
        rw [List.filter_eq_nil_iff]
        intro e he heq
        exact hnd.1 (List.mem_map.2 ⟨e, he, of_decide_eq_true heq⟩)
      rw [List.filter_cons_of_pos (by simp), hrest, h]
    · rw [List.filter_cons_of_neg (by simpa using Ne.symm hk)]
      rw [lookup_cons_of_ne v rest hk] at h
      exact ih hnd.2 h

theorem lookup_eq_none_iff {key : String} {es : List (String × β)} :
    es.lookup key = none ↔ key ∉ es.map Prod.fst := by
  rw [List.lookup_eq_none_iff, List.mem_map]
  constructor
  · rintro h ⟨e, he, rfl⟩
    exact absurd (h e he) (by simp)
  · intro h e he
    exact bne_iff_ne.2 fun heq => h ⟨e, he, heq.symm⟩

/-- Entries with distinct keys are told by their keys, in order, and by what is found. -/
theorem entries_ext {es es' : List (String × β)} (hnd : (es.map Prod.fst).Nodup)
    (hkeys : es.map Prod.fst = es'.map Prod.fst) (hfound : ∀ key, es.lookup key = es'.lookup key) :
    es = es' := by
  induction es generalizing es' with
  | nil => exact (List.map_eq_nil_iff.1 hkeys.symm).symm
  | cons e rest ih =>
    obtain ⟨k, v⟩ := e
    cases es' with
    | nil => cases hkeys
    | cons e' rest' =>
      obtain ⟨k', v'⟩ := e'
      rw [List.map_cons, List.map_cons, List.cons.injEq] at hkeys
      obtain ⟨hk, hrest⟩ := hkeys
      obtain rfl : k = k' := hk
      rw [List.map_cons, List.nodup_cons] at hnd
      have hv := hfound k
      rw [List.lookup_cons_self, List.lookup_cons_self, Option.some.injEq] at hv
      obtain rfl : v = v' := hv
      congr 1
      refine ih hnd.2 hrest fun key => ?_
      by_cases h : key = k
      · -- the key of the first entry is in neither rest
        have hnone : rest.lookup k = none := lookup_eq_none_iff.2 hnd.1
        have hnone' : rest'.lookup k = none := lookup_eq_none_iff.2 (hrest ▸ hnd.1)
        rw [h, hnone, hnone']
      · have hkey := hfound key
        rwa [lookup_cons_of_ne v rest h, lookup_cons_of_ne v rest' h] at hkey

namespace OrderedMap

/-! ## Setting entries -/

theorem get?_insert (m : OrderedMap β) (key k : String) (value : β) :
    (m.insert key value).get? k = if k = key then some value else m.get? k :=
  lookup_setEntry key k value m.entries

theorem forall_mem_insert {P : String × β → Prop} {m : OrderedMap β} (hm : ∀ e ∈ m.entries, P e)
    {key : String} {value : β} (h : P (key, value)) : ∀ e ∈ (m.insert key value).entries, P e := by
  intro e he
  rcases mem_setEntry he with rfl | he
  · exact h
  · exact hm e he

theorem forall_mem_insertAll {P : String × β → Prop} (es : List (String × β)) (m : OrderedMap β)
    (hm : ∀ e ∈ m.entries, P e) (hes : ∀ e ∈ es, P e) : ∀ e ∈ (m.insertAll es).entries, P e := by
  induction es generalizing m with
  | nil => exact hm
  | cons e es ih =>
    exact ih (m.insert e.1 e.2) (forall_mem_insert hm (hes e List.mem_cons_self))
      fun e' he' => hes e' (List.mem_cons_of_mem _ he')

theorem forall_mem_ofList {P : String × β → Prop} {es : List (String × β)} (h : ∀ e ∈ es, P e) :
    ∀ e ∈ (ofList es).entries, P e :=
  forall_mem_insertAll es empty (fun _ he => absurd he List.not_mem_nil) h

/-! ## Setting up a map -/

theorem entries_insertAll (es : List (String × β)) (m : OrderedMap β)
    (hnd : ((m.entries ++ es).map Prod.fst).Nodup) :
    (m.insertAll es).entries = m.entries ++ es := by
  induction es generalizing m with
  | nil => rw [List.append_nil]; rfl
  | cons e es ih =>
    have hnew : e.1 ∉ m.entries.map Prod.fst := by
      rw [List.map_append, List.map_cons] at hnd
      intro hmem
      exact List.disjoint_of_nodup_append hnd hmem List.mem_cons_self
    -- the new key goes to the end, so the entry moves from the front of the list to the map's end
    have hins : (m.insert e.1 e.2).entries = m.entries ++ [e] := setEntry_of_not_mem e.2 hnew
    have hsnoc : m.entries ++ e :: es = (m.insert e.1 e.2).entries ++ es := by
      rw [hins, List.append_assoc, List.singleton_append]
    rw [hsnoc] at hnd ⊢
    exact ih (m.insert e.1 e.2) hnd

/-- Entries with distinct keys set up the map that has them. -/
theorem entries_ofList {es : List (String × β)} (hnd : (es.map Prod.fst).Nodup) :
    (ofList es).entries = es :=
  entries_insertAll es empty hnd

theorem ext_entries {m m' : OrderedMap β} (h : m.entries = m'.entries) : m = m' := by
  cases m
  cases m'
  cases h
  rfl

/-- A map is set up again by its own entries. -/
theorem ofList_entries (m : OrderedMap β) : ofList m.entries = m :=
  ext_entries (entries_ofList m.nodup_keys)

/-! ## Keys and values -/

/-- A map is told by its keys, in order, and by the values found. -/
theorem ext_get? {m m' : OrderedMap β} (hkeys : m.keys = m'.keys)
    (hget : ∀ key, m.get? key = m'.get? key) : m = m' :=
  ext_entries (entries_ext m.nodup_keys hkeys hget)

theorem keys_insert_of_mem {m : OrderedMap β} {key : String} (h : key ∈ m.keys) (value : β) :
    (m.insert key value).keys = m.keys :=
  keys_setEntry_of_mem value h

theorem keys_insert_of_not_mem {m : OrderedMap β} {key : String} (h : key ∉ m.keys) (value : β) :
    (m.insert key value).keys = m.keys ++ [key] := by
  show (setEntry key value m.entries).map Prod.fst = _
  rw [setEntry_of_not_mem value h, List.map_append]
  rfl

/-! ## One map on top of another -/

theorem get?_insertAll {es : List (String × β)} (hnd : (es.map Prod.fst).Nodup) (m : OrderedMap β)
    (key : String) : (m.insertAll es).get? key = (es.lookup key).or (m.get? key) := by
  induction es generalizing m with
  | nil => rfl
  | cons e rest ih =>
    obtain ⟨k, v⟩ := e
    rw [List.map_cons, List.nodup_cons] at hnd
    show ((m.insert k v).insertAll rest).get? key = _
    rw [ih hnd.2, get?_insert]
    by_cases h : key = k
    · rw [if_pos h, h, List.lookup_cons_self, lookup_eq_none_iff.2 hnd.1]
      rfl
    · rw [if_neg h, lookup_cons_of_ne v rest h]

theorem keys_insertAll {es : List (String × β)} (hnd : (es.map Prod.fst).Nodup)
    (m : OrderedMap β) :
    (m.insertAll es).keys = m.keys ++ (es.map Prod.fst).filter (· ∉ m.keys) := by
  induction es generalizing m with
  | nil => exact (List.append_nil _).symm
  | cons e rest ih =>
    obtain ⟨k, v⟩ := e
    rw [List.map_cons, List.nodup_cons] at hnd
    show ((m.insert k v).insertAll rest).keys = _
    rw [ih hnd.2, List.map_cons]
    by_cases h : k ∈ m.keys
    · rw [keys_insert_of_mem h, List.filter_cons_of_neg (by simpa using h)]
    · rw [keys_insert_of_not_mem h, List.filter_cons_of_pos (by simpa using h), List.append_assoc,
        List.singleton_append]
      congr 2
      -- the key that is new now does not come again
      refine List.filter_congr fun k' hk' => decide_eq_decide.2 ?_
      have hne : k' ≠ k := fun heq => hnd.1 (heq ▸ hk')
      rw [List.mem_append, List.mem_singleton, not_or]
      exact ⟨And.left, fun hnot => ⟨hnot, hne⟩⟩

/-- One map on top of another: a key stands where it stood, new ones follow in their order, and
what is found is what the map on top says, or else the other. -/
structure OnTop (m top merged : OrderedMap β) : Prop where
  keys : merged.keys = m.keys ++ top.keys.filter (· ∉ m.keys)
  get? : ∀ key, merged.get? key = (top.get? key).or (m.get? key)

theorem onTop_update (m top : OrderedMap β) : m.OnTop top (m.update top) :=
  ⟨keys_insertAll top.nodup_keys m, get?_insertAll top.nodup_keys m⟩

theorem keys_update (m top : OrderedMap β) :
    (m.update top).keys = m.keys ++ top.keys.filter (· ∉ m.keys) :=
  (m.onTop_update top).keys

theorem get?_update (m top : OrderedMap β) (key : String) :
    (m.update top).get? key = (top.get? key).or (m.get? key) :=
  (m.onTop_update top).get? key

theorem mem_keys_update {m top : OrderedMap β} {key : String} :
    key ∈ (m.update top).keys ↔ key ∈ m.keys ∨ key ∈ top.keys := by
  rw [keys_update, List.mem_append, List.mem_filter]
  by_cases h : key ∈ m.keys <;> simp [h]

/-- Two maps on top, one after the other, are the second on top of the first on top. -/
theorem update_update (m first second : OrderedMap β) :
    (m.update first).update second = m.update (first.update second) := by
  refine ext_get? ?_ fun key => ?_
  · rw [keys_update, keys_update, keys_update, keys_update, List.filter_append, List.filter_filter,
      List.append_assoc]
    congr 2
    refine List.filter_congr fun key _ => ?_
    rw [← keys_update, ← Bool.decide_and, decide_eq_decide, mem_keys_update, not_or]
  · rw [get?_update, get?_update, get?_update, get?_update, Option.or_assoc]

theorem update_self (m : OrderedMap β) : m.update m = m := by
  refine ext_get? ?_ fun key => ?_
  · have hnone : m.keys.filter (· ∉ m.keys) = [] :=
      List.filter_eq_nil_iff.2 fun key hkey => by simpa using hkey
    rw [keys_update, hnone, List.append_nil]
  · rw [get?_update, Option.or_self]

theorem update_insert (m top : OrderedMap β) (key : String) (value : β) :
    m.update (top.insert key value) = (m.update top).insert key value := by
  refine ext_get? ?_ fun k => ?_
  · by_cases htop : key ∈ top.keys
    · rw [keys_insert_of_mem (mem_keys_update.2 (.inr htop)), keys_update, keys_update,
        keys_insert_of_mem htop]
    · rw [keys_update, keys_insert_of_not_mem htop, List.filter_append, ← List.append_assoc,
        ← keys_update]
      by_cases hm : key ∈ m.keys
      · rw [keys_insert_of_mem (mem_keys_update.2 (.inl hm)),
          List.filter_cons_of_neg (by simpa using hm), List.filter_nil, List.append_nil]
      · rw [keys_insert_of_not_mem fun h => (mem_keys_update.1 h).elim hm htop,
          List.filter_cons_of_pos (by simpa using hm), List.filter_nil]
  · rw [get?_update, get?_insert, get?_insert, get?_update]
    by_cases h : k = key
    · rw [if_pos h, if_pos h, Option.some_or]
    · rw [if_neg h, if_neg h]

/-- Entries that are set one after the other are set as the map that they set up. -/
theorem insertAll_eq_update (m : OrderedMap β) (es : List (String × β)) :
    m.insertAll es = m.update (ofList es) := by
  have hall : ∀ top : OrderedMap β, m.update (top.insertAll es) = (m.update top).insertAll es := by
    induction es with
    | nil => exact fun _ => rfl
    | cons e rest ih =>
      intro top
      show m.update ((top.insert e.1 e.2).insertAll rest) = _
      rw [ih, update_insert]
      rfl
  exact (hall empty).symm

theorem ofList_append (es es' : List (String × β)) :
    ofList (es ++ es') = (ofList es).update (ofList es') := by
  rw [← insertAll_eq_update]
  exact List.foldl_append

end OrderedMap

end ClusterPilot
