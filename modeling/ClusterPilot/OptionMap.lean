/-
Ordered maps of options. A map is a list of entries with pairwise distinct keys. Setting a key that
is present replaces its value where it stands; a new key goes to the end. So the order of the keys
is the order of their first setting, and the last value set is the one found.
-/
namespace ClusterPilot

/-- The entries of an ordered map after one key is set. -/
def setEntry {β : Type} (key : String) (value : β) : List (String × β) → List (String × β)
  | [] => [(key, value)]
  | (k, v) :: rest => if k = key then (k, value) :: rest else (k, v) :: setEntry key value rest

theorem mem_keys_setEntry {β : Type} (key k : String) (value : β) (es : List (String × β)) :
    k ∈ (setEntry key value es).map Prod.fst ↔ k = key ∨ k ∈ es.map Prod.fst := by
  induction es with
  | nil => simp [setEntry]
  | cons e rest ih =>
    obtain ⟨k', v⟩ := e
    by_cases h : k' = key
    · subst h; simp [setEntry]
    · simp only [setEntry, h, ↓reduceIte, List.map_cons, List.mem_cons, ih]
      grind

theorem nodup_keys_setEntry {β : Type} (key : String) (value : β) (es : List (String × β))
    (h : (es.map Prod.fst).Nodup) : ((setEntry key value es).map Prod.fst).Nodup := by
  induction es with
  | nil => simp [setEntry]
  | cons e rest ih =>
    obtain ⟨k', v⟩ := e
    simp only [List.map_cons, List.nodup_cons] at h
    by_cases hk : k' = key
    · subst hk; simpa [setEntry] using h
    · simp only [setEntry, hk, ↓reduceIte, List.map_cons, List.nodup_cons, mem_keys_setEntry]
      exact ⟨by simp [h.1], ih h.2⟩

/-- An ordered map from names to values. -/
structure OrderedMap (β : Type) where
  entries : List (String × β)
  nodup_keys : (entries.map Prod.fst).Nodup

namespace OrderedMap

variable {β : Type}

/-- The map without entries. -/
def empty : OrderedMap β := ⟨[], by simp⟩

instance : Inhabited (OrderedMap β) := ⟨empty⟩

/-- The map with one key set. -/
def insert (m : OrderedMap β) (key : String) (value : β) : OrderedMap β :=
  ⟨setEntry key value m.entries, nodup_keys_setEntry key value m.entries m.nodup_keys⟩

/-- The map with the entries of a list set one after the other. -/
def insertAll (m : OrderedMap β) (es : List (String × β)) : OrderedMap β :=
  es.foldl (fun m e => m.insert e.1 e.2) m

/-- The map that a list of entries sets up. -/
def ofList (es : List (String × β)) : OrderedMap β := empty.insertAll es

/-- The value of a key. -/
def get? (m : OrderedMap β) (key : String) : Option β := m.entries.lookup key

/-- The keys in the order of their first setting. -/
def keys (m : OrderedMap β) : List String := m.entries.map Prod.fst

/-- The map with the entries of another one set on top. -/
def update (m other : OrderedMap β) : OrderedMap β := m.insertAll other.entries

/-- A map is empty when it has no entry. -/
def isEmpty (m : OrderedMap β) : Bool := m.entries.isEmpty

end OrderedMap

/-- Options of a command: an absent value stands for an option without one. -/
abbrev OptionMap := OrderedMap (Option String)

/-- The options of a caller with those that a command needs set on top. -/
def OptionMap.override (caller : Option OptionMap) (needed : List (String × Option String)) :
    OptionMap :=
  (caller.getD .empty).insertAll needed

end ClusterPilot
