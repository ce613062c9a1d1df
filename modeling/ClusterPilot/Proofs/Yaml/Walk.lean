/-
How a walk through a graph fails. Each error that is not promised shows in the graph as it was
before its merges: in a scalar without a value under its tag, in more merges than there is room for,
or in a mapping that stands for a scalar and is given one by the entries of default values.
-/
import ClusterPilot.Proofs.Yaml.Merge

namespace ClusterPilot.Yaml

namespace Graph

variable {g g' : Graph} {i : Nat}

/-- An entry of a default value. -/
def IsDefault (g : Graph) (e : Nat × Nat) : Prop := g.HasEntry e ∧ g.tag e.1 = .value

/-- An entry of a default value with a mapping. -/
def HasInner (g : Graph) : Prop := ∃ e, g.IsDefault e ∧ g.isMapping e.2 = true

/-- An entry of a default value with a text. -/
def HasText (g : Graph) (text : List Char) : Prop :=
  ∃ e, g.IsDefault e ∧ g.content? e.2 = some (.scalar text)

/-- How a mapping that stands for a scalar may fail to be one: its default value is a mapping again,
its tag is the one of a date, or its default value has no value under this tag. -/
inductive Misses (g : Graph) (tag : Tag) : Error → Prop
  | deep (inner : g.HasInner) : Misses g tag .tooDeep
  | date {e : Nat × Nat} (isDefault : g.IsDefault e) (isDate : tag = .date) :
    Misses g tag .dateOfMapping
  | noValue {text : List Char} {e : Error} (hasText : g.HasText text)
    (noValue : ScalarData.ofText tag text = .error e) : Misses g tag e

theorem isMapping_iff : g.isMapping i = true ↔ ∃ es, g.content? i = some (.mapping es) := by
  unfold isMapping
  split
  · exact iff_of_true rfl ⟨_, ‹_›⟩
  · rename_i h
    exact iff_of_false Bool.false_ne_true fun ⟨es, hes⟩ => h es hes

theorem mem_entries {es : List (Nat × Nat)} {e : Nat × Nat}
    (hcontent : g.content? i = some (.mapping es)) (he : e ∈ es) : e ∈ g.entries i := by
  unfold entries
  rw [hcontent]
  exact he

namespace Becomes

variable (h : g.Becomes g')
include h

/-- A scalar holds the same text as before. -/
theorem scalar {text : List Char} (hcontent : g'.content? i = some (.scalar text)) :
    g.content? i = some (.scalar text) := by
  rcases h.content i with heq | ⟨-, hnew⟩
  · rwa [← heq]
  · obtain ⟨es, hes⟩ := isMapping_iff.1 hnew
    rw [hcontent] at hes
    cases hes

/-- An entry of a default value was one before. -/
theorem isDefault {es : List (Nat × Nat)} {e : Nat × Nat}
    (hcontent : g'.content? i = some (.mapping es))
    (hfind : es.find? (fun e => g'.tag e.1 = .value) = some e) : g.IsDefault e := by
  have hvalue : g'.tag e.1 = .value := by simpa using List.find?_some hfind
  refine ⟨h.hasEntry e ⟨i, mem_entries hcontent (List.mem_of_find?_eq_some hfind)⟩, ?_⟩
  rcases h.tag e.1 with heq | ⟨hold, -⟩
  · exact heq ▸ hvalue
  · exact hold

end Becomes

/-! ## Scalars -/

end Graph

/-! ## Walking -/

namespace Walk

variable {g : Graph} {w : Walk}

end Walk

end ClusterPilot.Yaml
