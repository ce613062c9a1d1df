/-
Merging keeps a graph what it is: the nodes, what they stand for, and which entries ask for merges,
but for keys of default values that become texts; and every entry was one before. No mapping has
more merges after it than before, and the one whose merges were done has none left. Since the key of
a merge is taken out before what stands under it is looked at, merges can only be so many inside
each other as there are of them; so they run out of room only in a graph that has at least so many.
-/
import ClusterPilot.Proofs.Yaml.Graph
import Mathlib.Algebra.Order.BigOperators.Group.Finset

namespace ClusterPilot.Yaml.Graph

variable {g g' g'' : Graph} {i : Nat}

/-! ## Counting merges -/

/-- How many entries of a mapping ask for a merge. -/
def mergesOf (g : Graph) (i : Nat) : Nat := (g.entries i).countP g.isMerge

/-- How many entries of all mappings do. -/
def merges (g : Graph) : Nat := ∑ i ∈ Finset.range g.nodes.size, g.mergesOf i

theorem isMapping_of_mem_entries {e : Nat × Nat} (h : e ∈ g.entries i) : g.isMapping i = true := by
  unfold entries at h
  unfold isMapping
  split at h
  · rfl
  · cases h

theorem lt_size_of_isMapping (h : g.isMapping i = true) : i < g.nodes.size := by
  unfold isMapping content? at h
  cases hnode : g.nodes[i]? with
  | none => simp [hnode] at h
  | some node => exact (Array.getElem?_eq_some_iff.1 hnode).1

/-- An entry of some mapping. -/
def HasEntry (g : Graph) (e : Nat × Nat) : Prop := ∃ i, e ∈ g.entries i

/-- A graph after merges. -/
structure Becomes (g g' : Graph) : Prop where
  size : g'.nodes.size = g.nodes.size
  tag : ∀ i, g'.tag i = g.tag i ∨ g.tag i = .value ∧ g'.tag i = .text
  content : ∀ i, g'.content? i = g.content? i ∨ g.isMapping i = true ∧ g'.isMapping i = true
  hasEntry : ∀ e, g'.HasEntry e → g.HasEntry e
  mergesOf : ∀ i, g'.mergesOf i ≤ g.mergesOf i

namespace Becomes

theorem refl (g : Graph) : g.Becomes g :=
  ⟨rfl, fun _ => .inl rfl, fun _ => .inl rfl, fun _ => id, fun _ => Nat.le_refl _⟩

theorem isMapping (h : g.Becomes g') (i : Nat) : g'.isMapping i = g.isMapping i := by
  rcases h.content i with heq | ⟨hold, hnew⟩
  · unfold Graph.isMapping
    rw [heq]
  · rw [hold, hnew]

theorem isMerge (h : g.Becomes g') (e : Nat × Nat) : g'.isMerge e = g.isMerge e := by
  unfold Graph.isMerge
  rcases h.tag e.1 with heq | ⟨hold, hnew⟩
  · rw [heq]
  · rw [hold, hnew]
    rfl

theorem trans (h : g.Becomes g') (h' : g'.Becomes g'') : g.Becomes g'' where
  size := h'.size.trans h.size
  tag i := by
    rcases h.tag i with heq | ⟨hold, hnew⟩
    · rw [← heq]
      exact h'.tag i
    · rcases h'.tag i with heq' | ⟨hold', -⟩
      · exact .inr ⟨hold, heq'.trans hnew⟩
      · rw [hnew] at hold'
        cases hold'
  content i := by
    rcases h'.content i with heq | ⟨hold, hnew⟩
    · rw [heq]
      refine (h.content i).imp id fun ⟨hold, hnew⟩ => ⟨hold, ?_⟩
      unfold Graph.isMapping at hnew ⊢
      rw [heq]
      exact hnew
    · exact .inr ⟨h.isMapping i ▸ hold, hnew⟩
  hasEntry e he := h.hasEntry e (h'.hasEntry e he)
  mergesOf i := Nat.le_trans (h'.mergesOf i) (h.mergesOf i)

theorem merges (h : g.Becomes g') : g'.merges ≤ g.merges := by
  unfold Graph.merges
  rw [h.size]
  exact Finset.sum_le_sum fun i _ => h.mergesOf i

end Becomes

theorem tag_setEntries (g : Graph) (i : Nat) (es : List (Nat × Nat)) (j : Nat) :
    (g.setEntries i es).tag j = g.tag j := by
  unfold tag setEntries
  simp only [Array.getElem?_modify]
  split
  · cases g.nodes[j]? <;> rfl
  · rfl

theorem content?_setEntries (hmapping : g.isMapping i = true) (es : List (Nat × Nat)) (j : Nat) :
    (g.setEntries i es).content? j = if i = j then some (.mapping es) else g.content? j := by
  have hsome : i < g.nodes.size := lt_size_of_isMapping hmapping
  unfold content? setEntries
  simp only [Array.getElem?_modify]
  split
  · rename_i heq
    subst heq
    rw [Array.getElem?_eq_getElem hsome]
    rfl
  · rfl

theorem isMapping_setEntries (hmapping : g.isMapping i = true) (es : List (Nat × Nat)) (j : Nat) :
    (g.setEntries i es).isMapping j = g.isMapping j := by
  by_cases hij : i = j
  · subst hij
    rw [hmapping]
    unfold isMapping
    rw [content?_setEntries hmapping, if_pos rfl]
  · unfold isMapping
    rw [content?_setEntries hmapping, if_neg hij]

theorem entries_setEntries (hmapping : g.isMapping i = true) (es : List (Nat × Nat)) (j : Nat) :
    (g.setEntries i es).entries j = if i = j then es else g.entries j := by
  unfold entries
  rw [content?_setEntries hmapping]
  by_cases hij : i = j
  · rw [if_pos hij, if_pos hij]
  · rw [if_neg hij, if_neg hij]

theorem mergesOf_setEntries (hmapping : g.isMapping i = true) (es : List (Nat × Nat)) (j : Nat) :
    (g.setEntries i es).mergesOf j = if i = j then es.countP g.isMerge else g.mergesOf j := by
  have hmerge : (g.setEntries i es).isMerge = g.isMerge := by
    funext e
    unfold isMerge
    rw [tag_setEntries]
  unfold mergesOf
  rw [hmerge, entries_setEntries hmapping]
  split <;> rfl

/-- A mapping is given entries that were there, of which no more ask for merges than there did. -/
theorem Becomes.setEntries {es : List (Nat × Nat)} (h : g.Becomes g')
    (hmapping : g'.isMapping i = true) (hentries : ∀ e ∈ es, g.HasEntry e)
    (hle : es.countP g'.isMerge ≤ g.mergesOf i) : g.Becomes (g'.setEntries i es) where
  size := Array.size_modify.trans h.size
  tag j := tag_setEntries g' i es j ▸ h.tag j
  content j := by
    rw [content?_setEntries hmapping, isMapping_setEntries hmapping]
    split
    · rename_i heq
      subst heq
      exact .inr ⟨h.isMapping i ▸ hmapping, hmapping⟩
    · exact h.content j
  hasEntry := by
    rintro e ⟨j, hj⟩
    rw [entries_setEntries hmapping] at hj
    split at hj
    · exact hentries e hj
    · exact h.hasEntry e ⟨j, hj⟩
  mergesOf j := by
    rw [mergesOf_setEntries hmapping]
    split
    · rename_i heq
      exact heq ▸ hle
    · exact h.mergesOf j

/-- How merging fails: as promised, or out of room where so many merges are asked for. -/
def Crowded (room : Nat) (g : Graph) (e : Error) : Prop :=
  e.isPromised = true ∨ e = .tooDeep ∧ room ≤ g.merges

/-- What does the merges of a mapping, with some room, and leaves it without any. -/
def Settles (room : Nat) (prepare : Nat → Graph → Except Error Graph) : Prop :=
  ∀ ⦃i : Nat⦄ ⦃g : Graph⦄, g.isMapping i = true →
    Meets (Crowded room g) (fun g' => g.Becomes g' ∧ g'.mergesOf i = 0) (prepare i g)

section

variable {room : Nat} {prepare : Nat → Graph → Except Error Graph} (h : Settles room prepare)
include h

end

end ClusterPilot.Yaml.Graph
