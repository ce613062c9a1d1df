/-
Options set on top of a caller's. Setting them by name leaves every map that stood on the shelf as
it was; the new map is the needed entries on top of the caller's, in which a key of the caller's
keeps its place and a needed one its value. So needing the same entries again changes nothing, and
needing some and then others is needing the others on top of the first.
-/
import ClusterPilot.Operation.Plan
import ClusterPilot.Proofs.OrderedMap

namespace ClusterPilot.Operation

namespace Shelf

variable (shelf : Shelf) (m : OptionMap)

/-- Setting an entry in the last map leaves the others alone. -/
theorem put_last (e : String × Option String) :
    put (shelf ++ [m]) shelf.length e = shelf ++ [m.insert e.1 e.2] := by
  induction shelf with
  | nil => rfl
  | cons first rest ih => exact congrArg (first :: ·) ih

theorem foldl_put_last (es : List (String × Option String)) :
    es.foldl (fun s e => put s shelf.length e) (shelf ++ [m]) = shelf ++ [m.insertAll es] := by
  induction es generalizing m with
  | nil => rfl
  | cons e es ih =>
    rw [List.foldl_cons, put_last, ih]
    rfl

/-- What is set by name is a new map after those of the shelf, and these are what they were. -/
theorem setByName_eq (caller : Option Nat) (needed : OptionMap) :
    shelf.setByName caller needed =
      (Operation.setByName (shelf.kept? caller) needed).map fun merged =>
        (shelf ++ [merged], shelf.length) := by
  unfold setByName Operation.setByName
  split
  · rfl
  · simp only [foldl_put_last]
    rfl

end Shelf

/-! ## Needing entries -/

theorem setByName_of_free {needed : OptionMap} (free : callerName ∉ needed.keys)
    (caller : Option OptionMap) :
    setByName caller needed = .ok ((caller.getD .empty).update needed) := by
  unfold setByName
  rw [if_neg fun h => free (List.contains_iff_mem.1 h)]
  rfl

theorem free_update {first more : OptionMap} (hfirst : callerName ∉ first.keys)
    (hmore : callerName ∉ more.keys) : callerName ∉ (first.update more).keys :=
  fun h => (OrderedMap.mem_keys_update.1 h).elim hfirst hmore

/-- What setting entries by name on top of a caller's comes to. -/
structure SetOnTop (shelf : Shelf) (caller : Option Nat) (needed merged : OptionMap) : Prop where
  /-- The maps of the shelf stand where they stood, as they were, and the new one after them. -/
  stays : shelf.setByName caller needed = .ok (shelf ++ [merged], shelf.length)
  set : setByName (shelf.kept? caller) needed = .ok merged
  distinct : merged.keys.Nodup
  /-- Where keys stand, and what is found under them. -/
  onTop : ((shelf.kept? caller).getD .empty).OnTop needed merged
  again : setByName (some merged) needed = .ok merged
  /-- Others that are needed after these are the same as both needed at once. -/
  further : ∀ more : OptionMap, callerName ∉ more.keys →
    ∃ both, setByName (some merged) more = .ok both ∧
      setByName (shelf.kept? caller) (needed.update more) = .ok both

/-- Entries that are set by name override a caller's, and leave the caller's own map alone. -/
theorem setByName_overrides (shelf : Shelf) (caller : Option Nat) {needed : OptionMap}
    (free : callerName ∉ needed.keys) :
    ∃ merged : OptionMap, SetOnTop shelf caller needed merged := by
  let own := (shelf.kept? caller).getD .empty
  have hset : setByName (shelf.kept? caller) needed = .ok (own.update needed) :=
    setByName_of_free free _
  refine ⟨own.update needed, ?_, hset, OrderedMap.nodup_keys _, own.onTop_update needed,
    ?_, ?_⟩
  · rw [Shelf.setByName_eq, hset]
    rfl
  · rw [setByName_of_free free, Option.getD_some, OrderedMap.update_update, OrderedMap.update_self]
  · intro more hmore
    refine ⟨(own.update needed).update more, setByName_of_free hmore _, ?_⟩
    rw [setByName_of_free (free_update free hmore), OrderedMap.update_update]

/-- A caller's region and zone. -/
def elsewhere : OptionMap := .ofList [("region", some "us-east1"), ("zone", some "us-east1-b")]

theorem setByName_overrides_region :
    let needed := place "p" "europe-west1"
    callerName ∉ needed.keys ∧
      ∃ merged, SetOnTop [elsewhere] (some 0) needed merged ∧ merged.entries =
        [("region", some "europe-west1"), ("zone", some "us-east1-b"), ("project", some "p")] := by
  intro needed
  have free : callerName ∉ needed.keys := by decide +kernel
  obtain ⟨merged, h⟩ := setByName_overrides [elsewhere] (some 0) free
  refine ⟨free, merged, h, ?_⟩
  have hset : setByName ([elsewhere] : Shelf)[0]? needed = .ok (elsewhere.update needed) := by
    rfl
  have hmerged : merged = elsewhere.update needed := Except.ok.inj (h.set.symm.trans hset)
  rw [hmerged]
  rfl

end ClusterPilot.Operation
