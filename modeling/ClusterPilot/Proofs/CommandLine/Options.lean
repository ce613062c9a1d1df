/-
Laws of what the command line says about options. Every key that is read from a specification is a
name that an option word can be read back from: it is not empty, and it holds no `=`, since it ends
before the first one. So is every key of the map that specifications set up.
-/
import ClusterPilot.CommandLine.Request
import ClusterPilot.Proofs.Checked
import ClusterPilot.Proofs.Command
import ClusterPilot.Proofs.OrderedMap
import ClusterPilot.Proofs.Text.Blank

namespace ClusterPilot.CommandLine

/-! ## Keys -/

/-- What is read of a specification: its key without the blanks around it, which is not empty, and
what follows the first `=`. -/
theorem eq_of_parseOption {spec : String} {e : String × Option String}
    (h : parseOption spec = .ok e) :
    Text.trim (Text.cut '=' spec.toList).1 ≠ [] ∧
      e = (String.ofList (Text.trim (Text.cut '=' spec.toList).1),
        some (String.ofList ((Text.cut '=' spec.toList).2.getD []))) := by
  simp only [parseOption] at h
  split at h
  · cases h
  · rename_i hne
    cases h
    exact ⟨fun hnil => hne (List.isEmpty_iff.2 hnil), rfl⟩

theorem isName_of_parseOption {spec : String} {e : String × Option String}
    (h : parseOption spec = .ok e) : Command.IsName e.1 := by
  obtain ⟨hne, rfl⟩ := eq_of_parseOption h
  refine ⟨fun hempty => hne (String.ofList_eq_empty_iff.1 hempty), fun hmem => ?_⟩
  rw [String.toList_ofList] at hmem
  exact Text.not_mem_cut_fst '=' spec.toList (Text.mem_of_mem_trim hmem)

/-- What every specification says of the entry that it sets holds of all options. -/
theorem forall_mem_parseOptions {P : String × Option String → Prop}
    (hP : ∀ spec e, parseOption spec = .ok e → P e) {specs : List String} {options : OptionMap}
    (h : parseOptions specs = .ok options) : ∀ e ∈ options.entries, P e := by
  obtain ⟨es, hes, rfl⟩ := map_ok h
  apply OrderedMap.forall_mem_ofList
  intro e he
  obtain ⟨i, hi, rfl⟩ := List.getElem_of_mem he
  have hlen := (mapM_ok hes).length_eq
  have hget := (List.forall₂_iff_get.1 (mapM_ok hes)).2 i (by omega) hi
  exact hP _ _ hget

theorem isName_of_parseOptions {specs : List String} {options : OptionMap}
    (h : parseOptions specs = .ok options) : ∀ e ∈ options.entries, Command.IsName e.1 :=
  forall_mem_parseOptions (fun _ _ => isName_of_parseOption) h

end ClusterPilot.CommandLine
