/-
Responses and their faults. A response that is read reports no fault, and one that is not keeps its
text and all faults in order. The list of some texts is read item by item: it is read exactly when
each item is read alone, and else it reports the faults of all items, each under the number of its
item.
-/
import ClusterPilot.Operation.Plan
import ClusterPilot.Proofs.Checked
import ClusterPilot.Proofs.Json.Joining

namespace ClusterPilot

open Json (Value FitsInList)

namespace Operation

/-! ## What a reading reports -/

/-- The faults that a reading reports. -/
def details {α : Type} : Except Failure α → List Fault
  | .error (.unreadable _ _ (some faults)) => faults
  | _ => []

section OfChecked

variable {α : Type} {what subject text : String} {c : Checked α}

theorem ofChecked_eq_ok_iff {a : α} : ofChecked what subject text c = .ok a ↔ c = .ok a := by
  cases c <;> simp [ofChecked]

theorem details_ofChecked : details (ofChecked what subject text c) = c.faults := by
  cases c <;> rfl

theorem ofChecked_of_faults (h : c.faults ≠ []) :
    ofChecked what subject text c = .error (.ofFaults what subject text c.faults) := by
  obtain ⟨f, fs, rfl, hfaults⟩ := Checked.eq_faulty_of_faults h
  rw [hfaults]
  rfl

end OfChecked

theorem readCluster_eq_ok_iff {text : String} {c : Cluster} :
    readCluster text = .ok c ↔ Response.one text = .ok c :=
  ofChecked_eq_ok_iff

theorem details_readCluster (text : String) :
    details (readCluster text) = (Response.one text).faults :=
  details_ofChecked

theorem readCluster_error_iff {text : String} :
    (∃ f, readCluster text = .error f) ↔ (Response.one text).faults ≠ [] := by
  unfold readCluster
  cases Response.one text <;> simp [ofChecked, Checked.faults]

end Operation

/-! ## Lists of texts -/

namespace Response

theorem one_of_read? {text : String} {v : Value} (h : Value.read? text = some v) :
    one text = record cluster v := by
  rw [one, ofText, h]

theorem listOf_ok_iff {α : Type} {read : Value → Checked α} {vs : List Value} {as : List α} :
    listOf read (.list vs) = .ok as ↔ List.Forall₂ (fun v a => read v = .ok a) vs as :=
  Checked.all_within_eq_ok_iff .index

/-- The faults of a list are those of its items, each under the number of its item. -/
theorem faults_listOf {α : Type} (read : Value → Checked α) (vs : List Value) :
    (listOf read (.list vs)).faults =
      (vs.mapIdx fun i v => (read v).faults.map (Fault.within (.index i))).flatten := by
  have hitems : (vs.mapIdx fun i v => (read v).within (.index i)).map Checked.faults =
      vs.mapIdx fun i v => (read v).faults.map (Fault.within (.index i)) := by
    refine (List.mapIdx_eq_iff.2 fun i => ?_).symm
    simp [Function.comp_def, Checked.faults_within]
  rw [listOf, Checked.faults_all, List.flatMap_def, hitems]

/-- The list of some texts is checked as the list of what these texts are checked as. -/
theorem many_brackets {texts : List String} (h : ∀ text ∈ texts, FitsInList text) :
    ∃ vs, vs.map (record cluster) = texts.map one ∧
      many ("[" ++ ",".intercalate texts ++ "]") = listOf (record cluster) (.list vs) := by
  obtain ⟨vs, hvs, hread⟩ := Json.read?_brackets h
  have hone : List.Forall₂ (fun text v => record cluster v = one text) texts vs :=
    hvs.imp fun _ _ htext => (one_of_read? htext).symm
  refine ⟨vs, ?_, ?_⟩
  · rw [← List.forall₂_eq_eq_eq, List.forall₂_map_left_iff, List.forall₂_map_right_iff]
    exact hone.flip
  · rw [many, ofText, hread]

theorem many_brackets_ok_iff {texts : List String} (h : ∀ text ∈ texts, FitsInList text)
    {cs : List Cluster} : many ("[" ++ ",".intercalate texts ++ "]") = .ok cs ↔
      List.Forall₂ (fun text c => one text = .ok c) texts cs := by
  obtain ⟨vs, hvs, hmany⟩ := many_brackets h
  -- both sides say that the checks of the items give these clusters
  have hleft := @List.forall₂_map_left_iff _ _ _ (fun check c => check = .ok c) (record cluster)
    vs cs
  rw [hmany, listOf_ok_iff, ← hleft, hvs, List.forall₂_map_left_iff]

theorem faults_many_brackets {texts : List String} (h : ∀ text ∈ texts, FitsInList text) :
    (many ("[" ++ ",".intercalate texts ++ "]")).faults =
      (texts.mapIdx fun i text => (one text).faults.map (Fault.within (.index i))).flatten := by
  obtain ⟨vs, hvs, hmany⟩ := many_brackets h
  rw [hmany, faults_listOf]
  refine congrArg List.flatten (List.mapIdx_eq_iff.2 fun i => ?_)
  have hitem : vs[i]?.map (record cluster) = texts[i]?.map one := by
    rw [← List.getElem?_map, ← List.getElem?_map, hvs]
  have hfaults := congrArg (Option.map fun c : Checked Cluster =>
    c.faults.map (Fault.within (.index i))) hitem
  rw [Option.map_map, Option.map_map] at hfaults
  rw [List.getElem?_mapIdx]
  exact hfaults.symm

end Response

namespace Operation

/-- The list of some texts is read item by item. -/
theorem readClusters_brackets {texts : List String} (h : ∀ text ∈ texts, FitsInList text) :
    let whole := "[" ++ ",".intercalate texts ++ "]"
    let faults := (texts.mapIdx fun i text =>
      (details (readCluster text)).map (Fault.within (.index i))).flatten
    (∀ cs, readClusters whole = .ok cs ↔
      List.Forall₂ (fun text c => readCluster text = .ok c) texts cs) ∧
    ((∃ text ∈ texts, ∃ f, readCluster text = .error f) →
      readClusters whole = .error (.unreadable
        ("Unexpected cluster list response: " ++ Failure.countLine faults.length "list[Cluster]")
        whole (some faults))) := by
  intro whole faults
  have hfaults : (Response.many whole).faults = faults := by
    simp only [faults, details_readCluster]
    exact Response.faults_many_brackets h
  constructor
  · intro cs
    rw [readClusters, ofChecked_eq_ok_iff, Response.many_brackets_ok_iff h]
    simp only [readCluster_eq_ok_iff]
  · rintro ⟨text, hmem, herror⟩
    have hne : faults ≠ [] := by
      obtain ⟨i, hi, rfl⟩ := List.getElem_of_mem hmem
      obtain ⟨fault, hfault⟩ := List.exists_mem_of_ne_nil _ (readCluster_error_iff.1 herror)
      have hitem : fault.within (.index i) ∈
          (details (readCluster texts[i])).map (Fault.within (.index i)) := by
        rw [details_readCluster]
        exact List.mem_map_of_mem hfault
      exact List.ne_nil_of_mem
        (List.mem_flatten.2 ⟨_, List.mem_mapIdx.2 ⟨i, hi, rfl⟩, hitem⟩)
    rw [← hfaults] at hne
    rw [readClusters, ofChecked_of_faults hne, hfaults]
    rfl

/-- A cluster between blanks, and two texts that are none. -/
def mixed : List String :=
  ["1.5", " \x7b\"clusterName\":\"c\",\"config\":\x7b\"masterConfig\":\x7b\x7d\x7d\x7d\n",
    "\x7b\"clusterName\":\"d\",\"labels\":\x7b\"k\":1\x7d\x7d"]

theorem readClusters_brackets_mixed :
    (∀ text ∈ mixed, FitsInList text) ∧
      details (readClusters ("[" ++ ",".intercalate mixed ++ "]")) =
        [⟨.notRecord, [.index 0]⟩, ⟨.notText, [.index 2, .key "labels", .key "k"]⟩,
          ⟨.missing, [.index 2, .key "config"]⟩] := by
  have hfits : ∀ text ∈ mixed, FitsInList text := by decide +kernel
  refine ⟨hfits, ?_⟩
  rw [(readClusters_brackets hfits).2 ⟨"1.5", List.mem_cons_self, _, rfl⟩]
  show (mixed.mapIdx fun i text =>
    (details (readCluster text)).map (Fault.within (.index i))).flatten = _
  decide +kernel

end Operation

end ClusterPilot
