/-
What a list of clusters shows. Under a header, the clusters of the response come one to a line in
the order of the response, each with the text that the response gives for its state. A question mark
stands where the response has no state for a cluster; but where it has one without a name, a word
for nothing stands in its place. So the list marks every state that is not known exactly when no
state of the response lacks its name.
-/
import ClusterPilot.Proofs.Cluster.Independence
import ClusterPilot.Proofs.CommandLine.Demands

namespace ClusterPilot

open Json (Value)

namespace Response

/-! ## The states that a response gives -/

/-- The value that is found in a field of an object. -/
def member? (f : FieldName) : Value → Option Value
  | .object ms => value? ms f
  | _ => none

/-- A value that is a text. -/
def asText? : Value → Option String
  | .text s => some s
  | _ => none

/-- What a response has for the state of a cluster. -/
def status? (v : Value) : Option Value := member? ⟨"status", "status"⟩ v

/-- The text that a response gives for the state of a cluster. -/
def givenState? (v : Value) : Option String :=
  ((status? v).bind (member? ⟨"state", "state"⟩)).bind asText?

/-- Whether a response has a state for a cluster and no name for this state. -/
def isUnnamed (v : Value) : Bool :=
  match status? v with
  | some (.object _) => (givenState? v).isNone
  | _ => false

/-- The text that a response gives for the state of a cluster, or a mark when it gives none. -/
def markedState (v : Value) : String := (givenState? v).getD "?"

/-- The text that is shown for the state of a cluster. -/
def shownState (v : Value) : String := if isUnnamed v then "None" else markedState v

/-! ## The states that are read -/

theorem optionalText_eq_ok {f : FieldName} {ms : Members} {o : Option String}
    (h : optionalText f ms = .ok o) : o = (value? ms f).bind asText? := by
  rcases withDefault_eq_ok_iff.1 h with ⟨hvalue, rfl⟩ | ⟨v, hvalue, hread⟩
  · rw [hvalue]
    rfl
  · rw [hvalue]
    cases v with
    | null | text => exact (Checked.ok.inj hread).symm
    | bool | integer | number | list | object => cases hread

/-- The state that a list shows for a cluster is told by what the response has for it. -/
theorem state_of_read {v : Value} {c : Cluster} (h : record cluster v = .ok c) :
    CommandLine.Shown.state c = shownState v := by
  cases v with
  | null | bool | integer | number | text | list => cases h
  | object ms =>
    obtain ⟨-, -, -, -, hstate, -⟩ := cluster_eq_ok h
    rcases optionalRecord_eq_ok hstate with ⟨hnull, hnone⟩ | ⟨is, s, hvalue, hs, hsome⟩
    · -- no state, so no name of one either
      rw [CommandLine.Shown.state, hnone]
      rcases hnull with hvalue | hvalue <;>
        simp [shownState, isUnnamed, markedState, givenState?, status?, member?, hvalue]
    · have hname : givenState? (.object ms) = s.name := by
        rw [givenState?, status?, member?, hvalue]
        exact (optionalText_eq_ok (clusterState_eq_ok hs).1).symm
      rw [CommandLine.Shown.state, hsome, shownState, isUnnamed, status?, member?, hvalue,
        markedState, hname]
      cases hgiven : s.name <;> simp [hgiven]

end Response

namespace CommandLine

open Response
open Tool (Runner)

/-! ## Listings -/

/-- The line of a cluster, with the text for its state. -/
def entry (state : Value → String) (v : Value) (c : Cluster) : String :=
  "  " ++ c.name ++ ": " ++ state v ++ "\n"

/-- The lines of clusters, one for each in their order, or a line that tells that there are none. -/
def entries (state : Value → String) (vs : List Value) (cs : List Cluster) : String :=
  if cs.isEmpty then "  No clusters found\n" else String.join (List.zipWith (entry state) vs cs)

/-- What is printed for clusters: the header, and their lines. -/
def listing (state : Value → String) (vs : List Value) (cs : List Cluster) : String :=
  "Clusters:\n" ++ String.ofList (List.replicate 60 '-') ++ "\n" ++ entries state vs cs

/-- The items of a list and the clusters that they are read as. -/
abbrev ReadAs (vs : List Value) (cs : List Cluster) : Prop :=
  List.Forall₂ (fun v c => record cluster v = .ok c) vs cs

section Listings

variable {vs : List Value} {cs : List Cluster} {v : Value}

theorem map_entries (h : ReadAs vs cs) :
    cs.map (fun c => line ("  " ++ c.name ++ ": " ++ Shown.state c)) =
      List.zipWith (entry shownState) vs cs := by
  induction h with
  | nil => rfl
  | cons hitem _ ih =>
    rw [List.map_cons, List.zipWith_cons_cons, ih, state_of_read hitem]
    rfl

theorem ofClusters_text (h : ReadAs vs cs) :
    (Shown.ofClusters cs).text = listing shownState vs cs := by
  rw [listing, entries, ← map_entries h]
  rfl

theorem shownState_of_not_isUnnamed (h : isUnnamed v = false) : shownState v = markedState v := by
  rw [shownState, h, if_neg Bool.false_ne_true]

/-- Lines with and without the word for nothing differ at its first letter. -/
theorem entry_append_ne (h : isUnnamed v = true) (c : Cluster) (rest rest' : String) :
    entry shownState v c ++ rest ≠ entry markedState v c ++ rest' := by
  have hgiven : givenState? v = none := by
    unfold isUnnamed at h
    split at h
    · exact Option.isNone_iff_eq_none.1 h
    · cases h
  rw [entry, entry, shownState, h, if_pos rfl, markedState, hgiven, Option.getD_none]
  simp only [String.append_assoc, ne_eq, String.append_right_inj]
  intro heq
  have hhead := congrArg (fun s : String => s.toList.head?) heq
  simp at hhead

theorem join_entries_eq_iff (h : ReadAs vs cs) :
    String.join (List.zipWith (entry shownState) vs cs) =
        String.join (List.zipWith (entry markedState) vs cs) ↔ ∀ v ∈ vs, isUnnamed v = false := by
  induction h with
  | nil => simp
  | @cons v c vs cs _ _ ih =>
    rw [List.zipWith_cons_cons, List.zipWith_cons_cons, String.join_cons, String.join_cons,
      List.forall_mem_cons]
    -- up to the first state without a name the lines are the same
    cases hunnamed : isUnnamed v with
    | true => simp [entry_append_ne hunnamed c]
    | false =>
      rw [entry, entry, shownState_of_not_isUnnamed hunnamed, String.append_right_inj, ih]
      simp

/-- A listing marks every state that is not known exactly when each state has a name. -/
theorem listing_eq_iff (h : ReadAs vs cs) :
    listing shownState vs cs = listing markedState vs cs ↔ ∀ v ∈ vs, isUnnamed v = false := by
  rw [listing, listing, String.append_right_inj]
  cases h with
  | nil => simp [entries]
  | cons hitem hrest => exact join_entries_eq_iff (.cons hitem hrest)

end Listings

/-! ## The action -/

/-- A response that is read as clusters is a list with an item for each of them. -/
theorem exists_items {text : String} {cs : List Cluster}
    (h : Operation.readClusters text = .ok cs) :
    ∃ vs, Value.read? text = some (.list vs) ∧ ReadAs vs cs := by
  rw [Operation.readClusters, Operation.ofChecked_eq_ok_iff, many, ofText] at h
  cases hread : Value.read? text with
  | none =>
    rw [hread] at h
    cases h
  | some v =>
    rw [hread] at h
    cases v with
    | list vs => exact ⟨vs, rfl, listOf_ok_iff.1 h⟩
    | null | bool | integer | number | text | object => cases h

/-- A live list whose response is read shows all clusters of the response in their order, each with
the state that the response gives. It is the list with a mark for every state that is not given
exactly when no state of the response lacks its name. -/
theorem list_shown {files : Config.Files} {r : Request} {s : Settings}
    (hs : r.settings files = .ok s) (live : s.dryRun = false) {project region : Option String}
    {filters : List String} (ha : r.action = .list project region filters)
    (met : r.action.unmet? s = none) (runner : Runner) :
    ∃ run, (r.run files runner).runs = [run] ∧ ∀ text cs, runner run = .ok ⟨0, text⟩ →
      Operation.readClusters text = .ok cs → ∃ vs, Value.read? text = some (.list vs) ∧
        ReadAs vs cs ∧ (r.run files runner).ending = .ok 0 ∧
        (r.run files runner).stdout = listing shownState vs cs ∧
        ((r.run files runner).stdout = listing markedState vs cs ↔
          ∀ v ∈ vs, isUnnamed v = false) := by
  have hrun : r.run files runner = r.action.run s runner := by rw [Request.run, hs]
  obtain ⟨p, hp⟩ := exists_plan_of_met met
  rw [hrun]
  refine ⟨p.run, runs_of_plan live hp runner, fun text cs hanswer hcs => ?_⟩
  have hread : p.read ⟨0, text⟩ = .ok (Shown.ofClusters cs) := by
    have hplanned := planned_of_plan hp
    rw [ha] at hplanned
    cases hplanned with
    | list project region =>
      show (Operation.readClusters text >>= fun cs => .ok (Shown.ofClusters cs)) = _
      rw [hcs]
      rfl
  obtain ⟨vs, hvs, hitems⟩ := exists_items hcs
  have hreport : r.action.run s runner =
      { stdout := (Shown.ofClusters cs).text, stderr := watched s runner p.run, runs := [p.run],
        ending := .ok 0 } := by
    rw [run_live hp runner live, hanswer]
    simp only [bind, Except.bind, hread]
    rfl
  rw [ofClusters_text hitems] at hreport
  rw [hreport]
  exact ⟨vs, hvs, hitems, rfl, rfl, listing_eq_iff hitems⟩

/-- A cluster of which nothing but its name and its state is known. -/
def bare (name : String) (state : Option ClusterState) : Cluster :=
  ⟨name, none, none, .empty, state, ⟨none, ⟨none, [], none, none⟩, none⟩⟩

/-- A cluster that runs. -/
def running : String :=
  "[\x7b\"clusterName\":\"a\",\"status\":\x7b\"state\":\"UP\"\x7d," ++
    "\"config\":\x7b\"masterConfig\":\x7b\x7d\x7d\x7d]"

theorem list_shown_running :
    let files : Config.Files := fun _ => .missing
    let r : Request := { action := .list (some "p") (some "r") [] }
    let runner := (Tool.Stub.exits 0 running).runner
    r.settings files = .ok {} ∧ r.action.unmet? {} = none ∧
      (r.run files runner).stdout = "Clusters:\n" ++
        "------------------------------------------------------------\n" ++ "  a: UP\n" := by
  intro files r runner
  have hs : r.settings files = .ok {} := by decide +kernel
  have met : r.action.unmet? {} = none := by decide +kernel
  refine ⟨hs, met, ?_⟩
  obtain ⟨run, hruns, htold⟩ := list_shown hs rfl rfl met runner
  have hrun : (r.run files runner).runs = [⟨["gcloud", "dataproc", "clusters", "list",
      "--format=json", "--quiet", "--project=p", "--region=r"], true⟩] := by decide +kernel
  obtain rfl := List.singleton_injective (hruns.symm.trans hrun)
  have hread : Value.read? running = some (.list [.object [("clusterName", .text "a"),
      ("status", .object [("state", .text "UP")]),
      ("config", .object [("masterConfig", .object [])])]]) := by
    rfl
  obtain ⟨vs, hvs, -, -, hstdout, -⟩ := htold running [bare "a" (some ⟨some "UP", none, none⟩)]
    rfl (by rfl)
  obtain rfl := Value.list.inj (Option.some.inj (hvs.symm.trans hread))
  rw [hstdout]
  decide +kernel

/-- A state without a name is not marked as one that is not known. -/
theorem unnamed_not_marked :
    let files : Config.Files := fun _ => .missing
    let r : Request := { action := .list (some "p") (some "r") [] }
    let text := "[\x7b\"clusterName\":\"c\",\"status\":\x7b\x7d," ++
      "\"config\":\x7b\"masterConfig\":\x7b\x7d\x7d\x7d]"
    let item := Value.object [("clusterName", .text "c"), ("status", .object []),
      ("config", .object [("masterConfig", .object [])])]
    let stdout := (r.run files (Tool.Stub.exits 0 text).runner).stdout
    Value.read? text = some (.list [item]) ∧
      Operation.readClusters text = .ok [bare "c" (some ⟨none, none, none⟩)] ∧
      givenState? item = none ∧
      stdout = "Clusters:\n" ++
        "------------------------------------------------------------\n" ++ "  c: None\n" ∧
      stdout ≠ listing markedState [item] [bare "c" (some ⟨none, none, none⟩)] := by
  refine ⟨by rfl, by rfl, rfl, ?_⟩
  decide +kernel

end CommandLine

end ClusterPilot
