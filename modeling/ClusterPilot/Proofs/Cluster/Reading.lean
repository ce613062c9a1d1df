/-
Reading clusters back. Each value of a rendering is read as what it means, so each record is read
from any members that its fields give; all renderings of a cluster are read as that cluster, alone
and in a list.
-/
import ClusterPilot.Operation.Plan
import ClusterPilot.Proofs.Checked
import ClusterPilot.Proofs.Cluster.Rendering
import ClusterPilot.Proofs.OrderedMap

namespace ClusterPilot

open Json (Value)

namespace Response

/-! ## Reading the values -/

theorem IsText.text {s : String} {v : Value} (h : IsText s v) : text v = .ok s := by
  rw [h]; rfl

theorem IsCount.ofJson {i : Int} {v : Value} (hfits : Number.Fits i) (h : IsCount i v) :
    Count.ofJson v = .ok i := by
  rcases h with rfl | rfl
  · rfl
  · simp only [Count.ofJson, Count.ofText_decimal hfits]

/-- A list is read when all its items are. -/
theorem listOf_eq_ok {α : Type} {read : Value → Checked α} {as : List α} {vs : List Value}
    (h : List.Forall₂ (fun a v => read v = .ok a) as vs) : listOf read (.list vs) = .ok as :=
  (Checked.all_within_eq_ok_iff .index).2 h.flip

theorem IsTexts.listOf {ss : List String} {v : Value} (h : IsTexts ss v) :
    listOf text v = .ok ss := by
  rw [h]
  refine listOf_eq_ok ?_
  rw [List.forall₂_map_right_iff, List.forall₂_same]
  exact fun s _ => rfl

theorem IsTextMap.textMap {m : OrderedMap String} {v : Value} (h : IsTextMap m v) :
    textMap v = .ok m := by
  have hentries : ((m.entries.map fun e => (e.1, Value.text e.2)).map fun e =>
      ((text e.2).within (.key e.1)).map fun s => (e.1, s)) = m.entries.map .ok := by
    rw [List.map_map]
    exact List.map_congr_left fun e _ => rfl
  rw [h, Response.textMap, hentries, Checked.all_map_ok]
  exact congrArg Checked.ok m.ofList_entries

/-- Null is told apart from any value that is read. -/
theorem Nullable.nullable {α : Type} {means : α → Value → Prop} {read : Value → Checked α}
    {o : Option α} {v : Value} (h : Nullable means o v)
    (hread : ∀ a, o = some a → ∀ v, means a v → read v = .ok a) (hnull : ∀ a, read .null ≠ .ok a) :
    nullable read v = .ok o := by
  cases o with
  | none => rw [h]; rfl
  | some a =>
    have hv : read v = .ok a := hread a rfl v h
    unfold Response.nullable
    split
    · -- null itself is not read as a value
      exact absurd hv (hnull a)
    · rw [hv]; rfl

section Fields

variable {fields : List Field} {ms : Members} {name : FieldName} {α : Type}
  {means : α → Value → Prop} {o : Option α}

theorem Written.optional_eq (h : Written fields ms)
    (hapart : (fields.map Field.name).Pairwise FieldName.Apart)
    (hf : .optional name means o ∈ fields) {read : Value → Checked α}
    (hread : ∀ a, o = some a → ∀ v, means a v → read v = .ok a) (hnull : ∀ a, read .null ≠ .ok a) :
    withDefault none (nullable read) name ms = .ok o :=
  h.withDefault_eq hapart hf (fun _ hv => Nullable.nullable hv hread hnull) Eq.symm

theorem Written.optionalText_eq (h : Written fields ms)
    (hapart : (fields.map Field.name).Pairwise FieldName.Apart) {o : Option String}
    (hf : .optional name IsText o ∈ fields) : optionalText name ms = .ok o :=
  h.optional_eq hapart hf (fun _ _ _ hv => hv.text) fun _ => by simp [text, Checked.fault]

theorem Written.mandatory_eq (h : Written fields ms)
    (hapart : (fields.map Field.name).Pairwise FieldName.Apart) {values : Value → Prop}
    (hf : .mandatory name values ∈ fields) {read : Value → Checked α} {a : α}
    (hread : ∀ v, values v → read v = .ok a) : required read name ms = .ok a :=
  h.required_eq hapart hf hread id

end Fields

theorem IsRecord.record {fields : List Field} {v : Value} (h : IsRecord fields v) {α : Type}
    {read : Members → Checked α} {a : α} (hread : ∀ ms, Written fields ms → read ms = .ok a) :
    record read v = .ok a := by
  obtain ⟨ms, rfl, hms⟩ := h
  exact hread ms hms

/-! ## Reading the records -/

theorem nodeGroup_of_written {g : NodeGroup} (hfits : g.CountFits) {ms : Members}
    (h : Written (nodeGroupFields g) ms) : nodeGroup ms = .ok g := by
  have hapart : ((nodeGroupFields g).map Field.name).Pairwise FieldName.Apart := by
    simp [nodeGroupFields, Field.optional, FieldName.Apart]
  have hcount := h.optional_eq hapart (.head _) (fun i hi _ hv => hv.ofJson (hfits i hi))
    fun _ => by simp [Count.ofJson, Checked.fault]
  have hinstances := h.withDefault_eq hapart (.tail _ (.head _))
    (fun _ hv => IsTexts.listOf hv) Eq.symm
  have hmachineType := h.optionalText_eq hapart (.tail _ (.tail _ (.head _)))
  have himage := h.optionalText_eq hapart (.tail _ (.tail _ (.tail _ (.head _))))
  rw [nodeGroup, hcount, hinstances, hmachineType, himage]
  rfl

theorem clusterSetup_of_written {s : ClusterSetup} (hmaster : s.master.CountFits)
    (hworkers : ∀ g, s.workers = some g → g.CountFits) {ms : Members}
    (h : Written (clusterSetupFields s) ms) : clusterSetup ms = .ok s := by
  have hapart : ((clusterSetupFields s).map Field.name).Pairwise FieldName.Apart := by
    simp [clusterSetupFields, Field.optional, Field.mandatory, FieldName.Apart]
  have hbucket := h.optionalText_eq hapart (.head _)
  have hmaster := h.mandatory_eq hapart (.tail _ (.head _))
    fun _ hv => hv.record fun _ => nodeGroup_of_written hmaster
  have hworkers := h.optional_eq hapart (.tail _ (.tail _ (.head _)))
    (fun g hg _ hv => hv.record fun _ => nodeGroup_of_written (hworkers g hg))
    fun _ => by simp [record, Checked.fault]
  rw [clusterSetup, hbucket, hmaster, hworkers]
  rfl

theorem clusterState_of_written {s : ClusterState} {ms : Members}
    (h : Written (clusterStateFields s) ms) : clusterState ms = .ok s := by
  have hapart : ((clusterStateFields s).map Field.name).Pairwise FieldName.Apart := by
    simp [clusterStateFields, Field.optional, FieldName.Apart]
  have hname := h.optionalText_eq hapart (.head _)
  have hdetail := h.optionalText_eq hapart (.tail _ (.head _))
  have hsince := h.optionalText_eq hapart (.tail _ (.tail _ (.head _)))
  rw [clusterState, hname, hdetail, hsince]
  rfl

/-- A cluster is read from any members that its fields give. -/
theorem cluster_of_written {c : Cluster} (hfits : c.CountsFit) {ms : Members}
    (h : Written (clusterFields c) ms) : cluster ms = .ok c := by
  have hapart : ((clusterFields c).map Field.name).Pairwise FieldName.Apart := by
    simp [clusterFields, Field.optional, Field.mandatory, FieldName.Apart]
  have hname := h.mandatory_eq hapart (.head _) fun _ hv => hv.text
  have hproject := h.optionalText_eq hapart (.tail _ (.head _))
  have huuid := h.optionalText_eq hapart (.tail _ (.tail _ (.head _)))
  have hlabels : withDefault .empty textMap ⟨"labels", "labels"⟩ ms = .ok c.labels :=
    h.withDefault_eq hapart (.tail _ (.tail _ (.tail _ (.head _))))
      (fun _ hv => IsTextMap.textMap hv) fun hempty => OrderedMap.ext_entries hempty.symm
  have hstate := h.optional_eq hapart (.tail _ (.tail _ (.tail _ (.tail _ (.head _)))))
    (fun _ _ _ hv => hv.record fun _ => clusterState_of_written)
    fun _ => by simp [record, Checked.fault]
  have hsetup := h.mandatory_eq hapart (.tail _ (.tail _ (.tail _ (.tail _ (.tail _ (.head _))))))
    fun _ hv => hv.record fun _ => clusterSetup_of_written hfits.1 hfits.2
  rw [cluster, hname, hproject, huuid, hlabels, hstate, hsetup]
  rfl

theorem listOf_clusters {cs : List Cluster} (hfits : ∀ c ∈ cs, c.CountsFit) {vs : List Value}
    (h : List.Forall₂ (fun c v => IsRecord (clusterFields c) v) cs vs) :
    listOf (record cluster) (.list vs) = .ok cs := by
  refine listOf_eq_ok ((List.forall₂_and_left cs vs).2 ⟨hfits, h⟩ |>.imp ?_)
  rintro c v ⟨hc, hv⟩
  exact hv.record fun _ => cluster_of_written hc

/-! ## Reading the texts -/

/-- What a text writes is what is checked. -/
theorem ofText_of_writes {α : Type} (read : Value → Checked α) {v : Value} {text : String} {n : Nat}
    (hv : v.Within n) (hn : n ≤ Json.maxDepth) (h : v.Writes text) : ofText read text = read v := by
  rw [ofText, Value.read?_of_writes (hv.mono hn) h]

end Response

namespace Operation

/-- Every rendering of a cluster is read as that cluster, and every list of renderings as the list
of their clusters. -/
theorem renderings_read_back :
    (∀ (c : Cluster) (text : String), c.CountsFit → c.Rendering text →
      readCluster text = .ok c) ∧
    ∀ (cs : List Cluster) (text : String), (∀ c ∈ cs, c.CountsFit) →
      Cluster.ListRendering cs text → readClusters text = .ok cs := by
  refine ⟨?_, ?_⟩
  · rintro c text hfits ⟨v, hv, hwrites⟩
    have hread : Response.one text = .ok c := by
      rw [Response.one, Response.ofText_of_writes _ (hv.cluster_within hfits) (by decide) hwrites]
      exact hv.record fun _ => Response.cluster_of_written hfits
    rw [readCluster, hread]
    rfl
  · rintro cs text hfits ⟨vs, hvs, hwrites⟩
    have hread : Response.many text = .ok cs := by
      rw [Response.many,
        Response.ofText_of_writes _ (Response.clusters_within hfits hvs) (by decide) hwrites]
      exact Response.listOf_clusters hfits hvs
    rw [readClusters, hread]
    rfl

/-- A cluster with a letter in its name that may be escaped. -/
def accented : Cluster where
  name := "é"
  project := none
  uuid := none
  labels := .empty
  state := none
  setup := { bucket := none, master := ⟨some (-7), [], none, none⟩, workers := none }

/-- What a rendering of it may write. -/
def accentedValue : Value :=
  .object [("cluster_name", .text "é"),
    ("config", .object [("masterConfig", .object [("numInstances", .text "-7")])])]

theorem isRecord_accented : Response.IsRecord (Response.clusterFields accented) accentedValue := by
  refine ⟨_, rfl, [[("cluster_name", _)], [], [], [], [], [("config", _)]], ?_, .refl _⟩
  refine .cons (.member (.inr rfl) rfl) (.cons (.omitted rfl) (.cons (.omitted rfl)
    (.cons (.omitted rfl) (.cons (.omitted rfl) (.cons (.member (.inl rfl) ?_) .nil)))))
  refine ⟨_, rfl, [[], [("masterConfig", _)], []], ?_, .refl _⟩
  refine .cons (.omitted rfl) (.cons (.member (.inl rfl) ?_) (.cons (.omitted rfl) .nil))
  refine ⟨_, rfl, [[("numInstances", _)], [], [], []], ?_, .refl _⟩
  exact .cons (.member (.inl rfl) (.inr rfl)) (.cons (.omitted rfl) (.cons (.omitted rfl)
    (.cons (.omitted rfl) .nil)))

theorem renderings_read_back_accented :
    readCluster ("\x7b\"cluster_name\": \"\\u00E9\",\n\"config\":\x7b\"masterConfig\":" ++
      "\x7b\"numInstances\":\"-7\"\x7d\x7d\x7d") = .ok accented ∧
    readClusters ("[\x7b\"cluster_name\": \"\\u00E9\",\n\"config\":\x7b\"masterConfig\":" ++
      "\x7b\"numInstances\":\"-7\"\x7d\x7d\x7d]") = .ok [accented] := by
  have hfits : accented.CountsFit := by
    refine ⟨fun i hi => ?_, nofun⟩
    cases hi
    show (Number.digits 7).length < 4300
    decide
  have hname : Json.TextSpelled "é".toList (['\\', 'u', '0', '0', 'E', '9'] ++ []) :=
    .cons (.unit _ (by decide) (.cons (.inl rfl) (.cons (.inl rfl) (.cons (.inr (by decide))
      (.cons (.inl rfl) .nil))))) .nil
  have hplain : ∀ s : String, s.toList.any Json.mustEscape = false →
      Json.TokenSpelled (.text s) ('"' :: s.toList ++ ['"']) := fun s h => .text (.plain h)
  have hblank : ∀ c, c = ' ' ∨ c = '\t' ∨ c = '\n' ∨ c = '\r' → Json.Blanks [c] :=
    fun c h => List.forall_mem_singleton.2 h
  -- the tokens of the cluster, in front of whatever follows them
  have hspelled : ∀ {ts cs}, Json.Spelled ts cs → Json.Spelled (accentedValue.tokens ++ ts) _ :=
    fun hrest =>
      .tight .openObject <| .tight (hplain "cluster_name" (by decide)) <| .tight .colon <|
      .token (hblank ' ' (by decide)) (.text hname) <| .tight .comma <|
      .token (hblank '\n' (by decide)) (hplain "config" (by decide)) <| .tight .colon <|
      .tight .openObject <| .tight (hplain "masterConfig" (by decide)) <| .tight .colon <|
      .tight .openObject <| .tight (hplain "numInstances" (by decide)) <| .tight .colon <|
      .tight (hplain "-7" (by decide)) <| .tight .closeObject <| .tight .closeObject <|
      .tight .closeObject hrest
  refine ⟨renderings_read_back.1 accented _ hfits ⟨_, isRecord_accented, ?_⟩,
    renderings_read_back.2 [accented] _ (List.forall_mem_singleton.2 hfits)
      ⟨[_], .cons isRecord_accented .nil, ?_⟩⟩
  · exact Value.writes_of_spelled (hspelled .nil) (by decide +kernel)
  · exact Value.writes_of_spelled (.tight .openList (hspelled (.tight .closeList .nil)))
      (by decide +kernel)

end Operation

end ClusterPilot
