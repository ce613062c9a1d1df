/-
What a filter says can be read back from the command that lists clusters. Nothing is escaped in an
expression, so its clauses are told apart by the word between them and a clause by its first ` = `.
When no name holds a `=`, and no name and no value the word, neither stands where it does not
belong, whatever blanks begin or end a name or a value: every entry is read back in its place.
Without a filter the command ends with the options that choose the project and the region.
-/
import ClusterPilot.Proofs.Command
import ClusterPilot.Proofs.OrderedMap
import ClusterPilot.Proofs.Operation.Plans
import ClusterPilot.Proofs.Tool.Session
import ClusterPilot.Text.Separator

namespace ClusterPilot

namespace Command

open Text (between cutAt parts)

/-! ## Reading expressions -/

/-- The name and the value that a clause holds. -/
def readClause (clause : List Char) : String × String :=
  let (name, value) := cutAt " = ".toList clause
  (String.ofList name, String.ofList (value.getD []))

/-- The names and the values that an expression holds, clause by clause. -/
def readFilter (expression : String) : List (String × String) :=
  (parts " AND ".toList expression.toList).map readClause

/-- What a filter wants of a value: a value that is missing or empty may be anything. -/
def wanted : Option String → String
  | none => "*"
  | some v => if v = "" then "*" else v

/-- An entry that a clause can be read back to. -/
def IsClause (entry : String × Option String) : Prop :=
  '=' ∉ entry.1.toList ∧ ¬ "AND".toList <:+: entry.1.toList ∧
    ¬ "AND".toList <:+: (entry.2.getD "").toList

instance (entry : String × Option String) : Decidable (IsClause entry) :=
  inferInstanceAs (Decidable (_ ∧ _ ∧ _))

/-! ## One clause -/

theorem nonEmpty?_getD_wildcard (value : Option String) :
    (nonEmpty? value).getD wildcard = wanted value := by
  cases value with
  | none => rfl
  | some v => by_cases h : v = "" <;> simp [nonEmpty?, wanted, wildcard, h]

theorem toList_clause (entry : String × Option String) :
    (clause entry).toList =
      entry.1.toList ++ between ' ' ['='] ++ (wanted entry.2).toList := by
  unfold clause
  rw [nonEmpty?_getD_wildcard, String.toList_append, String.toList_append]
  rfl

theorem readClause_clause {entry : String × Option String} (h : IsClause entry) :
    readClause (clause entry).toList = (entry.1, wanted entry.2) := by
  have hname : ¬ ['='] <:+: entry.1.toList := fun hin => h.1 (hin.subset List.mem_cons_self)
  have hcut := Text.cutAt_append (by decide : ' ' ∉ ['=']) hname (wanted entry.2).toList
  rw [toList_clause, readClause]
  show (String.ofList (cutAt (between ' ' ['=']) _).1,
    String.ofList ((cutAt (between ' ' ['=']) _).2.getD [])) = _
  rw [hcut, Option.getD_some, String.ofList_toList, String.ofList_toList]

/-- The word between clauses stands in no clause. -/
theorem and_not_infix_clause {entry : String × Option String} (h : IsClause entry) :
    ¬ "AND".toList <:+: (clause entry).toList := by
  obtain ⟨-, hname, hvalue⟩ := h
  have hwanted : ¬ "AND".toList <:+: (wanted entry.2).toList := by
    cases hv : entry.2 with
    | none => decide
    | some v =>
      rw [hv] at hvalue
      by_cases hempty : v = ""
      · rw [hempty]
        decide
      · rw [wanted, if_neg hempty]
        exact hvalue
  rw [toList_clause, List.append_assoc]
  intro hword
  -- the blanks around `=` part the clause, and the word is on one side of each
  rcases Text.infix_of_infix_append (by decide) hword with hword | hword
  · exact hname hword
  · have hword : "AND".toList <:+: ['='] ++ ' ' :: (wanted entry.2).toList := hword
    rcases Text.infix_of_infix_append (by decide) hword with hword | hword
    · exact absurd hword (by decide)
    · exact hwanted hword

/-! ## All clauses -/

theorem toList_filter (filters : OptionMap) :
    (filter filters).toList = (between ' ' "AND".toList).intercalate
      (filters.entries.map fun e => (clause e).toList) := by
  rw [filter, String.toList_intercalate, List.map_map]
  rfl

theorem readFilter_filter {filters : OptionMap} (hne : filters.entries ≠ [])
    (h : ∀ e ∈ filters.entries, IsClause e) :
    readFilter (filter filters) = filters.entries.map fun e => (e.1, wanted e.2) := by
  have hparts : parts (between ' ' "AND".toList) (filter filters).toList =
      filters.entries.map fun e => (clause e).toList := by
    rw [toList_filter]
    refine Text.parts_intercalate (by decide) (by simpa using hne) fun piece hpiece => ?_
    obtain ⟨e, he, rfl⟩ := List.mem_map.1 hpiece
    exact and_not_infix_clause (h e he)
  show (parts (between ' ' "AND".toList) _).map readClause = _
  rw [hparts, List.map_map]
  exact List.map_congr_left fun e he => readClause_clause (h e he)

theorem clause_prefix_filter {filters : OptionMap} {e : String × Option String}
    {es : List (String × Option String)} (hes : filters.entries = e :: es) :
    (clause e).toList <+: (filter filters).toList := by
  rw [toList_filter, hes]
  cases es with
  | nil =>
    have hone : (between ' ' "AND".toList).intercalate
        ([e].map fun e => (clause e).toList) = (clause e).toList := by
      rw [List.map_singleton, List.intercalate_singleton]
    exact hone ▸ List.prefix_rfl
  | cons e' es =>
    rw [List.map_cons, List.map_cons, List.intercalate_cons_cons, List.append_assoc]
    exact List.prefix_append _ _

/-- The expression of a filter with an entry is not empty, so it stands in its option. -/
theorem option_filter {filters : OptionMap} (hne : filters.entries ≠ []) :
    option "filter" (some (filter filters)) = "--filter=" ++ filter filters := by
  obtain ⟨e, es, hes⟩ := List.exists_cons_of_ne_nil hne
  have hexpression : filter filters ≠ "" := by
    intro hempty
    have hprefix := clause_prefix_filter hes
    rw [hempty, toList_clause, String.toList_empty, List.prefix_nil] at hprefix
    simp [between] at hprefix
  rw [option_of_ne_empty hexpression]
  rfl

end Command

namespace Operation

open Tool (Runner)

/-- The words of a listing command up to its filter. -/
def listWords (s : Settings) (project region : String) : List String :=
  s.command :: Command.accountWords s.account ++ ["dataproc", "clusters", "list", "--format=json",
    "--quiet", Command.option "project" (some project), Command.option "region" (some region)]

theorem entries_place (project region : String) :
    (place project region).entries = [("project", some project), ("region", some region)] := by
  have hkeys : (List.map Prod.fst [("project", some project), ("region", some region)]).Nodup := by
    show ["project", "region"].Nodup
    decide
  exact OrderedMap.entries_ofList hkeys

theorem entries_place_insert (project region : String) (value : Option String) :
    ((place project region).insert "filter" value).entries =
      (place project region).entries ++ [("filter", value)] := by
  refine setEntry_of_not_mem value ?_
  rw [entries_place]
  show "filter" ∉ ["project", "region"]
  decide

theorem command_list (s : Settings) {project region : String} {options : OptionMap}
    {more : List (String × Option String)}
    (h : options.entries = (place project region).entries ++ more) :
    command s ["dataproc", "clusters", "list", formatJson] options [] =
      listWords s project region ++ more.map fun e => Command.option e.1 e.2 := by
  have hformat : formatJson = "--format=json" := by decide
  unfold command Command.words listWords Command.passedWords
  rw [h, entries_place, hformat, Command.quiet_eq]
  simp only [List.isEmpty_nil, if_true, List.append_nil, List.cons_append, List.nil_append,
    List.append_assoc, List.map_cons]

theorem command_listPlan_of_empty (s : Settings) (project region : String)
    {filters : Option OptionMap} (h : (filters.getD .empty).entries = []) :
    (listPlan s project region filters).run.command = listWords s project region := by
  have hempty : (filters.getD .empty).isEmpty = true := List.isEmpty_iff.2 h
  show command s _ (if _ then _ else _) [] = _
  rw [if_pos hempty, command_list s (List.append_nil _).symm]
  exact List.append_nil _

theorem command_listPlan_of_ne (s : Settings) (project region : String)
    {filters : Option OptionMap} (h : (filters.getD .empty).entries ≠ []) :
    (listPlan s project region filters).run.command = listWords s project region ++
      ["--filter=" ++ Command.filter (filters.getD .empty)] := by
  have hempty : ¬ (filters.getD .empty).isEmpty = true := fun hempty => h (List.isEmpty_iff.1 hempty)
  show command s _ (if _ then _ else _) [] = _
  rw [if_neg hempty, command_list s (entries_place_insert project region _), List.map_singleton,
    Command.option_filter h]

/-- The command that lists clusters determines the entries of its filter, in their order. -/
theorem list_filter_read {s : Settings} (live : s.dryRun = false) (project region : String)
    (filters : Option OptionMap) (clauses : ∀ e ∈ (filters.getD .empty).entries, Command.IsClause e)
    (runner : Runner) :
    ∃ words, ((list project region filters).perform s runner).runs = [⟨words, true⟩] ∧
      ((filters.getD .empty).entries = [] → words = listWords s project region) ∧
      ((filters.getD .empty).entries ≠ [] →
        ∃ expression, words = listWords s project region ++ ["--filter=" ++ expression] ∧
          Command.readFilter expression =
            (filters.getD .empty).entries.map fun e => (e.1, Command.wanted e.2)) := by
  refine ⟨(listPlan s project region filters).run.command, ?_, fun hempty => ?_, fun hne => ?_⟩
  · exact (((listPlan s project region filters).map Reply.clusters).perform_live_trace live runner).1
  · exact command_listPlan_of_empty s project region hempty
  · exact ⟨_, command_listPlan_of_ne s project region hne, Command.readFilter_filter hne clauses⟩

/-- A filter whose clauses are easily read otherwise: blanks around names and values, a name of
nothing, half of the word between clauses, and a ` = ` in a value. -/
def blurred : OptionMap :=
  .ofList [(" labels.env", some ""), ("", some " A"), ("ND ", none), ("AN D", some "x = y = ")]

theorem list_filter_read_blurred :
    ({} : Settings).dryRun = false ∧ (∀ e ∈ blurred.entries, Command.IsClause e) ∧
      ∃ expression,
        ((list "p" "r" (some blurred)).perform {} (Tool.Stub.exits 0 "[]").runner).runs =
          [⟨["gcloud", "dataproc", "clusters", "list", "--format=json", "--quiet", "--project=p",
            "--region=r", "--filter=" ++ expression], true⟩] ∧
        Command.readFilter expression =
          [(" labels.env", "*"), ("", " A"), ("ND ", "*"), ("AN D", "x = y = ")] := by
  have clauses : ∀ e ∈ blurred.entries, Command.IsClause e := by decide +kernel
  have live : ({} : Settings).dryRun = false := rfl
  obtain ⟨words, hruns, -, hread⟩ :=
    list_filter_read live "p" "r" (some blurred) clauses (Tool.Stub.exits 0 "[]").runner
  obtain ⟨expression, rfl, hexpression⟩ := hread (by decide +kernel)
  refine ⟨live, clauses, expression, ?_, hexpression.trans (by decide +kernel)⟩
  rw [hruns]
  rfl

end Operation

end ClusterPilot
