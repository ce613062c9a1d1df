/-
Options read from specifications. Reading two lists of them, one after the other, is setting the
options of the second on top of those of the first; of both, the first specification that has no
key is what is told. A key that is read is not empty, has no blanks around it and holds no `=`, so
the options that were read can be written as specifications again, one for each key.
-/
import ClusterPilot.Proofs.CommandLine.Demands

namespace ClusterPilot.CommandLine

/-! ## One specification -/

/-- The specification that sets an entry: the key alone when there is no value. -/
def specification (e : String × Option String) : String :=
  match nonEmpty? e.2 with
  | some value => e.1 ++ "=" ++ value
  | none => e.1

/-- An entry as a specification sets it. -/
structure IsSpecified (e : String × Option String) : Prop where
  key : Command.IsName e.1
  trimmed : Text.trim e.1.toList = e.1.toList
  value : ∃ value, e.2 = some value

theorem isSpecified_of_parseOption {spec : String} {e : String × Option String}
    (h : parseOption spec = .ok e) : IsSpecified e := by
  refine ⟨isName_of_parseOption h, ?_, ?_⟩
  · obtain ⟨-, rfl⟩ := eq_of_parseOption h
    rw [String.toList_ofList]
    exact Text.trim_trim _
  · obtain ⟨-, rfl⟩ := eq_of_parseOption h
    exact ⟨_, rfl⟩

/-- What is before the first `=` of a specification and what is after it. -/
theorem cut_specification {key : String} (h : '=' ∉ key.toList) (value : String) :
    Text.cut '=' (specification (key, some value)).toList =
      (key.toList, if value = "" then none else some value.toList) := by
  unfold specification nonEmpty?
  by_cases hvalue : value = ""
  · simp only [if_pos hvalue]
    exact Text.cut_of_not_mem h
  · simp only [if_neg hvalue, String.toList_append, List.append_assoc]
    exact Text.cut_append h value.toList

/-- An entry is read from the specification that is written of it. -/
theorem parseOption_specification {e : String × Option String} (h : IsSpecified e) :
    parseOption (specification e) = .ok e := by
  obtain ⟨key, value?⟩ := e
  obtain ⟨⟨hne, heq⟩, htrim, value, rfl⟩ := h
  have hkey : ¬ key.toList.isEmpty = true := by
    rw [List.isEmpty_iff]
    exact fun hnil => hne (String.toList_eq_nil_iff.1 hnil)
  unfold parseOption
  rw [cut_specification heq]
  simp only [htrim, if_neg hkey, String.ofList_toList, Except.ok.injEq, Prod.mk.injEq,
    Option.some.injEq, true_and]
  by_cases hvalue : value = ""
  · rw [if_pos hvalue, hvalue]
    rfl
  · rw [if_neg hvalue]
    exact String.ofList_toList

/-! ## Lists of specifications -/

theorem mapM_map_ok {ε α β : Type} {f : β → Except ε α} {g : α → β} {as : List α}
    (h : ∀ a ∈ as, f (g a) = .ok a) : (as.map g).mapM f = .ok as := by
  induction as with
  | nil => rfl
  | cons a as ih =>
    rw [List.map_cons, List.mapM_cons, h a List.mem_cons_self,
      ih fun a' ha' => h a' (List.mem_cons_of_mem a ha')]
    rfl

theorem parseOptions_append (first rest : List String) :
    parseOptions (first ++ rest) = (do
      let m ← parseOptions first
      let m' ← parseOptions rest
      pure (m.update m')) := by
  unfold parseOptions
  rw [List.mapM_append]
  cases first.mapM parseOption with
  | error e => rfl
  | ok es =>
    cases rest.mapM parseOption with
    | error e => rfl
    | ok es' => exact congrArg Except.ok (OrderedMap.ofList_append es es')

theorem parseOptions_eq_error_iff {specs : List String} {e : Misuse} :
    parseOptions specs = .error e ↔
      ∃ spec, specs.find? (fun spec => Keyless spec) = some spec ∧ e = .badOption spec := by
  have hrefusal : parseOptions specs = .error e ↔ refusal? (parseOptions specs) = some e :=
    ⟨fun h => by rw [h]; rfl, eq_of_refusal?_eq_some⟩
  rw [hrefusal, refusal?_parseOptions, Demand.unmet?, Option.map_eq_some_iff]
  exact exists_congr fun _ => and_congr_right fun _ => eq_comm

/-- What reading some specifications, and others after them, comes to. -/
structure ReadInTurn (first rest : List String) : Prop where
  first_refused : ∀ e, parseOptions first = .error e → parseOptions (first ++ rest) = .error e
  rest_refused : ∀ m e, parseOptions first = .ok m → parseOptions rest = .error e →
    parseOptions (first ++ rest) = .error e
  /-- The options of the rest are set on top of those that come first. -/
  both : ∀ m m', parseOptions first = .ok m → parseOptions rest = .ok m' →
    ∃ merged, parseOptions (first ++ rest) = .ok merged ∧ m.OnTop m' merged
  refused_iff : (∃ e, parseOptions first = .error e) ↔ ∃ spec ∈ first, Keyless spec
  /-- The first specification without a key is the one that is told. -/
  refused : ∀ e, parseOptions first = .error e →
    ∃ spec, first.find? (fun spec => Keyless spec) = some spec ∧ e = .badOption spec ∧
      e.message = "Invalid option spec: " ++ Text.quoted spec
  keys : ∀ m, parseOptions first = .ok m → m.keys.Nodup ∧
    ∀ key ∈ m.keys, key ≠ "" ∧ Text.trim key.toList = key.toList ∧ '=' ∉ key.toList
  /-- Options that were read are read again from specifications of them. -/
  again : ∀ m, parseOptions first = .ok m → parseOptions (m.entries.map specification) = .ok m

/-- Specifications are read in turn. -/
theorem parseOptions_in_turn (first rest : List String) : ReadInTurn first rest := by
  have hspecified {m : OptionMap} (h : parseOptions first = .ok m) :
      ∀ e ∈ m.entries, IsSpecified e :=
    forall_mem_parseOptions (fun _ _ => isSpecified_of_parseOption) h
  constructor
  case first_refused =>
    intro e he
    rw [parseOptions_append, he]
    rfl
  case rest_refused =>
    intro m e hm he
    rw [parseOptions_append, hm, he]
    rfl
  case both =>
    intro m m' hm hm'
    refine ⟨m.update m', ?_, m.onTop_update m'⟩
    rw [parseOptions_append, hm, hm']
    rfl
  case refused_iff =>
    have hfind : (first.find? fun spec => Keyless spec).isSome ↔ ∃ spec ∈ first, Keyless spec := by
      simp [List.find?_isSome]
    rw [← hfind, Option.isSome_iff_exists]
    constructor
    · rintro ⟨e, he⟩
      obtain ⟨spec, hspec, -⟩ := parseOptions_eq_error_iff.1 he
      exact ⟨spec, hspec⟩
    · rintro ⟨spec, hspec⟩
      exact ⟨_, parseOptions_eq_error_iff.2 ⟨spec, hspec, rfl⟩⟩
  case refused =>
    intro e he
    obtain ⟨spec, hspec, rfl⟩ := parseOptions_eq_error_iff.1 he
    exact ⟨spec, hspec, rfl, rfl⟩
  case keys =>
    intro m hm
    refine ⟨m.nodup_keys, fun key hkey => ?_⟩
    obtain ⟨e, he, rfl⟩ := List.mem_map.1 hkey
    have hread := hspecified hm e he
    exact ⟨hread.key.1, hread.trimmed, hread.key.2⟩
  case again =>
    intro m hm
    unfold parseOptions
    rw [mapM_map_ok fun e he => parseOption_specification (hspecified hm e he)]
    exact congrArg Except.ok m.ofList_entries

-- the key that comes again keeps its place and takes the later value
example : (parseOptions ["zone=a=b", "x", " zone\t=c"]).map OrderedMap.entries =
    .ok [("zone", some "c"), ("x", some "")] := by decide +kernel

end ClusterPilot.CommandLine
