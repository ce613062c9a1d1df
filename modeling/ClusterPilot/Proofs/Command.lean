/-
Reading the words of a command back. An option word is read by dropping its dashes and cutting it at
the first `=`; when names hold no `=`, every option is read back with its value, an empty value
standing for none. A name that is not empty keeps an option word apart from the lone `--`, so the
first lone `--` after the options is the one that announces the passed words, whatever these hold.
-/
import ClusterPilot.Command
import ClusterPilot.Text.Basic
import Mathlib.Data.List.Nodup

namespace ClusterPilot

/-! ## Texts that may be missing -/

theorem nonEmpty?_eq_none_iff (value : Option String) :
    nonEmpty? value = none ↔ value = none ∨ value = some "" := by
  cases value with
  | none => simp [nonEmpty?]
  | some v => by_cases h : v = "" <;> simp [nonEmpty?, h]

theorem eq_some_of_nonEmpty? {value : Option String} {v : String} (h : nonEmpty? value = some v) :
    value = some v := by
  cases value with
  | none => cases h
  | some v' =>
    rw [nonEmpty?] at h
    split at h
    · cases h
    · exact h

theorem nonEmpty?_getD (value : Option String) : (nonEmpty? value).getD "" = value.getD "" := by
  cases h : nonEmpty? value with
  | none => rcases (nonEmpty?_eq_none_iff value).1 h with rfl | rfl <;> rfl
  | some v => rw [eq_some_of_nonEmpty? h]

namespace Command

/-- The name and the value that an option word holds. -/
def readOption (word : String) : String × String :=
  let (name, value) := Text.cut '=' (word.toList.drop 2)
  (String.ofList name, String.ofList (value.getD []))

/-- A name that an option word can be read back from. -/
def IsName (name : String) : Prop := name ≠ "" ∧ '=' ∉ name.toList

instance (name : String) : Decidable (IsName name) := inferInstanceAs (Decidable (_ ∧ _))

/-! ## One option -/

theorem option_of_ne_empty {value : String} (h : value ≠ "") (name : String) :
    option name (some value) = "--" ++ name ++ "=" ++ value := by
  simp only [option, nonEmpty?, if_neg h]

theorem toList_option (name : String) (value : Option String) :
    (option name value).toList = '-' :: '-' :: (name.toList ++
      match nonEmpty? value with
      | some v => '=' :: v.toList
      | none => []) := by
  unfold option
  cases nonEmpty? value with
  | some v => simp [String.toList_append]
  | none => simp [String.toList_append]

theorem option_starts (name : String) (value : Option String) :
    ['-', '-'] <+: (option name value).toList := by
  rw [toList_option]
  exact ⟨_, rfl⟩

theorem option_ne_separator {name : String} (h : name ≠ "") (value : Option String) :
    option name value ≠ separator := by
  intro heq
  have hlist : (option name value).toList = ['-', '-'] := by rw [heq]; rfl
  rw [toList_option] at hlist
  simp only [List.cons.injEq, true_and, List.append_eq_nil_iff] at hlist
  exact h (String.toList_eq_nil_iff.1 hlist.1)

theorem readOption_option {name : String} (h : '=' ∉ name.toList) (value : Option String) :
    readOption (option name value) = (name, value.getD "") := by
  unfold readOption
  rw [toList_option, ← nonEmpty?_getD value]
  cases nonEmpty? value with
  | some v =>
    simp only [List.drop_succ_cons, List.drop_zero, Text.cut_append h]
    simp
  | none =>
    simp only [List.drop_succ_cons, List.drop_zero, List.append_nil, Text.cut_of_not_mem h]
    simp

/-! ## The words after the options -/

/-- The option words of a map. -/
def optionWords (options : OptionMap) : List String :=
  options.entries.map fun e => option e.1 e.2

theorem separator_not_mem_optionWords {options : OptionMap}
    (h : ∀ e ∈ options.entries, IsName e.1) : separator ∉ optionWords options := by
  intro hmem
  obtain ⟨e, he, heq⟩ := List.mem_map.1 hmem
  exact option_ne_separator (h e he).1 e.2 heq

theorem readOption_optionWords {options : OptionMap} (h : ∀ e ∈ options.entries, IsName e.1) :
    (optionWords options).map readOption = options.entries.map fun e => (e.1, e.2.getD "") := by
  unfold optionWords
  rw [List.map_map]
  apply List.map_congr_left
  intro e he
  exact readOption_option (h e he).2 e.2

theorem all_ne_of_not_mem {sep : String} {ws : List String} (h : sep ∉ ws) :
    ∀ w ∈ ws, decide (w ≠ sep) = true := by
  intro w hw
  rw [decide_eq_true_eq]
  rintro rfl
  exact h hw

theorem takeWhile_ne_append {sep : String} {ws : List String} (h : sep ∉ ws)
    (rest : List String) : (ws ++ sep :: rest).takeWhile (· ≠ sep) = ws := by
  rw [List.takeWhile_append_of_pos (all_ne_of_not_mem h)]
  simp

theorem dropWhile_ne_append {sep : String} {ws : List String} (h : sep ∉ ws)
    (rest : List String) : (ws ++ sep :: rest).dropWhile (· ≠ sep) = sep :: rest := by
  rw [List.dropWhile_append_of_pos (all_ne_of_not_mem h)]
  simp

/-! ## The whole command -/

theorem quiet_eq : quiet = "--quiet" := by decide

/-- How many words stand before those of the subcommand. -/
def frontLength (account : Option String) : Nat :=
  if account = none ∨ account = some "" then 1 else 3

theorem length_accountWords (account : Option String) :
    (accountWords account).length + 1 = frontLength account := by
  unfold accountWords frontLength
  simp only [← nonEmpty?_eq_none_iff]
  cases nonEmpty? account <;> rfl

theorem words_eq (executable : String) (account : Option String) (subcommand : List String)
    (options : OptionMap) (arguments : List String) :
    words executable account subcommand options arguments =
      (executable :: accountWords account ++ subcommand) ++
        quiet :: (optionWords options ++ passedWords arguments) := by
  unfold words optionWords
  simp only [List.append_assoc, List.cons_append]

theorem length_front (executable : String) (account : Option String) (subcommand : List String) :
    (executable :: accountWords account ++ subcommand).length =
      frontLength account + subcommand.length := by
  rw [← length_accountWords]
  simp only [List.length_append, List.length_cons]

end Command

end ClusterPilot
