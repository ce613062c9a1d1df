/-
A line of quoted words is a faithful shell command. Each word is read back from wherever a line
reads bare text, and with one blank after each the words stay apart. Outside its quotes such a line
holds plain characters and the blanks between words, so no shell does more with it than take the
words from it.
-/
import ClusterPilot.Tool.Plan

namespace ClusterPilot.Shell

/-! ## What stands outside quotes -/

/-- The characters of a line in their places, with nothing in the place of a character that is a
quote or stands between quotes. -/
def outside : Quoting → List Char → List (Option Char)
  | _, [] => []
  | .bare, c :: cs =>
    if c = '\'' then none :: outside .single cs
    else if c = '"' then none :: outside .double cs
    else some c :: outside (if c = '\\' then .escaped else .bare) cs
  | .escaped, c :: cs => some c :: outside .bare cs
  | .single, c :: cs => none :: outside (if c = '\'' then .bare else .single) cs
  | .double, c :: cs =>
    none :: outside (if c = '"' then .bare else if c = '\\' then .doubleEscaped else .double) cs
  | .doubleEscaped, _ :: cs => none :: outside .double cs

/-- An ASCII letter, an ASCII digit, or one of ten marks. -/
def IsPlain (c : Char) : Prop :=
  'a' ≤ c ∧ c ≤ 'z' ∨ 'A' ≤ c ∧ c ≤ 'Z' ∨ '0' ≤ c ∧ c ≤ '9' ∨
    c ∈ ['_', '@', '%', '+', '=', ':', ',', '.', '/', '-']

/-- Outside quotes a line has nothing but plain characters and a single blank between each two of
its `n` words. -/
def PlainOutside (n : Nat) (line : List Char) : Prop :=
  ∃ pieces : List (List (Option Char)), pieces.length = n ∧
    outside .bare line = [some ' '].intercalate pieces ∧
    ∀ piece ∈ pieces, piece ≠ [] ∧ ∀ c, some c ∈ piece → IsPlain c

/-! ## Harmless characters -/

theorem isPlain_of_isSafe {c : Char} (h : isSafe c = true) : IsPlain c := by
  unfold isSafe Char.isAlphanum Char.isAlpha Char.isUpper Char.isLower Char.isDigit at h
  unfold IsPlain
  simp only [Bool.or_eq_true, Bool.and_eq_true, decide_eq_true_eq, List.contains_iff_mem] at h
  rcases h with ((h | h) | h) | h
  · exact .inr (.inl h)
  · exact .inl h
  · exact .inr (.inr (.inl h))
  · exact .inr (.inr (.inr h))

theorem ne_of_isSafe {c d : Char} (h : isSafe c = true) (hd : isSafe d = false) : c ≠ d := by
  rintro rfl
  rw [h] at hd
  cases hd

theorem isActive_of_isSafe {c : Char} (h : isSafe c = true) : isActive c = false := by
  have hrefused : (['|', '&', ';', '<', '>', '(', ')', '$', '\x60', '\n', '*', '?', '[', ']', '#',
      '~', '!', '\x7b', '\x7d'].all fun d => !isSafe d) = true := by decide
  rw [← Bool.not_eq_true, isActive, List.contains_iff_mem]
  intro hactive
  have hnot := List.all_eq_true.1 hrefused c hactive
  rw [h] at hnot
  cases hnot

/-! ## Reading a quoted word -/

section Reading

variable {word : List Char} (acc : List Char) (begun : Option (List Char)) (rest : List Char)

theorem splitFrom_cons_safe {c : Char} (h : isSafe c = true) :
    splitFrom .bare begun (c :: rest) = splitFrom .bare (some (c :: begun.getD [])) rest := by
  have hblank : ¬ (c = ' ' ∨ c = '\t') := by
    rintro (rfl | rfl)
    · exact absurd h (by decide)
    · exact absurd h (by decide)
  rw [splitFrom, if_neg (ne_of_isSafe h (by decide)), if_neg (ne_of_isSafe h (by decide)),
    if_neg (ne_of_isSafe h (by decide)), if_neg hblank, isActive_of_isSafe h]
  rfl

/-- Harmless characters are read as they are. -/
theorem splitFrom_safe (h : ∀ c ∈ word, isSafe c = true) :
    splitFrom .bare (some acc) (word ++ rest) = splitFrom .bare (some (word.reverse ++ acc)) rest := by
  induction word generalizing acc with
  | nil => rfl
  | cons c cs ih =>
    rw [List.cons_append, splitFrom_cons_safe _ _ (h c List.mem_cons_self), Option.getD_some,
      ih _ fun d hd => h d (List.mem_cons_of_mem c hd), List.reverse_cons, List.append_assoc,
      List.singleton_append]

/-- Between apostrophes each character is read as it is; an apostrophe is read between double
quotes, where the line reads bare text on both sides. -/
theorem splitFrom_single (word : List Char) :
    splitFrom .single (some acc) (word.flatMap quoteChar ++ '\'' :: rest) =
      splitFrom .bare (some (word.reverse ++ acc)) rest := by
  induction word generalizing acc with
  | nil => rfl
  | cons c cs ih =>
    have hchar : splitFrom .single (some acc)
        (quoteChar c ++ (cs.flatMap quoteChar ++ '\'' :: rest)) =
        splitFrom .single (some (c :: acc)) (cs.flatMap quoteChar ++ '\'' :: rest) := by
      unfold quoteChar
      by_cases hc : c = '\''
      · -- out of the apostrophes, into double quotes and back
        subst hc
        rfl
      · rw [if_neg hc, List.singleton_append, splitFrom, if_neg hc, Option.getD_some]
    rw [List.flatMap_cons, List.append_assoc, hchar, ih, List.reverse_cons, List.append_assoc,
      List.singleton_append]

/-- A quoted word is read as that word, and added to one that has begun. -/
theorem splitFrom_quote (word : List Char) :
    splitFrom .bare begun (quote word ++ rest) =
      splitFrom .bare (some (word.reverse ++ begun.getD [])) rest := by
  unfold quote
  split
  · rename_i hempty
    rw [List.isEmpty_iff.1 hempty]
    rfl
  · rename_i hne
    split
    · rename_i hsafe
      rw [List.all_eq_true] at hsafe
      cases word with
      | nil => exact absurd rfl hne
      | cons c cs =>
        rw [List.cons_append, splitFrom_cons_safe _ _ (hsafe c List.mem_cons_self),
          splitFrom_safe _ _ fun d hd => hsafe d (List.mem_cons_of_mem c hd), List.reverse_cons,
          List.append_assoc, List.singleton_append]
    · have hopen : splitFrom .bare begun ('\'' :: (word.flatMap quoteChar ++ '\'' :: rest)) =
          splitFrom .single (some (begun.getD [])) (word.flatMap quoteChar ++ '\'' :: rest) := rfl
      rw [List.cons_append, List.cons_append, List.append_assoc, List.singleton_append, hopen,
        splitFrom_single]

end Reading

/-- Quoted words with a blank between each two are read back. -/
theorem splitFrom_intercalate (words : List (List Char)) :
    splitFrom .bare none ([' '].intercalate (words.map quote)) = some words := by
  induction words with
  | nil => rfl
  | cons word words ih =>
    cases words with
    | nil =>
      have hword := splitFrom_quote none [] word
      rw [List.append_nil, Option.getD_none, List.append_nil] at hword
      rw [List.map_cons, List.map_nil, List.intercalate_singleton, hword, splitFrom, if_pos rfl]
      simp
    | cons next words =>
      -- the blank ends the word, and none has begun for what follows
      have hblank : ∀ cs, splitFrom .bare (some word.reverse) (' ' :: cs) =
          (splitFrom .bare none cs).map (word :: ·) := by
        intro cs
        rw [splitFrom]
        simp
      rw [List.map_cons, List.map_cons, List.intercalate_cons_cons, List.append_assoc,
        splitFrom_quote, Option.getD_none, List.append_nil, List.singleton_append, hblank,
        ← List.map_cons, ih]
      rfl

theorem toList_join (words : List String) :
    (join words).toList = [' '].intercalate ((words.map String.toList).map quote) := by
  simp [join, Function.comp_def]

theorem split?_join (words : List String) : split? (join words) = some words := by
  rw [split?, toList_join, splitFrom_intercalate, Option.map_some, List.map_map]
  simp [Function.comp_def]

/-! ## What a quoted word has outside its quotes -/

theorem outside_cons_safe {c : Char} (h : isSafe c = true) (rest : List Char) :
    outside .bare (c :: rest) = some c :: outside .bare rest := by
  rw [outside, if_neg (ne_of_isSafe h (by decide)), if_neg (ne_of_isSafe h (by decide)),
    if_neg (ne_of_isSafe h (by decide))]

theorem outside_safe {word : List Char} (h : ∀ c ∈ word, isSafe c = true) (rest : List Char) :
    outside .bare (word ++ rest) = word.map some ++ outside .bare rest := by
  induction word with
  | nil => rfl
  | cons c cs ih =>
    rw [List.cons_append, outside_cons_safe (h c List.mem_cons_self),
      ih fun d hd => h d (List.mem_cons_of_mem c hd)]
    rfl

/-- A text between apostrophes has nothing outside. -/
theorem exists_outside_single (word : List Char) : ∃ n, ∀ rest,
    outside .single (word.flatMap quoteChar ++ '\'' :: rest) =
      List.replicate n none ++ outside .bare rest := by
  induction word with
  | nil => exact ⟨1, fun rest => rfl⟩
  | cons c cs ih =>
    obtain ⟨n, hn⟩ := ih
    by_cases hc : c = '\''
    · -- an apostrophe is written with five characters, all of them quotes or between quotes
      subst hc
      refine ⟨n + 5, fun rest => ?_⟩
      rw [List.flatMap_cons, List.append_assoc, quoteChar, if_pos rfl]
      simp [outside, hn, List.replicate_succ]
    · refine ⟨n + 1, fun rest => ?_⟩
      rw [List.flatMap_cons, List.append_assoc, quoteChar, if_neg hc, List.singleton_append,
        outside, if_neg hc, hn, List.replicate_succ, List.cons_append]

theorem exists_outside_quote (word : List Char) :
    ∃ piece : List (Option Char), (piece ≠ [] ∧ ∀ c, some c ∈ piece → IsPlain c) ∧
      ∀ rest, outside .bare (quote word ++ rest) = piece ++ outside .bare rest := by
  unfold quote
  split
  · exact ⟨[none, none], by simp, fun rest => rfl⟩
  · rename_i hne
    split
    · rename_i hsafe
      rw [List.all_eq_true] at hsafe
      refine ⟨word.map some, ⟨by simpa using hne, fun c hc => ?_⟩, outside_safe hsafe⟩
      obtain ⟨d, hd, hdc⟩ := List.mem_map.1 hc
      cases hdc
      exact isPlain_of_isSafe (hsafe c hd)
    · obtain ⟨n, hn⟩ := exists_outside_single word
      refine ⟨none :: List.replicate n none, ⟨List.cons_ne_nil _ _, fun c hc => ?_⟩, fun rest => ?_⟩
      · simp at hc
      · rw [List.cons_append, List.cons_append, List.append_assoc, List.singleton_append]
        show none :: outside .single (word.flatMap quoteChar ++ '\'' :: rest) = _
        rw [hn, List.cons_append]

/-- Between two words there is a blank, and no other character outside quotes is special. -/
theorem plainOutside_intercalate (words : List (List Char)) :
    PlainOutside words.length ([' '].intercalate (words.map quote)) := by
  induction words with
  | nil => exact ⟨[], rfl, rfl, by simp⟩
  | cons word words ih =>
    obtain ⟨piece, hpiece, hout⟩ := exists_outside_quote word
    cases words with
    | nil =>
      have hout := hout []
      rw [List.append_nil] at hout
      exact ⟨[piece], rfl, by simpa [outside] using hout, by simpa using hpiece⟩
    | cons next words =>
      obtain ⟨pieces, hlength, hpieces, hplain⟩ := ih
      obtain ⟨first, others, rfl⟩ := List.exists_cons_of_length_eq_add_one hlength
      refine ⟨piece :: first :: others, by rw [List.length_cons, hlength]; rfl, ?_,
        List.forall_mem_cons.2 ⟨hpiece, hplain⟩⟩
      have hblank : ∀ cs, outside .bare (' ' :: cs) = some ' ' :: outside .bare cs := fun cs => rfl
      rw [List.map_cons, List.map_cons, List.intercalate_cons_cons, List.append_assoc, hout,
        List.singleton_append, hblank, ← List.map_cons, hpieces, List.intercalate_cons_cons,
        List.append_assoc, List.singleton_append]

end ClusterPilot.Shell

namespace ClusterPilot.Tool

/-- The notes of a verbose live run start with the echo of it; all others are warnings. -/
theorem exists_notes_perform {α : Type} (plan : Plan α) (runner : Runner) :
    ∃ warnings : List Note, (∀ note ∈ warnings, ∃ word status, note = .warning word status) ∧
      (plan.perform ⟨false, true⟩ runner).notes = .echo plan.run.command :: warnings := by
  rw [Plan.perform, if_neg (by decide)]
  cases runner plan.run with
  | error failure => exact ⟨[], by simp, rfl⟩
  | ok e =>
    simp only
    cases hafter : Mode.after ⟨false, true⟩ plan.run e with
    | error failure => exact ⟨[], by simp, rfl⟩
    | ok warnings =>
      refine ⟨warnings, fun note hnote => ?_, rfl⟩
      unfold Mode.after at hafter
      split at hafter
      · cases hafter
        cases hnote
      · split at hafter
        · cases hafter
          exact ⟨_, _, List.mem_singleton.1 hnote⟩
        · cases hafter

/-- What a verbose run writes first is its command, on a line from which a shell takes exactly the
words of the command: outside quotes there are only plain characters and single blanks between the
words. -/
theorem verbose_echo {α : Type} (plan : Plan α) (runner : Runner) :
    let echo := Shell.join plan.run.command
    (∃ warnings : List Note, (∀ note ∈ warnings, ∃ word status, note = .warning word status) ∧
      (plan.perform ⟨false, true⟩ runner).noteLines =
        "[CMD] " ++ echo ++ "\n" ++ String.join (warnings.map Note.line)) ∧
    Shell.split? echo = some plan.run.command ∧
    Shell.PlainOutside plan.run.command.length echo.toList := by
  intro echo
  refine ⟨?_, Shell.split?_join _, ?_⟩
  · obtain ⟨warnings, hwarnings, hnotes⟩ := exists_notes_perform plan runner
    refine ⟨warnings, hwarnings, ?_⟩
    rw [Performed.noteLines, hnotes, List.map_cons, String.join_cons]
    rfl
  · have hplain := Shell.plainOutside_intercalate (plan.run.command.map String.toList)
    rwa [List.length_map, ← Shell.toList_join] at hplain

/-- An empty word, and one with both kinds of quotes, are read back. -/
example : Shell.split? (Shell.join ["say", "", "it's \"$x\""]) = some ["say", "", "it's \"$x\""] := by
  decide

end ClusterPilot.Tool
