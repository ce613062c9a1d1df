/-
The values of scalars. Reading a value fails in a way that was not promised only under four tags:
for what is no boolean, for a number without digits, for what is no date, for a text that writes no
value, and for a number with too many places to the base of sixty. A plain scalar without a tag has
a form that its tag was told by, which leaves the last two ways alone.
-/
import ClusterPilot.Proofs.Yaml.Promise
import ClusterPilot.Yaml.ScalarData

namespace ClusterPilot.Yaml

open ClusterPilot.Number

/-- A text that does not end with a line feed is looked at as it is. -/
theorem Tag.dropFeed_eq {cs : List Char} (h : cs.getLast? ≠ some '\n') : Tag.dropFeed cs = cs := by
  unfold Tag.dropFeed
  rw [if_neg (fun hfeed => h hfeed.1)]

theorem Tag.ofPlain_eq {cs : List Char} (h : cs.getLast? ≠ some '\n') :
    Tag.ofPlain cs = Tag.ofForm cs := by
  unfold Tag.ofPlain
  rw [Tag.dropFeed_eq h]

/-- The tag that a form tells. -/
theorem Tag.ofForm_form (cs : List Char) :
    Tag.ofForm cs = .bool ∧ String.ofList cs ∈ Tag.boolWords.1 ++ Tag.boolWords.2 ∨
      Tag.ofForm cs = .null ∧ String.ofList cs ∈ Tag.nullWords ∨
      Tag.ofForm cs = .integer ∧ Tag.isInteger cs = true ∨
      Tag.ofForm cs = .number ∧ Tag.isNumber cs = true ∨
      Tag.ofForm cs = .date ∧ (DateParts.ofText? cs).any DateParts.isFull = true ∨
      Tag.ofForm cs ∈ [.merge, .value, .unknown, .text] := by
  unfold Tag.ofForm
  simp only
  split
  · rename_i h
    exact .inl ⟨rfl, by simpa using h⟩
  right
  split
  · rename_i h
    exact .inl ⟨rfl, List.contains_iff_mem.1 h⟩
  right
  split
  · exact .inl ⟨rfl, ‹_›⟩
  right
  split
  · exact .inl ⟨rfl, ‹_›⟩
  right
  split
  · exact .inl ⟨rfl, ‹_›⟩
  right
  repeat' split
  all_goals decide

theorem Tag.isCollection_ofPlain (cs : List Char) : (Tag.ofPlain cs).isCollection = false := by
  unfold Tag.ofPlain
  rcases Tag.ofForm_form (Tag.dropFeed cs) with ⟨h, -⟩ | ⟨h, -⟩ | ⟨h, -⟩ | ⟨h, -⟩ | ⟨h, -⟩ | h
  all_goals first | rw [h]; rfl | skip
  simp only [List.mem_cons, List.not_mem_nil, or_false] at h
  rcases h with h | h | h | h <;> rw [h] <;> rfl

theorem Tag.ofPlain_ne_binary (cs : List Char) : Tag.ofPlain cs ≠ .binary := by
  intro htag
  unfold Tag.ofPlain at htag
  rcases Tag.ofForm_form (Tag.dropFeed cs) with ⟨h, -⟩ | ⟨h, -⟩ | ⟨h, -⟩ | ⟨h, -⟩ | ⟨h, -⟩ | h
  all_goals
    rw [htag] at h
    exact absurd h (by decide)

theorem Tag.mem_nullWords {cs : List Char} (htag : Tag.ofForm cs = .null) :
    String.ofList cs ∈ Tag.nullWords := by
  rcases Tag.ofForm_form cs with ⟨h, -⟩ | ⟨-, hword⟩ | ⟨h, -⟩ | ⟨h, -⟩ | ⟨h, -⟩ | h
  case inr.inl => exact hword
  all_goals
    rw [htag] at h
    exact absurd h (by decide)

/-! ## What a form holds -/

section

variable {cs : List Char}

theorem head_of_isRun {run : List Char} {more : List (List Char)}
    (hparts : Tag.parts cs = run :: more) (hrun : Tag.isRun run = true) :
    ∃ d rest, cs = d :: rest ∧ isDigit d = true := by
  cases cs with
  | nil =>
    obtain ⟨rfl, -⟩ : [] = run ∧ [] = more := by simpa [Tag.parts] using hparts
    cases hrun
  | cons d rest =>
    refine ⟨d, rest, rfl, ?_⟩
    rw [Tag.parts, List.splitOn, List.splitOnP_cons_eq_if_modifyHead] at hparts
    split at hparts
    · obtain ⟨rfl, -⟩ := List.cons.inj hparts
      cases hrun
    · cases hrest : rest.splitOnP (fun x => x == ':') with
      | nil =>
        rw [hrest] at hparts
        cases hparts
      | cons first others =>
        rw [hrest] at hparts
        obtain ⟨rfl, -⟩ := List.cons.inj hparts
        exact (Bool.and_eq_true_iff.1 hrun).1

/-- An integer starts with a digit after its sign. -/
theorem head_of_isInteger (h : Tag.isInteger cs = true) :
    ∃ d rest, Tag.dropSign cs = d :: rest ∧ isDigit d = true := by
  unfold Tag.isInteger at h
  split at h
  case h_1 hds => exact ⟨_, _, hds, by decide⟩
  case h_2 hds => exact ⟨_, _, hds, by decide⟩
  case h_3 hds => exact ⟨_, _, hds, by decide⟩
  case h_4 hds => exact ⟨_, _, hds, by decide⟩
  split at h
  · rename_i hparts
    exact head_of_isRun hparts (Bool.and_eq_true_iff.1 h).1
  · cases h

theorem mem_of_mem_dropSign {c : Char} (h : c ∈ Tag.dropSign cs) : c ∈ cs := by
  unfold Tag.dropSign at h
  split at h
  · exact List.mem_cons_of_mem _ h
  · exact List.mem_cons_of_mem _ h
  · exact h

/-- A number with a point holds its point. -/
theorem point_mem_of_isNumber (h : Tag.isNumber cs = true) : '.' ∈ cs := by
  have hname : ∀ (names : List String) (k : List Char), (∀ s ∈ names, '.' ∈ s.toList) →
      names.contains (String.ofList k) = true → '.' ∈ k := by
    intro names k hnames hmem
    have := hnames _ (List.contains_iff_mem.1 hmem)
    rwa [String.toList_ofList] at this
  unfold Tag.isNumber at h
  rcases Bool.or_eq_true_iff.1 h with h | h
  · rcases Bool.or_eq_true_iff.1 h with h | h
    · exact hname _ cs (by decide) h
    · exact mem_of_mem_dropSign (hname _ _ (by decide) h)
  split at h
  · exact List.mem_cons_self
  · by_cases hdrop : '.' ∈ Tag.dropSign cs
    · exact mem_of_mem_dropSign hdrop
    · rw [Text.cut_of_not_mem hdrop] at h
      cases h

end

/-! ## Values -/

namespace ScalarData

/-- The ways in which reading the value of a tag fails without promise. -/
def strays : Tag → List Error
  | .bool => [.noSuchBoolean]
  | .integer => [.emptyNumber, .noSuchValue]
  | .number => [.emptyNumber, .noSuchValue, .hugePlace]
  | .date => [.noSuchDate, .noSuchValue]
  | _ => []

theorem orNone_fails {α : Type} (written : Option α) :
    OnlyFails (· = .noSuchValue) (orNone written) := by
  cases written <;> trivial

/-- What is left of a number keeps all characters but signs and underscores. -/
theorem signed_meets (cs : List Char) :
    Meets (fun e => e = .emptyNumber ∧ ∀ c ∈ cs, c = '_')
      (fun r => ∀ c ∈ cs, c ∉ ['_', '-', '+'] → c ∈ r.2) (signed cs) := by
  unfold signed
  split
  · rename_i h
    refine ⟨rfl, fun c hc => ?_⟩
    simpa using List.filter_eq_nil_iff.1 h c hc
  · rename_i x rest h
    intro c hc hother
    simp only [List.mem_cons, List.not_mem_nil, or_false, not_or] at hother
    have hmem : c ∈ x :: rest := h ▸ List.mem_filter.2 ⟨hc, by simpa using hother.1⟩
    show c ∈ if x = '-' ∨ x = '+' then rest else x :: rest
    split
    · rename_i hsign
      rcases List.mem_cons.1 hmem with rfl | hrest
      · exact absurd hsign (not_or.2 hother.2)
      · exact hrest
    · exact hmem

/-- A text of signs and underscores has no digits to read. -/
theorem integer_fails (cs : List Char) :
    OnlyFails (fun e => e = .noSuchValue ∨ e = .emptyNumber ∧ ∀ c ∈ cs, c ∈ ['_', '-', '+'])
      (integer cs) := by
  have hwritten : ∀ negative (written : Option Int),
      OnlyFails (fun e => e = .noSuchValue ∨ e = .emptyNumber ∧ ∀ c ∈ cs, c ∈ ['_', '-', '+'])
        (do let n ← orNone written; pure (if negative = true then -n else n)) :=
    fun negative written => ((orNone_fails written).imp fun _ => .inl).bind fun _ => .ok _
  unfold integer
  refine Meets.bind (P := fun r => ∀ c ∈ cs, c ∉ ['_', '-', '+'] → c ∈ r.2)
    ((signed_meets cs).imp ?_ fun _ h => h) ?_
  · rintro e ⟨rfl, h⟩
    exact .inr ⟨rfl, fun c hc => by simp [h c hc]⟩
  rintro ⟨negative, body⟩ hbody
  simp only
  split
  · refine .inr ⟨rfl, fun c hc => ?_⟩
    by_cases hsign : c ∈ ['_', '-', '+']
    · exact hsign
    · cases hbody c hc hsign
  · trivial
  · exact hwritten ..
  · exact hwritten ..
  · exact hwritten ..
  · split
    · have hplaces := OnlyFails.mapM (fun part => orNone_fails (integer? 10 part)) (Tag.parts body)
      exact ((hplaces.map _).imp fun _ => .inl).bind fun _ => .ok _
    · exact hwritten ..

theorem addPlaces_fails (total : Binary64) (unit : Nat) (places : List Binary64) :
    OnlyFails (· = .hugePlace) (addPlaces total unit places) := by
  induction places generalizing total unit with
  | nil => trivial
  | cons place places ih =>
    unfold addPlaces
    split
    · exact ih ..
    · rfl

theorem number_fails (cs : List Char) :
    OnlyFails (fun e => e = .noSuchValue ∨ e = .hugePlace ∨
      e = .emptyNumber ∧ ∀ c ∈ cs, c.toLower = '_') (number cs) := by
  unfold number
  refine Meets.bind (P := fun _ => True) ((signed_meets _).imp ?_ fun _ _ => trivial) ?_
  · rintro e ⟨rfl, h⟩
    exact .inr (.inr ⟨rfl, fun c hc => h _ (List.mem_map_of_mem hc)⟩)
  rintro ⟨negative, body⟩ -
  simp only
  split
  · trivial
  split
  · trivial
  split
  · have hplaces := OnlyFails.mapM (fun part => orNone_fails (number? part)) (Tag.parts body)
    refine OnlyFails.bind (hplaces.imp fun _ => .inl) fun places => ?_
    exact ((addPlaces_fails ..).imp fun _ h => .inr (.inl h)).bind fun _ => .ok _
  · exact ((orNone_fails _).imp fun _ => .inl).bind fun _ => .ok _

theorem boolean_fails (cs : List Char) : OnlyFails (· = .noSuchBoolean) (boolean cs) := by
  unfold boolean
  simp only
  repeat' split
  all_goals trivial

theorem exists_boolean {w : String} (h : w ∈ Tag.boolWords.1 ++ Tag.boolWords.2) :
    ∃ b, boolean w.toList = .ok b := by
  have hdecided : ∀ w ∈ Tag.boolWords.1 ++ Tag.boolWords.2,
      (boolean w.toList).toOption.isSome = true := by decide
  have hsome := hdecided w h
  cases hb : boolean w.toList with
  | error e => simp [hb, Except.toOption] at hsome
  | ok b => exact ⟨b, rfl⟩

theorem date_fails (cs : List Char) :
    OnlyFails (fun e => e = .noSuchValue ∨
      e = .noSuchDate ∧ DateParts.ofText? (Tag.dropFeed cs) = none) (date cs) := by
  unfold date
  split
  · split
    · trivial
    · exact .inl rfl
  · exact .inr ⟨rfl, ‹_›⟩

theorem binary_fails (cs : List Char) : OnlyFails (· = .badBinary) (binary cs) := by
  unfold binary
  split
  · trivial
  · rfl

/-- The data of a scalar fails under its tag in these ways. -/
theorem ofText_fails (tag : Tag) (cs : List Char) :
    OnlyFails (fun e => e.isPromised = true ∨ e ∈ strays tag) (ofText tag cs) := by
  cases tag with
  | bool =>
    refine OnlyFails.map _ ((boolean_fails cs).imp ?_)
    rintro e rfl
    exact .inr (by decide)
  | integer =>
    refine OnlyFails.map _ ((integer_fails cs).imp ?_)
    rintro e (rfl | ⟨rfl, -⟩) <;> exact .inr (by decide)
  | number =>
    refine OnlyFails.map _ ((number_fails cs).imp ?_)
    rintro e (rfl | rfl | ⟨rfl, -⟩) <;> exact .inr (by decide)
  | date =>
    refine OnlyFails.map _ ((date_fails cs).imp ?_)
    rintro e (rfl | ⟨rfl, -⟩) <;> exact .inr (by decide)
  | binary =>
    refine OnlyFails.map _ ((binary_fails cs).imp ?_)
    rintro e rfl
    exact .inl rfl
  | null | text => exact .ok _
  | sequence | mapping | set | pairs | merge | value | unknown => exact .inl rfl

end ScalarData

end ClusterPilot.Yaml
