/-
Texts put together to the text of a list. The scanner never looks at the tokens that it has already
found, and the reader never looks below the containers that were open when a value began; only the
number of open containers counts. So a text that is read as a value, and is still read inside one
more list, is read as the same value between any other items, and the text of a list of such texts
is read as the list of their values.
-/
import ClusterPilot.Proofs.Json.Reading

namespace ClusterPilot.Json

/-! ## The scanner above other tokens -/

/-- The scanner with tokens that were found before its own. -/
def Scanner.above (base : List Token) (s : Scanner) : Scanner := ⟨s.found ++ base, s.mode⟩

namespace Scanner

variable (base : List Token)

theorem ground_above (found : List Token) (c : Char) :
    ground (found ++ base) c = (ground found c).above base := by
  unfold ground above
  split
  · rfl
  · split
    · rfl
    · split <;> rfl

theorem unit?_above (found : List Token) (read : List Char) (high : Option Nat) (n : Nat) :
    unit? (found ++ base) read high n = (unit? found read high n).map (above base) := by
  cases high with
  | none =>
    unfold unit?
    simp only
    split
    · rfl
    · split <;> rfl
  | some h =>
    unfold unit?
    simp only
    split <;> rfl

/-- A step does not depend on the tokens found before. -/
theorem step?_above (s : Scanner) (c : Char) :
    step? (s.above base) c = (step? s c).map (above base) := by
  obtain ⟨found, mode⟩ := s
  cases mode with
  | ground => exact congrArg some (ground_above base found c)
  | word read =>
    simp only [step?, above]
    split
    · rw [Option.map_map]
      exact Option.map_congr fun t _ => ground_above base (t :: found) c
    · rfl
  | text read =>
    simp only [step?, above]
    split
    · rfl
    · split
      · rfl
      · split <;> rfl
  | escape read =>
    simp only [step?, above]
    split
    · rfl
    · rw [Option.map_map]
      rfl
  | unit read high ds =>
    simp only [step?, above]
    split
    · rfl
    · split
      · rfl
      · exact unit?_above base found read high _
  | pair read high =>
    simp only [step?, above]
    split <;> rfl
  | pairEscape read high =>
    simp only [step?, above]
    split <;> rfl

theorem foldlM_above {cs : List Char} {s s' : Scanner} (h : cs.foldlM step? s = some s') :
    cs.foldlM step? (s.above base) = some (s'.above base) := by
  induction cs generalizing s with
  | nil => cases h; rfl
  | cons c cs ih =>
    rw [List.foldlM_cons] at h
    obtain ⟨s₁, hs₁, h⟩ := Option.bind_eq_some_iff.1 h
    have hstep : step? (s.above base) c = some (s₁.above base) := by rw [step?_above, hs₁]; rfl
    rw [foldlM_cons_of_eq hstep, ih h]

/-- After a whole text the scanner has settled on its tokens. -/
theorem settled_of_tokens? {cs : List Char} {ts : List Token} (h : tokens? cs = some ts) :
    ∃ waits s, cs.foldlM step? ⟨base, .ground⟩ = some s ∧
      Settled (ts.reverse ++ base) waits s := by
  obtain ⟨⟨found, mode⟩, hs, hfinish⟩ := Option.bind_eq_some_iff.1 h
  have hfold := foldlM_above base hs
  cases mode with
  | ground =>
    cases hfinish
    refine ⟨false, _, hfold, ?_⟩
    rw [List.reverse_reverse]
    exact .ground _
  | word read =>
    obtain ⟨t, ht, rfl⟩ := Option.map_eq_some_iff.1 hfinish
    refine ⟨true, _, hfold, ?_⟩
    rw [List.reverse_reverse]
    exact .word ht
  | text | escape | unit | pair | pairEscape => cases hfinish

/-- The tokens of texts with commas between them. -/
theorem settled_intercalate {css : List (List Char)} {tss : List (List Token)}
    (h : List.Forall₂ (fun cs ts => tokens? cs = some ts) css tss) :
    ∃ waits s, ([','].intercalate css).foldlM step? ⟨base, .ground⟩ = some s ∧
      Settled (([Token.comma].intercalate tss).reverse ++ base) waits s := by
  induction h generalizing base with
  | nil => exact ⟨false, _, rfl, .ground base⟩
  | @cons cs ts css tss head tail ih =>
    obtain ⟨waits, s, hs, hsettled⟩ := settled_of_tokens? base head
    cases tail with
    | nil => exact ⟨waits, s, by simpa using hs, by simpa using hsettled⟩
    | cons head' tail' =>
      -- the comma settles the last word of the first text
      have hcomma := hsettled.punctuation (show isBlank ',' = false from rfl) (t := .comma) rfl
      obtain ⟨waits', s', hs', hsettled'⟩ := ih (.comma :: (ts.reverse ++ base))
      refine ⟨waits', s', ?_, ?_⟩
      · rw [List.intercalate_cons_cons, List.append_assoc, foldlM_append_of_eq hs,
          List.singleton_append, foldlM_cons_of_eq hcomma, hs']
      · rw [List.intercalate_cons_cons]
        simpa using hsettled'

end Scanner

/-- The tokens of a list of texts. -/
theorem tokens?_intercalate {css : List (List Char)} {tss : List (List Token)}
    (h : List.Forall₂ (fun cs ts => tokens? cs = some ts) css tss) :
    tokens? ('[' :: ([','].intercalate css ++ [']'])) =
      some (.openList :: ([Token.comma].intercalate tss ++ [.closeList])) := by
  obtain ⟨waits, s, hs, hsettled⟩ := Scanner.settled_intercalate [.openList] h
  have hopen : Scanner.step? .start '[' = some ⟨[.openList], .ground⟩ := rfl
  have hclose := hsettled.punctuation (show isBlank ']' = false from rfl) (t := .closeList) rfl
  rw [tokens?, foldlM_cons_of_eq hopen, foldlM_append_of_eq hs, foldlM_cons_of_eq hclose]
  simp [Scanner.finish?]

/-! ## The reader above other containers -/

namespace Reader

/-- The reader with more containers open below its own. -/
def below (base : List Frame) : Reader → Reader
  | .value stack => .value (stack ++ base)
  | .firstItem stack => .firstItem (stack ++ base)
  | .firstKey stack => .firstKey (stack ++ base)
  | .key stack members => .key (stack ++ base) members
  | .colon stack members k => .colon (stack ++ base) members k
  | .after stack v => .after (stack ++ base) v

theorem value?_below (base stack : List Frame) (t : Token) :
    value? (stack ++ base) t = (value? stack t).map (below base) := by
  cases t <;> rfl

theorem key?_below (base stack : List Frame) (members : List (String × Value)) (t : Token) :
    key? (stack ++ base) members t = (key? stack members t).map (below base) := by
  cases t <;> rfl

theorem colon_below (base stack : List Frame) (members : List (String × Value)) (k : String)
    (t : Token) : step? (.colon (stack ++ base) members k) t =
      (step? (.colon stack members k) t).map (below base) := by
  simp only [step?]
  split <;> rfl

theorem after_below (base : List Frame) (frame : Frame) (stack : List Frame) (v : Value)
    (t : Token) : step? (.after (frame :: (stack ++ base)) v) t =
      (step? (.after (frame :: stack) v) t).map (below base) := by
  cases frame with
  | list items =>
    simp only [step?]
    split
    · rfl
    · split <;> rfl
  | object members k =>
    simp only [step?]
    split
    · rfl
    · split <;> rfl

/-- Where there is room above some containers, there is room above no more of them. -/
theorem room_below {base base' : List Frame} (hlen : base'.length ≤ base.length)
    {stack : List Frame} {r : Option Reader}
    (h : (if (stack ++ base).length < maxDepth then r else none).isSome = true) :
    (stack ++ base').length < maxDepth := by
  split at h
  · rename_i hroom
    rw [List.length_append] at hroom ⊢
    omega
  · cases h

/-- A step that is possible alone, and above some containers, is the same above any others that
are no more in number. -/
theorem step?_below {base base' : List Frame} (hlen : base'.length ≤ base.length) {r r' : Reader}
    {t : Token} (h : step? r t = some r') (hbase : (step? (r.below base) t).isSome = true) :
    step? (r.below base') t = some (r'.below base') := by
  cases r with
  | value stack =>
    rw [step?] at h
    rw [below, step?, value?_below, h, Option.map_some]
  | firstItem stack =>
    simp only [below, step?] at h hbase ⊢
    split at h
    · rw [if_pos ‹_›]
      cases h
      rfl
    · rw [if_neg ‹_›] at hbase ⊢
      split at h
      · rw [if_pos (room_below hlen hbase), ← List.cons_append, value?_below, h]
        rfl
      · cases h
  | firstKey stack =>
    simp only [below, step?] at h hbase ⊢
    split at h
    · rw [if_pos ‹_›]
      cases h
      rfl
    · rw [if_neg ‹_›] at hbase ⊢
      split at h
      · rw [if_pos (room_below hlen hbase), key?_below, h]
        rfl
      · cases h
  | key stack members =>
    rw [step?] at h
    rw [below, step?, key?_below, h, Option.map_some]
  | colon stack members k => rw [below, colon_below, h, Option.map_some]
  | after stack v =>
    cases stack with
    | nil => cases h
    | cons frame stack => rw [below, List.cons_append, after_below, h, Option.map_some]

theorem foldlM_below (base base' : List Frame) (hlen : base'.length ≤ base.length)
    {ts : List Token} {r r' : Reader} (h : ts.foldlM step? r = some r')
    (hbase : (ts.foldlM step? (r.below base)).isSome = true) :
    ts.foldlM step? (r.below base') = some (r'.below base') := by
  induction ts generalizing r with
  | nil => cases h; rfl
  | cons t ts ih =>
    rw [List.foldlM_cons] at h
    obtain ⟨r₁, hr₁, h⟩ := Option.bind_eq_some_iff.1 h
    have hstep : (step? (r.below base) t).isSome = true := by
      rw [List.foldlM_cons] at hbase
      exact Option.isSome_of_isSome_bind hbase
    rw [foldlM_cons_of_eq (step?_below (Nat.le_refl _) hr₁ hstep)] at hbase
    rw [foldlM_cons_of_eq (step?_below hlen hr₁ hstep)]
    exact ih h hbase

end Reader

/-! ## Items of a list -/

/-- A text that is read as a value, and still is something inside one more list. -/
def FitsInList (text : String) : Prop :=
  (Value.read? text).isSome = true ∧ (Value.read? ("[" ++ text ++ "]")).isSome = true

instance (text : String) : Decidable (FitsInList text) := inferInstanceAs (Decidable (_ ∧ _))

/-- Tokens that are read as a value where an item of a list has to follow. -/
def ItemReads (ts : List Token) (v : Value) : Prop :=
  ∀ items, ts.foldlM Reader.step? (.value [.list items]) = some (.after [.list items] v)

/-- The first token of a value does not end a list. -/
theorem exists_cons_of_reads {ts : List Token} {v : Value} {stack stack' : List Frame}
    (h : ts.foldlM Reader.step? (.value stack) = some (.after stack' v)) :
    ∃ t ts', ts = t :: ts' ∧ t ≠ .closeList := by
  cases ts with
  | nil => cases h
  | cons t ts =>
    refine ⟨t, ts, rfl, ?_⟩
    rintro rfl
    cases h

/-- After the opening of a list, what is no end of it is its first item. -/
theorem foldlM_firstItem_cons {t : Token} (ht : t ≠ .closeList) (ts : List Token) :
    (t :: ts).foldlM Reader.step? (.firstItem []) =
      (t :: ts).foldlM Reader.step? (.value [.list []]) := by
  have hstep : Reader.step? (.firstItem []) t = Reader.step? (.value [.list []]) t := by
    simp only [Reader.step?, if_neg ht, List.length_nil]
    exact if_pos (by decide)
  rw [List.foldlM_cons, List.foldlM_cons, hstep]

theorem read?_eq_some {text : String} {v : Value} (h : Value.read? text = some v) :
    ∃ ts, tokens? text.toList = some ts ∧
      ts.foldlM Reader.step? (.value []) = some (.after [] v) := by
  obtain ⟨ts, hts, h⟩ := Option.bind_eq_some_iff.1 h
  obtain ⟨r, hr, h⟩ := Option.bind_eq_some_iff.1 h
  refine ⟨ts, hts, ?_⟩
  unfold Reader.finish? at h
  split at h
  · cases h
    exact hr
  · cases h

theorem toList_brackets (texts : List String) :
    ("[" ++ ",".intercalate texts ++ "]").toList =
      '[' :: ([','].intercalate (texts.map String.toList) ++ [']']) := by
  simp [String.toList_append, String.toList_intercalate]

/-- A text that fits in a list has the tokens of an item. -/
theorem FitsInList.exists_item {text : String} (h : FitsInList text) :
    ∃ ts v, tokens? text.toList = some ts ∧ Value.read? text = some v ∧ ItemReads ts v := by
  obtain ⟨v, hv⟩ := Option.isSome_iff_exists.1 h.1
  obtain ⟨w, hw⟩ := Option.isSome_iff_exists.1 h.2
  obtain ⟨ts, hts, hread⟩ := read?_eq_some hv
  obtain ⟨t, ts', rfl, ht⟩ := exists_cons_of_reads hread
  refine ⟨_, v, hts, hv, fun items => ?_⟩
  -- inside one more list the tokens are read to their end
  obtain ⟨wrapped, hwrapped, hlist⟩ := read?_eq_some hw
  have hbrackets := toList_brackets [text]
  rw [String.intercalate_singleton, List.map_singleton] at hbrackets
  rw [hbrackets, tokens?_intercalate (.cons hts .nil)] at hwrapped
  cases hwrapped
  have hopen : Reader.step? (.value []) .openList = some (.firstItem []) := rfl
  rw [foldlM_cons_of_eq hopen, List.intercalate_singleton, List.foldlM_append,
    foldlM_firstItem_cons ht] at hlist
  have hsome := Option.isSome_of_isSome_bind (Option.isSome_of_eq_some hlist)
  exact Reader.foldlM_below [.list []] [.list items] (Nat.le_refl _) hread hsome

/-- Items with commas between them, up to the end of their list. -/
theorem foldlM_intercalate {tss : List (List Token)} {vs : List Value}
    (h : List.Forall₂ ItemReads tss vs) (hne : vs ≠ []) (items : List Value) :
    ([Token.comma].intercalate tss ++ [Token.closeList]).foldlM Reader.step? (.value [.list items]) =
      some (.after [] (.list (items.reverse ++ vs))) := by
  induction h generalizing items with
  | nil => exact absurd rfl hne
  | @cons ts v tss vs head tail ih =>
    cases tail with
    | nil =>
      rw [List.intercalate_singleton, foldlM_append_of_eq (head items)]
      simp [Reader.step?]
    | cons head' tail' =>
      have hcomma : Reader.step? (.after [.list items] v) .comma =
          some (.value [.list (v :: items)]) := rfl
      rw [List.intercalate_cons_cons, List.append_assoc, List.append_assoc,
        foldlM_append_of_eq (head items), List.singleton_append, foldlM_cons_of_eq hcomma,
        ih (List.cons_ne_nil _ _), List.reverse_cons, List.append_assoc, List.singleton_append]

theorem exists_items {texts : List String} (h : ∀ text ∈ texts, FitsInList text) :
    ∃ tss vs, List.Forall₂ (fun cs ts => tokens? cs = some ts) (texts.map String.toList) tss ∧
      List.Forall₂ (fun text v => Value.read? text = some v) texts vs ∧
      List.Forall₂ ItemReads tss vs := by
  induction texts with
  | nil => exact ⟨[], [], .nil, .nil, .nil⟩
  | cons text texts ih =>
    obtain ⟨ts, v, hts, hv, hitem⟩ := (h text List.mem_cons_self).exists_item
    obtain ⟨tss, vs, htss, hvs, hitems⟩ := ih fun t ht => h t (List.mem_cons_of_mem _ ht)
    exact ⟨ts :: tss, v :: vs, .cons hts htss, .cons hv hvs, .cons hitem hitems⟩

/-- The list of some texts is read as the list of their values. -/
theorem read?_brackets {texts : List String} (h : ∀ text ∈ texts, FitsInList text) :
    ∃ vs, List.Forall₂ (fun text v => Value.read? text = some v) texts vs ∧
      Value.read? ("[" ++ ",".intercalate texts ++ "]") = some (.list vs) := by
  obtain ⟨tss, vs, htss, hvs, hitems⟩ := exists_items h
  refine ⟨vs, hvs, ?_⟩
  have hopen : Reader.step? (.value []) .openList = some (.firstItem []) := rfl
  rw [Value.read?, toList_brackets, tokens?_intercalate htss, Option.bind_some, Value.ofTokens?,
    foldlM_cons_of_eq hopen]
  cases hitems with
  | nil => rfl
  | @cons ts v tss vs head tail =>
    have hread := foldlM_intercalate (.cons head tail) (List.cons_ne_nil _ _) []
    obtain ⟨t, ts', rfl, ht⟩ := exists_cons_of_reads (head [])
    -- the first token of the first item opens it and stands in front of all others
    obtain ⟨rest, hrest⟩ : ∃ rest, [Token.comma].intercalate ((t :: ts') :: tss) = t :: rest := by
      cases tss with
      | nil => exact ⟨ts', List.intercalate_singleton⟩
      | cons ts₂ tss => exact ⟨_, by rw [List.intercalate_cons_cons]; rfl⟩
    rw [hrest, List.cons_append] at hread ⊢
    rw [foldlM_firstItem_cons ht, hread]
    rfl

end ClusterPilot.Json
