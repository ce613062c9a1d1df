/-
Values as sequences of tokens, and the reader on them. The tokens of a value take a reader that
waits for a value to the end of it, below whatever containers are open; so a text that spells the
tokens of a value is read as that value. The value may not hold more containers inside one another
than the reader keeps open, and its integers may not be too long.
-/
import ClusterPilot.Json.Value
import ClusterPilot.Proofs.Json.Spelling

namespace ClusterPilot.Json

/-! ## The tokens of a value -/

mutual
/-- The tokens of a value. -/
def Value.tokens : Value → List Token
  | .null => [.null]
  | .bool b => [.bool b]
  | .integer i => [.integer i]
  | .number x => [.number x]
  | .text s => [.text s]
  | .list [] => [.openList, .closeList]
  | .list (v :: vs) => .openList :: (v.tokens ++ itemTokens vs)
  | .object [] => [.openObject, .closeObject]
  | .object ((k, v) :: ms) => .openObject :: .text k :: .colon :: (v.tokens ++ memberTokens ms)
/-- The tokens after an item, to the end of its list. -/
def itemTokens : List Value → List Token
  | [] => [.closeList]
  | v :: vs => .comma :: (v.tokens ++ itemTokens vs)
/-- The tokens after a member, to the end of its object. -/
def memberTokens : List (String × Value) → List Token
  | [] => [.closeObject]
  | (k, v) :: ms => .comma :: .text k :: .colon :: (v.tokens ++ memberTokens ms)
end

/-- Values without more than `n` containers inside one another, and without numbers other than
integers that are not too long. -/
inductive Value.Within : Nat → Value → Prop
  | null {n} : Within n .null
  | bool {n} (b : Bool) : Within n (.bool b)
  | integer {n i} (h : Number.Fits i) : Within n (.integer i)
  | text {n} (s : String) : Within n (.text s)
  | list {n vs} (h : ∀ v ∈ vs, Within n v) : Within (n + 1) (.list vs)
  | object {n ms} (h : ∀ m ∈ ms, Within n m.2) : Within (n + 1) (.object ms)

theorem Value.Within.mono {n m : Nat} {v : Value} (h : v.Within n) (hle : n ≤ m) :
    v.Within m := by
  induction h generalizing m with
  | null => exact .null
  | bool b => exact .bool b
  | integer h => exact .integer h
  | text s => exact .text s
  | list h ih =>
    obtain ⟨m, rfl⟩ := Nat.exists_eq_add_of_le' (Nat.le_trans (Nat.le_add_left 1 _) hle)
    exact .list fun v hv => ih v hv (Nat.le_of_succ_le_succ hle)
  | object h ih =>
    obtain ⟨m, rfl⟩ := Nat.exists_eq_add_of_le' (Nat.le_trans (Nat.le_add_left 1 _) hle)
    exact .object fun v hv => ih v hv (Nat.le_of_succ_le_succ hle)

/-- A text writes a value when it spells the tokens of it. -/
def Value.Writes (v : Value) (text : String) : Prop := Spelled v.tokens text.toList

theorem Value.writes_of_spelled {v : Value} {text : String} {cs : List Char}
    (h : Spelled v.tokens cs) (htext : text.toList = cs) : v.Writes text := by
  rw [Value.Writes, htext]
  exact h

/-! ## The reader -/

/-- A value ends no list that has just been opened. -/
theorem Value.tokens_ne (v : Value) : ∃ t ts, v.tokens = t :: ts ∧ t ≠ .closeList := by
  cases v with
  | null | bool | integer | number | text => exact ⟨_, [], rfl, by simp⟩
  | list vs =>
    cases vs with
    | nil => exact ⟨_, _, rfl, by simp⟩
    | cons v vs => exact ⟨_, _, by rw [tokens], by simp⟩
  | object ms =>
    cases ms with
    | nil => exact ⟨_, _, rfl, by simp⟩
    | cons m ms => exact ⟨_, _, by rw [tokens], by simp⟩

/-- The tokens of a value take the reader to the end of it, with `n` more containers to open. -/
def Value.Reads (n : Nat) (v : Value) : Prop :=
  ∀ stack : List Frame, stack.length + n ≤ maxDepth →
    v.tokens.foldlM Reader.step? (.value stack) = some (.after stack v)

namespace Reader

variable {n : Nat}

theorem foldlM_firstItem {v : Value} (h : v.Reads n) {stack : List Frame}
    (hdepth : stack.length + (n + 1) ≤ maxDepth) :
    v.tokens.foldlM step? (.firstItem stack) = some (.after (.list [] :: stack) v) := by
  have hroom : stack.length < maxDepth := by omega
  have hv := h (.list [] :: stack) (by rw [List.length_cons]; omega)
  obtain ⟨t, ts, ht, hne⟩ := v.tokens_ne
  rw [ht, List.foldlM_cons] at hv ⊢
  -- the first token opens the list and the value at once
  have hfirst : step? (.firstItem stack) t = step? (.value (.list [] :: stack)) t := by
    simp only [step?, if_neg hne, if_pos hroom]
  rw [hfirst]
  exact hv

theorem foldlM_itemTokens {vs : List Value} (h : ∀ v ∈ vs, v.Reads n) {stack : List Frame}
    (hdepth : stack.length + (n + 1) ≤ maxDepth) (items : List Value) (v : Value) :
    (itemTokens vs).foldlM step? (.after (.list items :: stack) v) =
      some (.after stack (.list (items.reverse ++ v :: vs))) := by
  induction vs generalizing items v with
  | nil => simp [itemTokens, step?]
  | cons w vs ih =>
    have hw := h w List.mem_cons_self (.list (v :: items) :: stack)
      (by rw [List.length_cons]; omega)
    have hcomma : step? (.after (.list items :: stack) v) .comma =
        some (.value (.list (v :: items) :: stack)) := rfl
    rw [itemTokens, foldlM_cons_of_eq hcomma, foldlM_append_of_eq hw,
      ih fun w' hw' => h w' (List.mem_cons_of_mem _ hw'), List.reverse_cons, List.append_assoc,
      List.singleton_append]

theorem foldlM_memberTokens {ms : List (String × Value)} (h : ∀ m ∈ ms, m.2.Reads n)
    {stack : List Frame} (hdepth : stack.length + (n + 1) ≤ maxDepth)
    (members : List (String × Value)) (k : String) (v : Value) :
    (memberTokens ms).foldlM step? (.after (.object members k :: stack) v) =
      some (.after stack (.object (members.reverse ++ (k, v) :: ms))) := by
  induction ms generalizing members k v with
  | nil => simp [memberTokens, step?]
  | cons m ms ih =>
    obtain ⟨l, w⟩ := m
    have hw := h (l, w) List.mem_cons_self (.object ((k, v) :: members) l :: stack)
      (by rw [List.length_cons]; omega)
    have hcomma : step? (.after (.object members k :: stack) v) .comma =
        some (.key stack ((k, v) :: members)) := rfl
    have hkey : step? (.key stack ((k, v) :: members)) (.text l) =
        some (.colon stack ((k, v) :: members) l) := rfl
    have hcolon : step? (.colon stack ((k, v) :: members) l) .colon =
        some (.value (.object ((k, v) :: members) l :: stack)) := rfl
    rw [memberTokens, foldlM_cons_of_eq hcomma, foldlM_cons_of_eq hkey, foldlM_cons_of_eq hcolon,
      foldlM_append_of_eq hw, ih fun m' hm' => h m' (List.mem_cons_of_mem _ hm'),
      List.reverse_cons, List.append_assoc, List.singleton_append]

end Reader

/-- A value is read from its tokens below any open containers that leave room for it. -/
theorem Value.Within.reads {n : Nat} {v : Value} (h : v.Within n) : v.Reads n := by
  induction h with
  | null | bool | integer | text => exact fun stack _ => rfl
  | list h ih =>
    intro stack hdepth
    rename_i n vs
    cases vs with
    | nil => rfl
    | cons v vs =>
      have hfirst := Reader.foldlM_firstItem (ih v List.mem_cons_self) hdepth
      have hrest := Reader.foldlM_itemTokens
        (fun w hw => ih w (List.mem_cons_of_mem _ hw)) hdepth [] v
      have hopen : Reader.step? (.value stack) .openList = some (.firstItem stack) := rfl
      rw [tokens, foldlM_cons_of_eq hopen, foldlM_append_of_eq hfirst, hrest]
      rfl
  | object h ih =>
    intro stack hdepth
    rename_i n ms
    cases ms with
    | nil => rfl
    | cons m ms =>
      obtain ⟨k, v⟩ := m
      have hroom : stack.length < maxDepth := by omega
      have hv := ih (k, v) List.mem_cons_self (.object [] k :: stack)
        (by rw [List.length_cons]; omega)
      have hrest := Reader.foldlM_memberTokens
        (fun m hm => ih m (List.mem_cons_of_mem _ hm)) hdepth [] k v
      have hopen : Reader.step? (.value stack) .openObject = some (.firstKey stack) := rfl
      have hkey : Reader.step? (.firstKey stack) (.text k) = some (.colon stack [] k) := by
        simp only [Reader.step?, Reader.key?, reduceCtorEq, if_false, if_pos hroom]
      have hcolon : Reader.step? (.colon stack [] k) .colon =
          some (.value (.object [] k :: stack)) := rfl
      rw [tokens, foldlM_cons_of_eq hopen, foldlM_cons_of_eq hkey, foldlM_cons_of_eq hcolon,
        foldlM_append_of_eq hv, hrest]
      rfl

/-! ## The scanner -/

theorem wellSpaced_itemTokens {vs : List Value} {ts : List Token}
    (h : ∀ v ∈ vs, ∀ ts, WellSpaced true ts → WellSpaced false (v.tokens ++ ts))
    (hts : WellSpaced false ts) : WellSpaced true (itemTokens vs ++ ts) := by
  induction vs with
  | nil => exact ⟨fun _ => rfl, hts⟩
  | cons v vs ih =>
    rw [itemTokens, List.cons_append, List.append_assoc]
    refine ⟨fun _ => rfl, h v List.mem_cons_self _ ?_⟩
    exact ih fun w hw => h w (List.mem_cons_of_mem _ hw)

theorem wellSpaced_memberTokens {ms : List (String × Value)} {ts : List Token}
    (h : ∀ m ∈ ms, ∀ ts, WellSpaced true ts → WellSpaced false (m.2.tokens ++ ts))
    (hts : WellSpaced false ts) : WellSpaced true (memberTokens ms ++ ts) := by
  induction ms with
  | nil => exact ⟨fun _ => rfl, hts⟩
  | cons m ms ih =>
    obtain ⟨k, v⟩ := m
    simp only [memberTokens, List.cons_append, List.append_assoc]
    refine ⟨fun _ => rfl, fun _ => rfl, fun _ => rfl, h (k, v) List.mem_cons_self _ ?_⟩
    exact ih fun m hm => h m (List.mem_cons_of_mem _ hm)

/-- No two words touch in the tokens of a value, or at the end of them. -/
theorem Value.Within.wellSpaced {n : Nat} {v : Value} (h : v.Within n) {ts : List Token}
    (hts : WellSpaced true ts) : WellSpaced false (v.tokens ++ ts) := by
  induction h generalizing ts with
  | null | bool | integer => exact ⟨fun hwaits => absurd hwaits (by decide), hts⟩
  | text => exact ⟨fun _ => rfl, hts.mono fun _ => rfl⟩
  | list h ih =>
    rename_i n vs
    have hfalse : WellSpaced false ts := hts.mono fun _ => rfl
    cases vs with
    | nil => exact ⟨fun _ => rfl, fun _ => rfl, hfalse⟩
    | cons v vs =>
      rw [tokens, List.cons_append, List.append_assoc]
      refine ⟨fun _ => rfl, ih v List.mem_cons_self (wellSpaced_itemTokens ?_ hfalse)⟩
      exact fun w hw ts => ih w (List.mem_cons_of_mem _ hw)
  | object h ih =>
    rename_i n ms
    have hfalse : WellSpaced false ts := hts.mono fun _ => rfl
    cases ms with
    | nil => exact ⟨fun _ => rfl, fun _ => rfl, hfalse⟩
    | cons m ms =>
      obtain ⟨k, v⟩ := m
      simp only [tokens, List.cons_append, List.append_assoc]
      refine ⟨fun _ => rfl, fun _ => rfl, fun _ => rfl,
        ih (k, v) List.mem_cons_self (wellSpaced_memberTokens ?_ hfalse)⟩
      exact fun m hm ts => ih m (List.mem_cons_of_mem _ hm)

theorem fits_itemTokens {vs : List Value} (h : ∀ v ∈ vs, ∀ t ∈ v.tokens, t.Fits) :
    ∀ t ∈ itemTokens vs, t.Fits := by
  induction vs with
  | nil => exact List.forall_mem_singleton.2 trivial
  | cons v vs ih =>
    rw [itemTokens, List.forall_mem_cons, List.forall_mem_append]
    exact ⟨trivial, h v List.mem_cons_self, ih fun w hw => h w (List.mem_cons_of_mem _ hw)⟩

theorem fits_memberTokens {ms : List (String × Value)} (h : ∀ m ∈ ms, ∀ t ∈ m.2.tokens, t.Fits) :
    ∀ t ∈ memberTokens ms, t.Fits := by
  induction ms with
  | nil => exact List.forall_mem_singleton.2 trivial
  | cons m ms ih =>
    obtain ⟨k, v⟩ := m
    simp only [memberTokens, List.forall_mem_cons, List.forall_mem_append]
    exact ⟨trivial, trivial, trivial, h (k, v) List.mem_cons_self,
      ih fun m hm => h m (List.mem_cons_of_mem _ hm)⟩

theorem Value.Within.fits {n : Nat} {v : Value} (h : v.Within n) : ∀ t ∈ v.tokens, t.Fits := by
  induction h with
  | null | bool | text => exact List.forall_mem_singleton.2 trivial
  | integer h => exact List.forall_mem_singleton.2 h
  | list h ih =>
    rename_i n vs
    cases vs with
    | nil => exact List.forall_mem_cons.2 ⟨trivial, List.forall_mem_singleton.2 trivial⟩
    | cons v vs =>
      rw [tokens, List.forall_mem_cons, List.forall_mem_append]
      exact ⟨trivial, ih v List.mem_cons_self,
        fits_itemTokens fun w hw => ih w (List.mem_cons_of_mem _ hw)⟩
  | object h ih =>
    rename_i n ms
    cases ms with
    | nil => exact List.forall_mem_cons.2 ⟨trivial, List.forall_mem_singleton.2 trivial⟩
    | cons m ms =>
      obtain ⟨k, v⟩ := m
      simp only [tokens, List.forall_mem_cons, List.forall_mem_append]
      exact ⟨trivial, trivial, trivial, ih (k, v) List.mem_cons_self,
        fits_memberTokens fun m hm => ih m (List.mem_cons_of_mem _ hm)⟩

theorem Value.Within.exists_writes {n : Nat} {v : Value} (h : v.Within n) :
    ∃ text, v.Writes text := by
  obtain ⟨cs, hcs⟩ := exists_spelled h.fits
  exact ⟨String.ofList cs, writes_of_spelled hcs String.toList_ofList⟩

/-- What a text writes is what is read from it. -/
theorem Value.read?_of_writes {v : Value} {text : String} (hv : v.Within maxDepth)
    (h : v.Writes text) : Value.read? text = some v := by
  have htokens : tokens? text.toList = some v.tokens := by
    refine tokens?_of_spelled h hv.fits ?_
    have hspaced := hv.wellSpaced (show WellSpaced true [] from trivial)
    rwa [List.append_nil] at hspaced
  have hread := hv.reads [] (by rw [List.length_nil, Nat.zero_add])
  rw [Value.read?, htokens, Option.bind_some, Value.ofTokens?, hread]
  rfl

end ClusterPilot.Json
