/-
What the reader of nodes needs. It stops where the text is no document, where the scan broke off, or
where collections are too deep inside each other. For the last, more than half as many collections
as may be inside each other have to be open by tokens at one place: each such token opens one
collection, and at most one more that has no token of its own, since a block mapping may hold a
sequence at its column and a flow sequence a single pair. The fuel of the reader never runs out.
-/
import ClusterPilot.Proofs.Yaml.Origin

namespace ClusterPilot.Yaml

namespace Builder

variable {scan : Scan} {b : Builder} {α : Type}

/-! ## Parts of a document -/

/-- The collections that may still be opened, `slack` apart, make up for those that tokens have
opened. -/
def Within (scan : Scan) (depth slack : Nat) (ts : List Token) : Prop :=
  (maxNesting : Int) + slack + 2 * nesting ts ≤ depth + 2 * nesting scan.tokens

/-- What the readers of the parts of a document need with some fuel, and what they leave. A node
takes a token at least, but for an empty sequence at the column of its mapping; a collection with an
end of its own takes the token of its end. -/
structure Parts (scan : Scan) (fuel : Nat) : Prop where
  node : ∀ {b : Builder} (inBlock compact : Bool) {depth : Nat}, b.Follows scan →
    2 * b.scan.tokens.length + 1 ≤ fuel → Within scan depth compact.toNat b.scan.tokens →
    Goes scan b (node fuel inBlock compact depth) fun _ ts =>
      Level b.scan.tokens ts ∧ (compact = false → ts.length < b.scan.tokens.length)
  blockItems : ∀ {b : Builder} {depth : Nat}, b.Follows scan →
    2 * b.scan.tokens.length + 1 ≤ fuel → Within scan depth 1 b.scan.tokens →
    Goes scan b (blockItems fuel depth) fun _ ts => Past (-1) b.scan.tokens ts
  compactItems : ∀ {b : Builder} {depth : Nat}, b.Follows scan →
    2 * b.scan.tokens.length ≤ fuel → 0 < fuel → Within scan depth 0 b.scan.tokens →
    Goes scan b (compactItems fuel depth) fun _ ts => Level b.scan.tokens ts
  blockEntries : ∀ {b : Builder} {depth : Nat}, b.Follows scan →
    2 * b.scan.tokens.length + 1 ≤ fuel → Within scan depth 1 b.scan.tokens →
    Goes scan b (blockEntries fuel depth) fun _ ts => Past (-1) b.scan.tokens ts
  flowItems : ∀ {b : Builder} (first : Bool) {depth : Nat}, b.Follows scan →
    2 * b.scan.tokens.length + 2 ≤ fuel → Within scan depth 1 b.scan.tokens →
    Goes scan b (flowItems fuel first depth) fun _ ts => Past (-1) b.scan.tokens ts
  flowEntries : ∀ {b : Builder} (first : Bool) {depth : Nat}, b.Follows scan →
    2 * b.scan.tokens.length + 2 ≤ fuel → Within scan depth 1 b.scan.tokens →
    Goes scan b (flowEntries fuel first depth) fun _ ts => Past (-1) b.scan.tokens ts

section

variable {depth slack fuel : Nat} {ts ts' : List Token}

theorem Within.level (h : Within scan depth slack ts) (hts : nesting ts = nesting ts')
    {slack' : Nat} (hslack : slack' ≤ slack) : Within scan depth slack' ts' := by
  unfold Within at *
  omega

theorem isDeep_of_suffix (hts : ts <:+ scan.tokens)
    (h : maxNesting + 2 * nesting ts < 2 * nesting scan.tokens) : IsDeep scan.tokens := by
  obtain ⟨front, hfront⟩ := hts
  have hsum : nesting scan.tokens = nesting front + nesting ts := by
    rw [← hfront, nesting_append]
  exact ⟨front, ⟨ts, hfront⟩, by omega⟩

/-- A collection may be opened, with some slack inside it, or too many are open. -/
def HasRoom (scan : Scan) (depth slack : Nat) (ts : List Token) : Prop :=
  (depth = 0 → IsDeep scan.tokens) ∧ ∀ d, depth = d + 1 → Within scan d slack ts

/-- A token that opens a collection makes room for it and for another one inside it. -/
theorem Within.open (h : Within scan depth slack ts) (hpast : Past 1 ts ts')
    (hts : ts' <:+ scan.tokens) : HasRoom scan depth 1 ts' := by
  have hnesting := hpast.2
  unfold Within at h
  refine ⟨fun hdepth => isDeep_of_suffix hts (by omega), fun d hdepth => ?_⟩
  unfold Within
  omega

/-- A collection without a token of its own takes the room of the one around it. -/
theorem Within.inside (h : Within scan depth 1 ts) (hts : ts <:+ scan.tokens) :
    HasRoom scan depth 0 ts := by
  unfold Within at h
  refine ⟨fun hdepth => isDeep_of_suffix hts (by omega), fun d hdepth => ?_⟩
  unfold Within
  omega

theorem goes_collection {γ : Type} {wrap : γ → Content} (hwrap : ∀ x text, wrap x ≠ .scalar text)
    {read : Nat → Build γ} {anchor : Option (List Char)} {tag : Tag} {x : γ}
    {R : List Token → Prop} (hb : b.Follows scan) (hroom : HasRoom scan depth slack b.scan.tokens)
    (hread : ∀ d {b' : Builder}, b'.Follows scan → b'.scan.tokens = b.scan.tokens →
      Within scan d slack b'.scan.tokens → Goes scan b' (read d) fun _ ts => R ts) :
    Goes scan b (do
      let i ← start anchor ⟨tag, wrap x⟩
      match depth with
      | 0 => throw .tooDeep
      | depth + 1 => fill i (wrap (← read depth))
      pure i) fun _ ts => R ts := by
  have hnode : Node.IsFrom scan.tokens ⟨tag, wrap x⟩ := isFrom_collection (hwrap x) _
  refine (goes_start anchor hnode hb).bind fun i b₁ hb₁ htokens => ?_
  cases depth with
  | zero => exact .throw (.inr (.inr ⟨rfl, hroom.1 rfl⟩))
  | succ d =>
    have hwithin : Within scan d slack b₁.scan.tokens := htokens ▸ hroom.2 d rfl
    refine (hread d hb₁ htokens hwithin).bind fun y b₂ hb₂ hR => ?_
    refine (goes_fill i (hwrap y) hb₂).bind fun _ b₃ hb₃ htokens₃ => ?_
    exact .pure hb₃ (htokens₃ ▸ hR)

theorem goes_opened {t : Token} (ht : t.weight = 1) (hhead : t ∈ b.scan.tokens.head?)
    {γ : Type} {wrap : γ → Content} (hwrap : ∀ x text, wrap x ≠ .scalar text)
    {read : Nat → Build γ} {anchor : Option (List Char)} {tag : Tag} {x : γ}
    (hb : b.Follows scan) (hwithin : Within scan depth slack b.scan.tokens)
    (hread : ∀ d {b' : Builder}, b'.Follows scan →
      b'.scan.tokens.length < b.scan.tokens.length → Within scan d 1 b'.scan.tokens →
      Goes scan b' (read d) fun _ ts => Past (-1) b'.scan.tokens ts) :
    Goes scan b (do
      drop
      let i ← start anchor ⟨tag, wrap x⟩
      match depth with
      | 0 => throw .tooDeep
      | depth + 1 => fill i (wrap (← read depth))
      pure i) fun _ ts => Past 0 b.scan.tokens ts := by
  refine (goes_drop 1 ht hhead hb).bind fun _ b₁ hb₁ hpast => ?_
  have hroom := hwithin.open hpast hb₁.tokens
  obtain ⟨hlt, hnesting⟩ := hpast
  refine goes_collection (R := Past 0 b.scan.tokens) hwrap hb₁ hroom
    fun d b₂ hb₂ htokens hwithin₂ => ?_
  rw [← htokens] at hlt hnesting
  refine (hread d hb₂ hlt hwithin₂).weaken ?_
  rintro _ ts ⟨hlt', hnesting'⟩
  exact ⟨by omega, by omega⟩

/-- A node, or a scalar that is not written. -/
theorem goes_part (ih : Parts scan fuel) (ends : List Token) (inBlock compact : Bool)
    (hb : b.Follows scan) (hfuel : 2 * b.scan.tokens.length + 1 ≤ fuel)
    (hwithin : Within scan depth compact.toNat b.scan.tokens) :
    Goes scan b (do if ← isNext ends then emptyScalar else node fuel inBlock compact depth)
      fun _ ts => Level b.scan.tokens ts := by
  refine (goes_isNext ends hb).bind ?_
  rintro r b₁ hb₁ ⟨htokens, _⟩
  rw [← htokens] at hfuel hwithin ⊢
  split
  · refine (goes_emptyScalar hb₁).weaken ?_
    rintro _ ts rfl
    exact Level.refl _
  · exact (ih.node inBlock compact hb₁ hfuel hwithin).weaken fun _ _ h => h.1

/-! ## Nodes -/

theorem goes_alias {name : List Char} (hhead : .alias name ∈ b.scan.tokens.head?)
    (hb : b.Follows scan) :
    Goes scan b (do
      drop
      match (← get).anchors.lookup name with
      | some i => pure i
      | none => throw .undefinedAlias) fun _ ts => Past 0 b.scan.tokens ts := by
  refine (goes_drop 0 rfl hhead hb).bind fun _ b₁ hb₁ hpast => ?_
  refine (goes_get hb₁).bind ?_
  rintro _ b₂ hb₂ ⟨htokens, _⟩
  rw [← htokens] at hpast
  split
  · exact .pure hb₂ hpast
  · exact .throw (.inl rfl)

theorem goes_scalar {text : List Char} {plain : Bool} {anchor tag : Option (List Char)}
    (hhead : .scalar text plain ∈ b.scan.tokens.head?) (htag : IsTagged scan tag b.scan.tokens)
    (hb : b.Follows scan) :
    Goes scan b (do
      drop
      start anchor ⟨scalarTag text plain tag, .scalar text⟩) fun _ ts =>
        Past 0 b.scan.tokens ts := by
  have hmem := hb.tokens.subset (List.mem_of_mem_head? hhead)
  have hleading : text = leadingText b.scan.tokens := by
    obtain ⟨ts, hts⟩ := List.head?_eq_some_iff.1 hhead
    rw [hts, leadingText]
  refine (goes_drop 0 rfl hhead hb).bind fun _ b₁ hb₁ hpast => ?_
  refine (goes_start anchor (isFrom_scalar (.inr hmem) hleading htag) hb₁).weaken ?_
  rintro - ts rfl
  exact hpast

/-- A scalar that is not written, where no scalar follows. -/
theorem goes_unwritten {anchor tag : Option (List Char)}
    (hhead : ∀ text plain, b.scan.tokens.head? ≠ some (.scalar text plain))
    (htag : IsTagged scan tag b.scan.tokens) (hb : b.Follows scan) :
    Goes scan b (start anchor ⟨scalarTag [] true tag, .scalar []⟩) fun _ ts =>
      ts = b.scan.tokens := by
  have hleading : [] = leadingText b.scan.tokens := by
    unfold leadingText
    split
    · rename_i text plain ts hts
      rw [hts] at hhead
      exact absurd rfl (hhead text plain)
    · rfl
  exact goes_start anchor (isFrom_scalar (.inl ⟨rfl, rfl⟩) hleading htag) hb

/-- A sequence at the column of its mapping. The dash of the first item is still there, so the fuel
lasts. -/
theorem goes_compact (ih : Parts scan fuel) {anchor : Option (List Char)} {tag : Tag}
    (hhead : .blockEntry ∈ b.scan.tokens.head?) (hb : b.Follows scan)
    (hfuel : 2 * b.scan.tokens.length ≤ fuel) (hwithin : Within scan depth 1 b.scan.tokens) :
    Goes scan b (do
      let i ← start anchor ⟨tag, .sequence []⟩
      match depth with
      | 0 => throw .tooDeep
      | depth + 1 => fill i (.sequence (← compactItems fuel depth))
      pure i) fun _ ts => Level b.scan.tokens ts := by
  obtain ⟨ts, hts⟩ := List.head?_eq_some_iff.1 hhead
  have hpos : 0 < b.scan.tokens.length := by
    rw [hts]
    exact Nat.succ_pos _
  have hroom := hwithin.inside hb.tokens
  refine goes_collection (R := Level b.scan.tokens) (by simp) hb hroom
    fun d b₁ hb₁ htokens hwithin₁ => ?_
  rw [← htokens] at hfuel hpos ⊢
  exact ih.compactItems hb₁ hfuel (by omega) hwithin₁

theorem goes_node (ih : Parts scan fuel) (inBlock compact : Bool)
    (hb : b.Follows scan) (hfuel : 2 * b.scan.tokens.length + 1 ≤ fuel + 1)
    (hwithin : Within scan depth compact.toNat b.scan.tokens) :
    Goes scan b (node (fuel + 1) inBlock compact depth) fun _ ts =>
      Level b.scan.tokens ts ∧ (compact = false → ts.length < b.scan.tokens.length) := by
  rw [node]
  refine (goes_peek hb).bind ?_
  rintro t b₁ hb₁ ⟨htokens, hhead, -⟩
  rw [← htokens] at hfuel hwithin ⊢
  split
  · contradiction
  · refine (goes_alias hhead.symm hb₁).weaken fun _ ts hpast => ?_
    exact ⟨.of_past hpast, fun _ => hpast.1⟩
  rename_i hsucc _
  cases hsucc
  refine (goes_properties hb₁).bind ?_
  rintro ⟨anchor, tag⟩ b₂ hb₂ ⟨⟨hle, hlevel⟩, htake, htag⟩
  replace hwithin := hwithin.level hlevel (Nat.le_refl _)
  refine (goes_peek hb₂).bind ?_
  rintro t b₃ hb₃ ⟨htokens₃, hhead₃, -⟩
  rw [← htokens₃] at htake hle hlevel hwithin htag
  refine (goes_get hb₃).bind ?_
  rintro _ b₄ hb₄ ⟨htokens₄, _⟩
  rw [← htokens₄] at htake hle hlevel hwithin htag
  have hhead₄ : t = b₄.scan.tokens.head? := htokens₄ ▸ hhead₃
  clear hhead₃
  simp only
  split
  · exact .throw (.inl rfl)
  -- what follows the anchor and the tag takes a token, but for the two cases that need not
  have hpast : ∀ ts, Past 0 b₄.scan.tokens ts → Level b₁.scan.tokens ts ∧
      (compact = false → ts.length < b₁.scan.tokens.length) := by
    rintro ts ⟨hlt, hnesting⟩
    exact ⟨⟨by omega, by omega⟩, fun _ => by omega⟩
  split
  · exact (goes_scalar hhead₄.symm htag hb₄).weaken fun _ => hpast
  · refine (goes_opened rfl hhead₄.symm (by simp) hb₄ hwithin fun d b' hb' hlt => ?_).weaken
      fun _ => hpast
    exact ih.flowItems true hb' (by omega)
  · refine (goes_opened rfl hhead₄.symm (by simp) hb₄ hwithin fun d b' hb' hlt => ?_).weaken
      fun _ => hpast
    exact ih.flowEntries true hb' (by omega)
  rename_i hscalar _ _
  split
  · rename_i hcompact
    obtain ⟨rfl, rfl⟩ := hcompact
    refine (goes_compact ih hhead₄.symm hb₄ (by omega) hwithin).weaken ?_
    rintro _ ts ⟨hle', hlevel'⟩
    exact ⟨⟨by omega, by omega⟩, by simp⟩
  split
  · rename_i hsequence
    obtain ⟨-, rfl⟩ := hsequence
    refine (goes_opened rfl hhead₄.symm (by simp) hb₄ hwithin fun d b' hb' hlt => ?_).weaken
      fun _ => hpast
    exact ih.blockItems hb' (by omega)
  split
  · rename_i hmapping
    obtain ⟨-, rfl⟩ := hmapping
    refine (goes_opened rfl hhead₄.symm (by simp) hb₄ hwithin fun d b' hb' hlt => ?_).weaken
      fun _ => hpast
    exact ih.blockEntries hb' (by omega)
  split
  · rename_i hsome
    refine (goes_unwritten (hhead₄ ▸ hscalar) htag hb₄).weaken ?_
    rintro - ts rfl
    exact ⟨⟨hle, hlevel⟩, fun _ => htake hsome⟩
  · exact .throw (.inl rfl)

/-! ## Items and entries -/

theorem goes_cons {γ : Type} {rest : Build (List γ)} {R : List Token → Prop} (x : γ)
    (h : Goes scan b rest fun _ ts => R ts) :
    Goes scan b (do pure (x :: (← rest))) fun _ ts => R ts :=
  h.bind fun _ _ hb' hR => .pure hb' hR

/-- After the dash of an item, whatever goes on with a written item goes on without one. -/
theorem goes_item (ih : Parts scan fuel) (ends : List Token) {f : Nat → Build α}
    {Q : α → List Token → Prop} (hb : b.Follows scan) (hpast : Past 0 ts b.scan.tokens)
    (hfuel : 2 * b.scan.tokens.length + 1 ≤ fuel) (hwithin : Within scan depth slack ts)
    (hf : ∀ {b' : Builder} (item : Nat), b'.Follows scan → Past 0 ts b'.scan.tokens →
      Goes scan b' (f item) Q) :
    Goes scan b (do
      if ← isNext ends then emptyScalar >>= f else node fuel true false depth >>= f) Q := by
  refine (goes_isNext ends hb).bind ?_
  rintro r b₁ hb₁ ⟨htokens, _⟩
  rw [← htokens] at hpast hfuel
  split
  · refine (goes_emptyScalar hb₁).bind fun item b₂ hb₂ htokens₂ => ?_
    exact hf item hb₂ (htokens₂ ▸ hpast)
  · have hlevel := hpast.2
    have hnode := ih.node true false hb₁ hfuel (hwithin.level (by omega) (Nat.zero_le slack))
    exact hnode.bind fun item b₂ hb₂ h₂ => hf item hb₂ (hpast.level h₂.1)

theorem goes_blockItems (ih : Parts scan fuel) (hb : b.Follows scan)
    (hfuel : 2 * b.scan.tokens.length + 1 ≤ fuel + 1)
    (hwithin : Within scan depth 1 b.scan.tokens) :
    Goes scan b (blockItems (fuel + 1) depth) fun _ ts => Past (-1) b.scan.tokens ts := by
  have hmore : ∀ {b' : Builder} (item : Nat), b'.Follows scan → Past 0 b.scan.tokens b'.scan.tokens →
      Goes scan b' (do pure (item :: (← blockItems fuel depth)))
        fun _ ts => Past (-1) b.scan.tokens ts := by
    rintro b' item hb' ⟨hlt, hlevel⟩
    have hitems := ih.blockItems hb' (by omega) (hwithin.level (by omega) (Nat.le_refl 1))
    exact goes_cons item (hitems.weaken fun _ _ => Past.past ⟨hlt, hlevel⟩)
  rw [blockItems]
  refine (goes_take .blockEntry 0 rfl hb).bind fun r b₁ hb₁ htaken => ?_
  split
  · have hpast := htaken.1 ‹_›
    have hlt := hpast.1
    exact goes_item ih _ hb₁ hpast (by omega) hwithin hmore
  · rw [← htaken.2 ‹_›]
    exact (goes_expect .blockEnd (-1) rfl hb₁).bind fun _ b₂ hb₂ hpast => .pure hb₂ hpast

theorem goes_compactItems (ih : Parts scan fuel) (hb : b.Follows scan)
    (hfuel : 2 * b.scan.tokens.length ≤ fuel + 1)
    (hwithin : Within scan depth 0 b.scan.tokens) :
    Goes scan b (compactItems (fuel + 1) depth) fun _ ts => Level b.scan.tokens ts := by
  have hmore : ∀ {b' : Builder} (item : Nat), b'.Follows scan → Past 0 b.scan.tokens b'.scan.tokens →
      Goes scan b' (do pure (item :: (← compactItems fuel depth)))
        fun _ ts => Level b.scan.tokens ts := by
    rintro b' item hb' ⟨hlt, hlevel⟩
    have hitems := ih.compactItems hb' (by omega) (by omega)
      (hwithin.level (by omega) (Nat.le_refl 0))
    exact goes_cons item (hitems.weaken fun _ _ => (Level.of_past ⟨hlt, hlevel⟩).trans)
  rw [compactItems]
  refine (goes_take .blockEntry 0 rfl hb).bind fun r b₁ hb₁ htaken => ?_
  split
  · have hpast := htaken.1 ‹_›
    have hlt := hpast.1
    exact goes_item ih _ hb₁ hpast (by omega) hwithin hmore
  · rw [← htaken.2 ‹_›]
    exact .pure hb₁ (Level.refl _)

/-- After the key of an entry, whatever goes on with a written value goes on without one. -/
theorem goes_value {part : Build Nat} {f : Nat → Build α} {Q : α → List Token → Prop}
    (hb : b.Follows scan) (hpast : Past 0 ts b.scan.tokens)
    (hpart : ∀ {b' : Builder}, b'.Follows scan → Past 0 ts b'.scan.tokens →
      Goes scan b' part fun _ ts' => Past 0 ts ts')
    (hf : ∀ (value : Nat) {b' : Builder}, b'.Follows scan → Past 0 ts b'.scan.tokens →
      Goes scan b' (f value) Q) :
    Goes scan b (do if ← take .value then part >>= f else emptyScalar >>= f) Q := by
  refine (goes_take .value 0 rfl hb).bind fun r b₁ hb₁ htaken => ?_
  split
  · exact (hpart hb₁ (hpast.past (htaken.1 ‹_›))).bind fun value b₂ hb₂ => hf value hb₂
  · rw [← htaken.2 ‹_›] at hpast
    refine (goes_emptyScalar hb₁).bind fun value b₂ hb₂ htokens => ?_
    exact hf value hb₂ (htokens ▸ hpast)

theorem goes_blockEntries (ih : Parts scan fuel) (hb : b.Follows scan)
    (hfuel : 2 * b.scan.tokens.length + 1 ≤ fuel + 1)
    (hwithin : Within scan depth 1 b.scan.tokens) :
    Goes scan b (blockEntries (fuel + 1) depth) fun _ ts => Past (-1) b.scan.tokens ts := by
  have hpart : ∀ {b' : Builder}, b'.Follows scan → Past 0 b.scan.tokens b'.scan.tokens →
      Goes scan b' (do
        if ← isNext [.key, .value, .blockEnd] then emptyScalar
        else node fuel true true depth) fun _ ts => Past 0 b.scan.tokens ts := by
    rintro b' hb' ⟨hlt, hlevel⟩
    have hpart := goes_part ih [.key, .value, .blockEnd] true true hb' (by omega)
      (hwithin.level (by omega) (Nat.le_refl 1))
    exact hpart.weaken fun _ _ => Past.level ⟨hlt, hlevel⟩
  have hmore : ∀ {b' : Builder} (entry : Nat × Nat), b'.Follows scan →
      Past 0 b.scan.tokens b'.scan.tokens →
      Goes scan b' (do pure (entry :: (← blockEntries fuel depth)))
        fun _ ts => Past (-1) b.scan.tokens ts := by
    rintro b' entry hb' ⟨hlt, hlevel⟩
    have hentries := ih.blockEntries hb' (by omega) (hwithin.level (by omega) (Nat.le_refl 1))
    exact goes_cons entry (hentries.weaken fun _ _ => Past.past ⟨hlt, hlevel⟩)
  rw [blockEntries]
  refine (goes_take .key 0 rfl hb).bind fun r b₁ hb₁ htaken => ?_
  split
  · refine (hpart hb₁ (htaken.1 ‹_›)).bind fun key b₂ hb₂ hkey => ?_
    exact goes_value hb₂ hkey hpart fun value => hmore (key, value)
  · rw [← htaken.2 ‹_›]
    exact (goes_expect .blockEnd (-1) rfl hb₁).bind fun _ b₂ hb₂ hpast => .pure hb₂ hpast

/-- The entries of a flow collection follow each other after commas. -/
theorem goes_separated (first : Bool) {f : Unit → Build α} {Q : α → List Token → Prop}
    (hb : b.Follows scan)
    (hf : ∀ {b' : Builder}, b'.Follows scan → Level b.scan.tokens b'.scan.tokens →
      Goes scan b' (f ()) Q) :
    Goes scan b (if !first then expect .flowEntry >>= f else f ()) Q := by
  split
  · refine (goes_expect .flowEntry 0 rfl hb).bind ?_
    rintro _ b' hb' ⟨hlt, hlevel⟩
    exact hf hb' ⟨by omega, by omega⟩
  · exact hf hb (Level.refl _)

/-- An item with the sign of a key is a collection of its own, one further inside. -/
theorem goes_pair (ih : Parts scan fuel) {f : Nat → Build α} {Q : α → List Token → Prop}
    (hb : b.Follows scan) (hpast : Past 0 ts b.scan.tokens) (hfuel : 2 * ts.length + 2 ≤ fuel + 1)
    (hwithin : Within scan depth 1 ts)
    (hf : ∀ {b' : Builder} (item : Nat), b'.Follows scan → Past 0 ts b'.scan.tokens →
      Goes scan b' (f item) Q) :
    Goes scan b (do
      let part (ends : List Token) : Build Nat := do
        if ← isNext ends then emptyScalar else node fuel false false (depth - 1)
      let i ← start none ⟨.mapping, .mapping []⟩
      if depth = 0 then throw .tooDeep
      let key ← part [.value, .flowEntry, .flowSequenceEnd]
      let value ← if ← take .value then part [.flowEntry, .flowSequenceEnd] else emptyScalar
      fill i (.mapping [(key, value)])
      f i) Q := by
  obtain ⟨hlt, hlevel⟩ := hpast
  have hwithin' : Within scan depth 1 b.scan.tokens := hwithin.level (by omega) (Nat.le_refl 1)
  have hroom := hwithin'.inside hb.tokens
  refine (goes_start none (isFrom_collection (by simp) _) hb).bind fun i b₁ hb₁ htokens => ?_
  rw [← htokens] at hroom hlt hlevel
  split
  · exact .throw (.inr (.inr ⟨rfl, hroom.1 ‹_›⟩))
  have hpart : ∀ {b' : Builder} (ends : List Token), b'.Follows scan → Past 0 ts b'.scan.tokens →
      Goes scan b' (do
        if ← isNext ends then emptyScalar
        else node fuel false false (depth - 1)) fun _ ts' => Past 0 ts ts' := by
    rintro b' ends hb' ⟨hlt', hlevel'⟩
    have hinside : Within scan (depth - 1) 0 b'.scan.tokens :=
      (hroom.2 (depth - 1) (by omega)).level (by omega) (Nat.le_refl 0)
    have hpart := goes_part ih ends false false hb' (by omega) hinside
    exact hpart.weaken fun _ _ => Past.level ⟨hlt', hlevel'⟩
  refine (hpart _ hb₁ ⟨hlt, hlevel⟩).bind fun key b₂ hb₂ hkey => ?_
  refine goes_value hb₂ hkey (hpart _) fun value b₃ hb₃ hvalue => ?_
  refine (goes_fill i (by simp) hb₃).bind fun _ b₄ hb₄ htokens₄ => ?_
  exact hf i hb₄ (htokens₄ ▸ hvalue)

theorem goes_flowItems (ih : Parts scan fuel) (first : Bool) (hb : b.Follows scan)
    (hfuel : 2 * b.scan.tokens.length + 2 ≤ fuel + 1)
    (hwithin : Within scan depth 1 b.scan.tokens) :
    Goes scan b (flowItems (fuel + 1) first depth) fun _ ts => Past (-1) b.scan.tokens ts := by
  have hmore : ∀ {b' : Builder} (item : Nat), b'.Follows scan → Past 0 b.scan.tokens b'.scan.tokens →
      Goes scan b' (do pure (item :: (← flowItems fuel false depth)))
        fun _ ts => Past (-1) b.scan.tokens ts := by
    rintro b' item hb' ⟨hlt, hlevel⟩
    have hitems := ih.flowItems false hb' (by omega) (hwithin.level (by omega) (Nat.le_refl 1))
    exact goes_cons item (hitems.weaken fun _ _ => Past.past ⟨hlt, hlevel⟩)
  rw [flowItems]
  refine (goes_take .flowSequenceEnd (-1) rfl hb).bind fun r b₁ hb₁ htaken₁ => ?_
  split
  · exact .pure hb₁ (htaken₁.1 ‹_›)
  rw [← htaken₁.2 ‹_›] at hfuel hwithin hmore ⊢
  refine goes_separated first hb₁ fun {b₂} hb₂ hlevel => ?_
  obtain ⟨hle₂, hlevel₂⟩ := hlevel
  refine (goes_take .flowSequenceEnd (-1) rfl hb₂).bind fun r b₃ hb₃ htaken₃ => ?_
  split
  · obtain ⟨hlt₃, hlevel₃⟩ := htaken₃.1 ‹_›
    exact .pure hb₃ ⟨by omega, by omega⟩
  rw [← htaken₃.2 ‹_›] at hle₂ hlevel₂
  refine (goes_take .key 0 rfl hb₃).bind fun r b₄ hb₄ htaken₄ => ?_
  split
  · obtain ⟨hlt₄, hlevel₄⟩ := htaken₄.1 ‹_›
    exact goes_pair ih hb₄ ⟨by omega, by omega⟩ hfuel hwithin hmore
  · rw [← htaken₄.2 ‹_›] at hle₂ hlevel₂
    have hnode := ih.node false false hb₄ (by omega) (hwithin.level hlevel₂ (by decide))
    refine hnode.bind ?_
    rintro item b₅ hb₅ ⟨⟨_, hlevel₅⟩, hlt₅⟩
    replace hlt₅ := hlt₅ rfl
    exact hmore item hb₅ ⟨by omega, by omega⟩

theorem goes_flowEntries (ih : Parts scan fuel) (first : Bool) (hb : b.Follows scan)
    (hfuel : 2 * b.scan.tokens.length + 2 ≤ fuel + 1)
    (hwithin : Within scan depth 1 b.scan.tokens) :
    Goes scan b (flowEntries (fuel + 1) first depth) fun _ ts => Past (-1) b.scan.tokens ts := by
  have hmore : ∀ {b' : Builder} (entry : Nat × Nat), b'.Follows scan →
      Past 0 b.scan.tokens b'.scan.tokens →
      Goes scan b' (do pure (entry :: (← flowEntries fuel false depth)))
        fun _ ts => Past (-1) b.scan.tokens ts := by
    rintro b' entry hb' ⟨hlt, hlevel⟩
    have hentries := ih.flowEntries false hb' (by omega) (hwithin.level (by omega) (Nat.le_refl 1))
    exact goes_cons entry (hentries.weaken fun _ _ => Past.past ⟨hlt, hlevel⟩)
  have hpart : ∀ {b' : Builder} (ends : List Token), b'.Follows scan →
      Past 0 b.scan.tokens b'.scan.tokens →
      Goes scan b' (do
        if ← isNext ends then emptyScalar
        else node fuel false false depth) fun _ ts => Past 0 b.scan.tokens ts := by
    rintro b' ends hb' ⟨hlt, hlevel⟩
    have hpart := goes_part ih ends false false hb' (by omega)
      (hwithin.level (by omega) (by decide))
    exact hpart.weaken fun _ _ => Past.level ⟨hlt, hlevel⟩
  rw [flowEntries]
  refine (goes_take .flowMappingEnd (-1) rfl hb).bind fun r b₁ hb₁ htaken₁ => ?_
  split
  · exact .pure hb₁ (htaken₁.1 ‹_›)
  rw [← htaken₁.2 ‹_›] at hfuel hwithin hmore hpart ⊢
  refine goes_separated first hb₁ fun {b₂} hb₂ hlevel => ?_
  obtain ⟨hle₂, hlevel₂⟩ := hlevel
  refine (goes_take .flowMappingEnd (-1) rfl hb₂).bind fun r b₃ hb₃ htaken₃ => ?_
  split
  · obtain ⟨hlt₃, hlevel₃⟩ := htaken₃.1 ‹_›
    exact .pure hb₃ ⟨by omega, by omega⟩
  rw [← htaken₃.2 ‹_›] at hle₂ hlevel₂
  refine (goes_take .key 0 rfl hb₃).bind fun r b₄ hb₄ htaken₄ => ?_
  split
  · obtain ⟨hlt₄, hlevel₄⟩ := htaken₄.1 ‹_›
    refine (hpart _ hb₄ ⟨by omega, by omega⟩).bind fun key b₅ hb₅ hkey => ?_
    exact goes_value hb₅ hkey (hpart _) fun value => hmore (key, value)
  · rw [← htaken₄.2 ‹_›] at hle₂ hlevel₂
    have hnode := ih.node false false hb₄ (by omega) (hwithin.level hlevel₂ (by decide))
    refine hnode.bind ?_
    rintro key b₅ hb₅ ⟨⟨_, hlevel₅⟩, hlt₅⟩
    replace hlt₅ := hlt₅ rfl
    refine (goes_emptyScalar hb₅).bind fun value b₆ hb₆ htokens₆ => ?_
    rw [← htokens₆] at hlt₅ hlevel₅
    exact hmore (key, value) hb₆ ⟨by omega, by omega⟩

end

theorem parts (scan : Scan) (fuel : Nat) : Parts scan fuel := by
  induction fuel with
  | zero =>
    -- every reader asks for some fuel
    constructor
    all_goals
      intros
      omega
  | succ fuel ih =>
    constructor
    case node => exact fun inBlock compact => goes_node ih inBlock compact
    case blockItems => exact goes_blockItems ih
    case compactItems => exact fun hb hfuel _ => goes_compactItems ih hb hfuel
    case blockEntries => exact goes_blockEntries ih
    case flowItems => exact fun first => goes_flowItems ih first
    case flowEntries => exact fun first => goes_flowEntries ih first

/-! ## Documents -/

end Builder

end ClusterPilot.Yaml
