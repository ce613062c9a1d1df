/-
Where the nodes of a graph come from. The reader of nodes goes through the tokens of a scan in
order, and a scalar that it makes is one of them: a plain one without a tag stands for what its form
says, and one behind a tag for what the tag says, written out or by a shorthand that the text can
use. Each token that is left behind changes the number of collections that are open.
-/
import ClusterPilot.Proofs.Yaml.Promise
import ClusterPilot.Yaml.Graph

namespace ClusterPilot.Yaml

/-- How a token changes the number of collections that are open. -/
def Token.weight : Token → Int
  | .blockSequenceStart | .blockMappingStart | .flowSequenceStart | .flowMappingStart => 1
  | .blockEnd | .flowSequenceEnd | .flowMappingEnd => -1
  | _ => 0

/-- How many collections some tokens open and do not close. -/
def nesting : List Token → Int
  | [] => 0
  | t :: ts => t.weight + nesting ts

theorem nesting_append (ts ts' : List Token) : nesting (ts ++ ts') = nesting ts + nesting ts' := by
  induction ts with
  | nil => simp [nesting]
  | cons t ts ih =>
    simp only [List.cons_append, nesting, ih]
    omega

/-- After some of the tokens so many collections are open that there may be too many. -/
def IsDeep (ts : List Token) : Prop := ∃ front, front <+: ts ∧ maxNesting < 2 * nesting front

/-- What a tag stands for: itself when it is written out, and otherwise what its shorthand does,
which needs no directive or has one. -/
inductive Resolves (ts : List Token) : TagName → List Char → Prop
  | whole (suffix : List Char) : Resolves ts ⟨none, suffix⟩ suffix
  | shorthand {handle expansion : List Char} (suffix : List Char)
    (known : (handle, expansion) ∈ Builder.standardHandles ∨ .tagDirective handle expansion ∈ ts) :
    Resolves ts ⟨some handle, suffix⟩ (expansion ++ suffix)

/-- A tag stands in front of the last of some tokens, with nothing but an anchor between. -/
def Tags (ts : List Token) (name : TagName) (rest : List Token) : Prop :=
  .tag name :: rest <:+ ts ∨ ∃ a, .tag name :: .anchor a :: rest <:+ ts

/-- The text of the scalar that some tokens begin with. One that is not written has none. -/
def leadingText : List Token → List Char
  | .scalar text _ :: _ => text
  | _ => []

/-- A node that some tokens can be the source of: a plain scalar among them without a tag, or the
scalar behind one of their tags. -/
def Node.IsFrom (ts : List Token) (node : Node) : Prop :=
  ∀ text, node.content = .scalar text →
    node.tag = .text ∨
    node.tag = Tag.ofPlain text ∧ (text = [] ∨ .scalar text true ∈ ts) ∨
    ∃ name whole rest, Resolves ts name whole ∧ Tags ts name rest ∧ text = leadingText rest ∧
      node.tag = Builder.tagOr (Tag.ofPlain text) (some whole)

/-- How the reading of a scan may fail. -/
def Scan.Stops (scan : Scan) (e : Error) : Prop :=
  e.isPromised = true ∨ scan.error = some e ∨ e = .tooDeep ∧ IsDeep scan.tokens

namespace Builder

/-- A reader somewhere in a scan, with nodes and shorthands from its tokens. -/
structure Follows (scan : Scan) (b : Builder) : Prop where
  error : b.scan.error = scan.error
  tokens : b.scan.tokens <:+ scan.tokens
  nodes : ∀ node ∈ b.nodes, node.IsFrom scan.tokens
  handles : ∀ entry ∈ b.handles,
    entry ∈ standardHandles ∨ .tagDirective entry.1 entry.2 ∈ scan.tokens

/-- A step of the reader goes on in the scan; `Q` tells its result and the tokens that are left. -/
def Goes {α : Type} (scan : Scan) (b : Builder) (x : Build α) (Q : α → List Token → Prop) : Prop :=
  Meets scan.Stops (fun r => r.2.Follows scan ∧ Q r.1 r.2.scan.tokens) (x.run b)

variable {scan : Scan} {b : Builder} {α β : Type}

namespace Goes

variable {x : Build α} {P P' : α → List Token → Prop} {Q : β → List Token → Prop}

theorem bind {f : α → Build β} (hx : Goes scan b x P)
    (hf : ∀ a {b' : Builder}, b'.Follows scan → P a b'.scan.tokens → Goes scan b' (f a) Q) :
    Goes scan b (x >>= f) Q := by
  unfold Goes
  rw [StateT.run_bind]
  refine Meets.bind hx ?_
  rintro ⟨a, b'⟩ ⟨hb', ha⟩
  exact hf a hb' ha

theorem weaken (hx : Goes scan b x P) (h : ∀ a ts, P a ts → P' a ts) : Goes scan b x P' := by
  refine Meets.weaken hx ?_
  rintro r ⟨hb', ha⟩
  exact ⟨hb', h _ _ ha⟩

theorem pure {a : α} (hb : b.Follows scan) (ha : P a b.scan.tokens) :
    Goes scan b (Pure.pure a) P :=
  ⟨hb, ha⟩

theorem throw {e : Error} (he : scan.Stops e) : Goes scan b (throw e : Build α) P := he

end Goes

/-! ## Tokens -/

/-- Some tokens were read, and they change the number of open collections. -/
def Past (weight : Int) (ts ts' : List Token) : Prop :=
  ts'.length < ts.length ∧ nesting ts = weight + nesting ts'

/-- As many collections are open as before. -/
def Level (ts ts' : List Token) : Prop :=
  ts'.length ≤ ts.length ∧ nesting ts = nesting ts'

section

variable {weight : Int} {ts ts₁ ts₂ : List Token}

theorem Level.refl (ts : List Token) : Level ts ts := ⟨Nat.le_refl _, rfl⟩

theorem Level.trans (h : Level ts ts₁) (h' : Level ts₁ ts₂) : Level ts ts₂ :=
  ⟨Nat.le_trans h'.1 h.1, h.2.trans h'.2⟩

theorem Level.of_past (h : Past 0 ts ts₁) : Level ts ts₁ := by
  obtain ⟨hlt, hnesting⟩ := h
  exact ⟨by omega, by omega⟩

theorem Past.past (h : Past 0 ts ts₁) (h' : Past weight ts₁ ts₂) : Past weight ts ts₂ := by
  obtain ⟨hlt, hnesting⟩ := h
  obtain ⟨hlt', hnesting'⟩ := h'
  exact ⟨by omega, by omega⟩

theorem Past.level (h : Past weight ts ts₁) (h' : Level ts₁ ts₂) : Past weight ts ts₂ := by
  obtain ⟨hlt, hnesting⟩ := h
  obtain ⟨hle, hlevel⟩ := h'
  exact ⟨by omega, by omega⟩

end

theorem goes_get (hb : b.Follows scan) :
    Goes scan b get fun b' ts => ts = b.scan.tokens ∧ b'.Follows scan :=
  ⟨hb, rfl, hb⟩

/-- Only at the end of the tokens is it seen whether the scan broke off. -/
theorem goes_peek (hb : b.Follows scan) :
    Goes scan b peek fun t ts =>
      ts = b.scan.tokens ∧ t = ts.head? ∧ (t = none → scan.error = none) := by
  obtain ⟨⟨tokens, error⟩, nodes, anchors, handles⟩ := b
  cases tokens with
  | cons t ts => exact ⟨hb, rfl, rfl, nofun⟩
  | nil =>
    cases error with
    | none => exact ⟨hb, rfl, rfl, fun _ => hb.error.symm⟩
    | some e => exact .inr (.inl hb.error.symm)

theorem goes_tail {t : Token} (hhead : t ∈ b.scan.tokens.head?) (hb : b.Follows scan) :
    Goes scan b drop fun _ ts => b.scan.tokens = t :: ts := by
  refine ⟨⟨hb.error, (List.tail_suffix _).trans hb.tokens, hb.nodes, hb.handles⟩, ?_⟩
  obtain ⟨ts, hts⟩ := List.head?_eq_some_iff.1 hhead
  show b.scan.tokens = t :: b.scan.tokens.tail
  rw [hts, List.tail_cons]

theorem goes_drop {t : Token} (weight : Int) (hweight : t.weight = weight)
    (hhead : t ∈ b.scan.tokens.head?) (hb : b.Follows scan) :
    Goes scan b drop fun _ ts => Past weight b.scan.tokens ts := by
  refine (goes_tail hhead hb).weaken fun _ ts hts => ?_
  rw [hts]
  exact ⟨Nat.lt_succ_self _, by simp [nesting, hweight]⟩

theorem goes_isNext (kinds : List Token) (hb : b.Follows scan) :
    Goes scan b (isNext kinds) fun r ts => ts = b.scan.tokens ∧
      (r = true → ∃ t, ts.head? = some t ∧ t ∈ kinds) := by
  unfold isNext
  refine (goes_peek hb).bind ?_
  rintro t b' hb' ⟨htokens, rfl, -⟩
  split
  · rename_i t hhead
    exact .pure hb' ⟨htokens, fun h => ⟨t, hhead, List.contains_iff_mem.1 h⟩⟩
  · exact .pure hb' ⟨htokens, nofun⟩

theorem goes_take (t : Token) (weight : Int) (hweight : t.weight = weight) (hb : b.Follows scan) :
    Goes scan b (take t) fun r ts =>
      (r = true → Past weight b.scan.tokens ts) ∧ (¬r = true → ts = b.scan.tokens) := by
  unfold take
  refine (goes_isNext [t] hb).bind ?_
  rintro r b' hb' ⟨htokens, hr⟩
  rw [← htokens]
  split
  · rename_i h
    obtain ⟨t', hhead, hmem⟩ := hr h
    cases List.mem_singleton.1 hmem
    refine (goes_drop weight hweight hhead hb').bind fun _ b'' hb'' hpast => ?_
    exact .pure hb'' ⟨fun _ => hpast, fun h' => absurd rfl h'⟩
  · exact .pure hb' ⟨nofun, fun _ => rfl⟩

theorem goes_expect (t : Token) (weight : Int) (hweight : t.weight = weight)
    (hb : b.Follows scan) :
    Goes scan b (expect t) fun _ ts => Past weight b.scan.tokens ts := by
  unfold expect
  refine (goes_take t weight hweight hb).bind fun r b' hb' hr => ?_
  split
  · exact .pure hb' (hr.1 ‹_›)
  · exact .throw (.inl rfl)

/-! ## Nodes -/

theorem goes_start (anchor : Option (List Char)) {node : Node} (hnode : node.IsFrom scan.tokens)
    (hb : b.Follows scan) : Goes scan b (start anchor node) fun _ ts => ts = b.scan.tokens :=
  ⟨⟨hb.error, hb.tokens, List.forall_mem_cons.2 ⟨hnode, hb.nodes⟩, hb.handles⟩, rfl⟩

theorem goes_fill (i : Nat) {content : Content} (hcontent : ∀ text, content ≠ .scalar text)
    (hb : b.Follows scan) : Goes scan b (fill i content) fun _ ts => ts = b.scan.tokens := by
  refine ⟨⟨hb.error, hb.tokens, fun node hnode => ?_, hb.handles⟩, rfl⟩
  obtain ⟨j, hj⟩ := List.mem_iff_getElem?.1 hnode
  rw [List.getElem?_modify] at hj
  obtain ⟨old, hold, rfl⟩ := Option.map_eq_some_iff.1 hj
  have hmem : old ∈ b.nodes := List.mem_of_getElem? hold
  split
  · exact fun text htext => absurd htext (hcontent text)
  · exact hb.nodes old hmem

theorem goes_emptyScalar (hb : b.Follows scan) :
    Goes scan b emptyScalar fun _ ts => ts = b.scan.tokens := by
  refine goes_start none ?_ hb
  rintro text ⟨⟩
  exact .inr (.inl ⟨rfl, .inl rfl⟩)

/-- A token was read if it is one of a kind. -/
def Takes (kind : α → Token) (before : List Token) : Option α → List Token → Prop
  | none, ts => ts = before
  | some x, ts => before = kind x :: ts

theorem Takes.level {kind : α → Token} {before ts : List Token} {r : Option α}
    (h : Takes kind before r ts) (hkind : ∀ x, (kind x).weight = 0) :
    Level before ts ∧ (r.isSome → ts.length < before.length) := by
  cases r with
  | none =>
    obtain rfl : ts = before := h
    exact ⟨.refl _, nofun⟩
  | some x =>
    obtain rfl : before = kind x :: ts := h
    exact ⟨⟨Nat.le_succ _, by simp [nesting, hkind]⟩, fun _ => Nat.lt_succ_self _⟩

/-- The next token is read only if it is one of a kind. -/
theorem goes_optional {kind : α → Token} {f : Option Token → Build (Option α)}
    (hf : ∀ t, (∃ x, t = some (kind x) ∧ f t = (do drop; pure (some x))) ∨ f t = pure none)
    {b : Builder} (hb : b.Follows scan) : Goes scan b (peek >>= f) (Takes kind b.scan.tokens) := by
  refine (goes_peek hb).bind ?_
  rintro t b' hb' ⟨htokens, hhead, -⟩
  rw [← htokens]
  rcases hf t with ⟨x, rfl, hx⟩ | hnone
  · rw [hx]
    exact (goes_tail hhead.symm hb').bind fun _ _ hb'' hts => .pure hb'' hts
  · rw [hnone]
    exact .pure hb' rfl

/-- A tag that was read stands in front of some tokens. -/
def IsTagged (scan : Scan) (tag : Option (List Char)) (ts : List Token) : Prop :=
  ∀ whole ∈ tag, ∃ name, Resolves scan.tokens name whole ∧ Tags scan.tokens name ts

/-- The anchor and the tag in front of a node. The tag is the last but for an anchor. -/
structure Precede (scan : Scan) (before : List Token)
    (r : Option (List Char) × Option (List Char)) (ts : List Token) : Prop where
  level : Level before ts
  taken : r.1.isSome ∨ r.2.isSome → ts.length < before.length
  tag : IsTagged scan r.2 ts

/-- What is read in front of a node: an anchor and a tag, and an anchor only if there was none. -/
theorem precede_of_takes {before ts₁ ts₂ ts : List Token} {first second whole : Option (List Char)}
    {name : Option TagName} (hbefore : before <:+ scan.tokens)
    (hfirst : Takes .anchor before first ts₁) (hname : Takes .tag ts₁ name ts₂)
    (hsecond : Takes .anchor ts₂ second ts)
    (hwhole : ∀ x ∈ whole, ∃ n ∈ name, Resolves scan.tokens n x) :
    Precede scan before (first <|> second, whole) ts := by
  obtain ⟨⟨hle₁, hlevel₁⟩, hlt₁⟩ := hfirst.level fun _ => rfl
  obtain ⟨⟨hle₂, hlevel₂⟩, hlt₂⟩ := hname.level fun _ => rfl
  obtain ⟨⟨hle, hlevel⟩, hlt⟩ := hsecond.level fun _ => rfl
  refine ⟨⟨by omega, by omega⟩, ?_, fun x hx => ?_⟩
  · rintro (h | h)
    · cases first with
      | some _ =>
        have := hlt₁ rfl
        omega
      | none =>
        have := hlt h
        omega
    · obtain ⟨x, rfl⟩ := Option.isSome_iff_exists.1 h
      obtain ⟨n, rfl, -⟩ := hwhole x rfl
      have := hlt₂ rfl
      omega
  · obtain ⟨n, rfl, hresolves⟩ := hwhole x hx
    refine ⟨n, hresolves, ?_⟩
    have hsuffix : .tag n :: ts₂ <:+ scan.tokens := by
      obtain rfl : ts₁ = .tag n :: ts₂ := hname
      -- the anchor that was read before the tag is the only token in front of it
      refine List.IsSuffix.trans ?_ hbefore
      cases first with
      | none => exact hfirst ▸ List.suffix_rfl
      | some a =>
        obtain rfl : before = .anchor a :: _ := hfirst
        exact List.suffix_cons ..
    cases second with
    | none =>
      obtain rfl : ts = ts₂ := hsecond
      exact .inl hsuffix
    | some a =>
      obtain rfl : ts₂ = .anchor a :: ts := hsecond
      exact .inr ⟨a, hsuffix⟩

theorem goes_anchor (hb : b.Follows scan) :
    Goes scan b (do match ← peek with
      | some (.anchor name) => drop; pure (some name)
      | _ => pure none) (Takes .anchor b.scan.tokens) := by
  refine goes_optional (fun t => ?_) hb
  split
  · exact .inl ⟨_, rfl, rfl⟩
  · exact .inr rfl

theorem goes_tag (hb : b.Follows scan) :
    Goes scan b (do match ← peek with
      | some (.tag name) => drop; pure (some name)
      | _ => pure none) (Takes .tag b.scan.tokens) := by
  refine goes_optional (fun t => ?_) hb
  split
  · exact .inl ⟨_, rfl, rfl⟩
  · exact .inr rfl

/-- The handle of a tag is looked up once the tokens are read. -/
theorem goes_resolve {before : List Token} {anchor : Option (List Char)} {name : Option TagName}
    (hprecede : ∀ {whole : Option (List Char)},
      (∀ x ∈ whole, ∃ n ∈ name, Resolves scan.tokens n x) →
      Precede scan before (anchor, whole) b.scan.tokens)
    (hb : b.Follows scan) :
    Goes scan b (do
      let whole ←
        match name with
        | none => pure none
        | some ⟨none, suffix⟩ => pure (some suffix)
        | some ⟨some handle, suffix⟩ =>
          match (← get).handles.lookup handle with
          | some expansion => pure (some (expansion ++ suffix))
          | none => throw .badTag
      pure (anchor, whole)) (Precede scan before) := by
  simp only
  split
  · exact .pure hb (hprecede (by simp))
  · refine .pure hb (hprecede ?_)
    rintro _ ⟨⟩
    exact ⟨_, rfl, .whole _⟩
  · refine (goes_get hb).bind ?_
    rintro b' b₁ hb₁ ⟨htokens, hb'⟩
    split
    · rename_i expansion hlookup
      obtain ⟨front, back, hhandles, -⟩ := List.lookup_eq_some_iff.1 hlookup
      rw [← htokens] at hprecede
      refine .pure hb₁ (hprecede ?_)
      rintro _ ⟨⟩
      exact ⟨_, rfl, .shorthand _ (hb'.handles (_, expansion) (by simp [hhandles]))⟩
    · exact .throw (.inl rfl)

theorem goes_properties (hb : b.Follows scan) :
    Goes scan b properties (Precede scan b.scan.tokens) := by
  unfold properties
  refine (goes_anchor hb).bind fun first b₁ hb₁ hfirst => ?_
  refine (goes_tag hb₁).bind fun name b₂ hb₂ hname => ?_
  simp only
  split
  · refine (goes_anchor hb₂).bind fun second b₃ hb₃ hsecond => ?_
    exact goes_resolve (precede_of_takes hb.tokens hfirst hname hsecond) hb₃
  · have hsecond : Takes .anchor b₂.scan.tokens none b₂.scan.tokens := rfl
    exact goes_resolve (precede_of_takes hb.tokens hfirst hname hsecond) hb₂

theorem isFrom_collection {tag : Tag} {content : Content} (h : ∀ text, content ≠ .scalar text)
    (ts : List Token) : Node.IsFrom ts ⟨tag, content⟩ :=
  fun text htext => absurd htext (h text)

/-- What is written without a tag is told by its form, or is a text. -/
theorem isFrom_scalar {text : List Char} {plain : Bool} {tag : Option (List Char)}
    {ts : List Token} (htext : text = [] ∧ plain = true ∨ .scalar text plain ∈ scan.tokens)
    (hleading : text = leadingText ts) (htag : IsTagged scan tag ts) :
    Node.IsFrom scan.tokens ⟨scalarTag text plain tag, .scalar text⟩ := by
  rintro _ ⟨⟩
  cases tag with
  | some whole =>
    obtain ⟨name, hresolves, htags⟩ := htag whole rfl
    exact .inr (.inr ⟨name, whole, ts, hresolves, htags, hleading, rfl⟩)
  | none =>
    cases plain with
    | false => exact .inl rfl
    | true =>
      refine .inr (.inl ⟨rfl, ?_⟩)
      rcases htext with ⟨rfl, -⟩ | hmem
      · exact .inl rfl
      · exact .inr hmem

end Builder

end ClusterPilot.Yaml
