/-
The rounds of the scanner on block mappings whose keys are bare words and whose values stand on the
lines of their keys. A key takes two rounds, one for the word and one for its colon; the second
puts the token of the key in front of the word, and that of a mapping where the key is the first at
its column. A value takes one round. What is found at a line further left closes the mappings that
are open right of it.
-/
import ClusterPilot.Proofs.Yaml.Quoted
import ClusterPilot.Proofs.Yaml.Word

namespace ClusterPilot.Yaml

open Cursor (endsWith)

namespace Scanner

/-! ## Runs -/

/-- Some rounds lead from one scanner to another, at least one character to a round. -/
def Reaches (s s' : Scanner) : Prop :=
  ∃ n, n + s'.cursor.rest.length ≤ s.cursor.rest.length ∧
    ∀ fuel, s.run (n + (fuel + 1)) = s'.run (fuel + 1)

theorem Reaches.refl (s : Scanner) : Reaches s s := ⟨0, by omega, fun fuel => by rw [Nat.zero_add]⟩

theorem Reaches.trans {s s' s'' : Scanner} (h : Reaches s s') (h' : Reaches s' s'') :
    Reaches s s'' := by
  obtain ⟨n, hn, hrun⟩ := h
  obtain ⟨m, hm, hrun'⟩ := h'
  refine ⟨n + m, by omega, fun fuel => ?_⟩
  rw [Nat.add_assoc, ← Nat.add_assoc m, hrun, Nat.add_assoc, hrun']

theorem run_of_round {s s' : Scanner} (h : s.round = .ok (s', true)) (fuel : Nat) :
    s.run (fuel + 1) = s'.run fuel := by
  rw [run, h]

theorem Reaches.round {s s' : Scanner} (h : s.round = .ok (s', true))
    (shorter : s'.cursor.rest.length < s.cursor.rest.length) : Reaches s s' := by
  refine ⟨1, by omega, fun fuel => ?_⟩
  rw [Nat.add_comm 1, run_of_round h]

/-- The next round depends on the place after the blanks, not on the one before them. -/
theorem run_eq_of_skipBlank {s s' : Scanner}
    (h : s.skipBlank (s.cursor.rest.length + 1) = s'.skipBlank (s'.cursor.rest.length + 1))
    (found : s.found = s'.found) (settled : s.settled = s'.settled)
    (beyond : s.cursor.beyond = s'.cursor.beyond) (fuel : Nat) : s.run fuel = s'.run fuel := by
  have hround : s.round = s'.round := by
    unfold Scanner.round
    rw [h]
  cases fuel with
  | zero => simp [run, found, beyond]
  | succ fuel => rw [run, run, hround, found, settled]

/-! ## Between tokens -/

/-- A scanner in the middle of a line, where no key may start. -/
def resting (c : Cursor) (found : List Token) (count : Nat) (indent : Int) (outer : List Int) :
    Scanner :=
  ⟨c, found, count, indent, outer, false, none, []⟩

/-- A scanner at the first token of a line, where a key may start. -/
def ready (c : Cursor) (found : List Token) (count : Nat) (indent : Int) (outer : List Int) :
    Scanner :=
  ⟨c, found, count, indent, outer, true, none, []⟩

variable {c : Cursor} {found found' : List Token} {count count' : Nat} {indent indent' : Int}
  {outer outer' : List Int}

theorem saveKey_resting : (resting c found count indent outer).saveKey =
    .ok (resting c found count indent outer) := rfl

/-- Blanks on the line are left behind. -/
theorem skipBlank_blanks (s : Scanner) {n : Nat} {next : List Char} (fuel : Nat)
    (h : s.cursor.rest = List.replicate n ' ' ++ next)
    (hnext : ∀ x, next.head? = some x → isBreak x = false ∧ x ≠ ' ' ∧ x ≠ '#') :
    s.skipBlank (fuel + 1) = { s with cursor := s.cursor.along n next } := by
  have hblank : IsInline ' ' := by decide
  have hskip : s.cursor.skip (· = ' ') = s.cursor.along n next := by
    have := Cursor.skip_inline (p := (· = ' ')) h
      (fun x hx => (List.mem_replicate.1 hx).2 ▸ hblank)
      (fun x hx => by simpa using (List.mem_replicate.1 hx).2)
      (fun x hx => by simpa using (hnext x hx).2.1)
    rwa [List.length_replicate] at this
  have hhash : next.head? ≠ some '#' := fun heq => (hnext '#' heq).2.2 rfl
  have hbreak : next.head?.any isBreak = false := by
    cases hx : next.head? with
    | none => rfl
    | some x => exact (hnext x hx).1
  rw [skipBlank]
  simp only [hskip, Cursor.peek?, Cursor.along_rest, if_neg hhash, hbreak]
  simp

/-- A new line is left behind up to its first token, where a key may start. -/
theorem skipBlank_newline {n : Nat} {next : List Char} (hnext : StartsKey next)
    (h : c.rest = '\n' :: (List.replicate n ' ' ++ next)) :
    (resting c found count indent outer).skipBlank (c.rest.length + 1) =
      ready ⟨next, c.beyond, c.index + 1 + n, c.line + 1, n⟩ found count indent outer := by
  have hskip : c.skip (· = ' ') = c := by
    refine Cursor.skip_of_head? fun x hx => ?_
    rw [h] at hx
    cases hx
    rfl
  have hpeek : c.peek? = some '\n' := by
    rw [Cursor.peek?, h]
    rfl
  obtain ⟨fuel, hfuel⟩ : ∃ k, c.rest.length = k + 1 := by
    rw [h]
    exact ⟨_, rfl⟩
  have hmore := skipBlank_blanks
    (ready ⟨List.replicate n ' ' ++ next, c.beyond, c.index + 1, c.line + 1, 0⟩ found count indent
      outer) fuel rfl hnext.next
  rw [hfuel, skipBlank]
  simpa [resting, ready, hskip, hpeek, Cursor.lineBreak_newline h, Cursor.along, isBreak, inFlow]
    using hmore

/-- A round takes the token that starts with the next character. -/
theorem round_token {s s1 s2 s3 : Scanner} {x : Char}
    (hskip : s.skipBlank (s.cursor.rest.length + 1) = s1) (hsound : s1.cursor.beyond = none)
    (hdrop : s1.dropStaleKeys = .ok s1) (hunwind : s1.unwind s1.cursor.column = s2)
    (hpeek : s2.cursor.peek? = some x) (htoken : s2.token x = .ok s3)
    (hafter : s3.cursor.beyond = none) (hlast : s3.dropStaleKeys = .ok s3) :
    s.round = .ok (s3, true) := by
  have hbefore : s2.cursor.beyond = none := by
    rw [← hunwind, unwind_cursor]
    exact hsound
  unfold Scanner.round
  simp only [hskip, Cursor.reach_ok hsound, hdrop, bind, Except.bind, hunwind, hpeek,
    Cursor.reach_ok hbefore, htoken, Cursor.reach_ok hafter, hlast]
  rfl

/-- A round at the end of the text closes what is open. -/
theorem round_end {s s1 s2 s3 : Scanner}
    (hskip : s.skipBlank (s.cursor.rest.length + 1) = s1) (hsound : s1.cursor.beyond = none)
    (hdrop : s1.dropStaleKeys = .ok s1) (hunwind : s1.unwind s1.cursor.column = s2)
    (hpeek : s2.cursor.peek? = none) (hkeys : (s2.unwind (-1)).dropKey = .ok s3) :
    s.round = .ok (s3, false) := by
  unfold Scanner.round
  simp only [hskip, Cursor.reach_ok hsound, hdrop, bind, Except.bind, hunwind, hpeek, hkeys]
  rfl

/-! ## Columns -/

/-- No block collection is closed at its own column or right of it. -/
theorem closeFrom_of_le {column : Int} (h : indent ≤ column) :
    closeFrom column found count indent outer = (found, count, indent, outer) := by
  cases outer with
  | nil => rfl
  | cons i outer =>
    rw [closeFrom, if_neg (by omega)]

/-- What is closed at a column need not be closed again left of it. -/
theorem closeFrom_closeFrom {column column' : Int} (h : column' ≤ column) :
    let closed := closeFrom column found count indent outer
    closeFrom column' closed.1 closed.2.1 closed.2.2.1 closed.2.2.2 =
      closeFrom column' found count indent outer := by
  induction outer generalizing found count indent with
  | nil => rfl
  | cons i outer ih =>
    by_cases hclose : column < indent
    · have hclose' : column' < indent := by omega
      simp only [closeFrom, if_pos hclose, if_pos hclose']
      exact ih
    · simp only [closeFrom, if_neg hclose]

theorem unwind_eq {s : Scanner} {column : Int} (block : s.flowKeys = [])
    (h : closeFrom column s.found s.count s.indent s.outer = (found', count', indent', outer')) :
    s.unwind column =
      { s with found := found', count := count', indent := indent', outer := outer' } := by
  unfold unwind inFlow
  rw [block, h]
  rfl

/-! ## Words -/

/-- A character of words starts a plain scalar, unless it is the sign of an entry or starts a mark
between documents. -/
theorem token_word {s : Scanner} {x : Char} (hx : isWordChar x = true)
    (mark : s.cursor.column = 0 → s.cursor.atDocumentMark = false)
    (sign : x = '-' → s.cursor.blankAt 1 = false) : s.token x = s.plainScalar := by
  have hne : ∀ y, isWordChar y = false → x ≠ y := fun y hy => ne_of_isWordChar hx hy
  have hbreak := (isPrintable_of_isWordChar hx).isInline.1
  have hstarts : s.startsPlain x = true := by
    unfold startsPlain
    by_cases hdash : x = '-'
    · simp [hdash, sign hdash]
    · have hlist : (" \t-?:,[]{}#&*!|>'\"%@\x60".toList.all fun y => !isWordChar y || y = '-') =
          true := by decide
      have hmem : x ∉ " \t-?:,[]{}#&*!|>'\"%@\x60".toList := by
        intro h
        have hy := List.all_eq_true.1 hlist x h
        simp [hx, hdash] at hy
      simp only [List.contains_eq_mem, hmem, hbreak]
      rfl
  have hmark : ¬(s.cursor.column = 0 ∧ s.cursor.atDocumentMark = true) := by
    rintro ⟨hcolumn, hatMark⟩
    rw [mark hcolumn] at hatMark
    cases hatMark
  have hsign : ¬(x = '-' ∧ s.cursor.blankAt 1 = true) := by
    rintro ⟨hdash, hblank⟩
    rw [sign hdash] at hblank
    cases hblank
  unfold token
  simp only [hmark, hsign, hstarts, hne '[' (by decide), hne ']' (by decide), hne '{' (by decide),
    hne '}' (by decide), hne ',' (by decide), hne '?' (by decide), hne ':' (by decide),
    hne '*' (by decide), hne '&' (by decide), hne '!' (by decide), hne '|' (by decide),
    hne '>' (by decide), hne '\'' (by decide), hne '"' (by decide), hne '%' (by decide)]
  simp

theorem plainScalar_of_saveKey {s s' : Scanner} {w : List Char} {ended : Bool} {after : Cursor}
    (hsave : s.saveKey = .ok s')
    (hplain : plain s'.inFlow (s'.indent + 1) (s'.cursor.rest.length + 1) [] false s'.cursor =
      .ok ((w, ended), after)) :
    s.plainScalar = .ok { s'.emit (.scalar w true) with cursor := after, keyAllowed := ended } := by
  unfold plainScalar
  rw [hsave]
  simp only [bind, Except.bind, hplain]
  rfl

/-- The scanner after the word of a key, which knows that a key may have started there. -/
def keyed (c : Cursor) (key more : List Char) (found : List Token) (count : Nat) (indent : Int)
    (outer : List Int) : Scanner :=
  { resting (c.along key.length more) (.scalar key true :: found) (count + 1) indent outer with
    blockKey := some ⟨count, indent == c.column, c.index, c.line, c.column⟩ }

/-- The key may still have started there, being short enough. -/
theorem dropStaleKeys_keyed {key : List Char} (short : key.length ≤ maxKeyLength)
    (more : List Char) :
    (keyed c key more found count indent outer).dropStaleKeys =
      .ok (keyed c key more found count indent outer) := by
  have hshort : ¬maxKeyLength < key.length := by omega
  simp [dropStaleKeys, isStale, keyed, resting, hshort]

/-- The word of a key. -/
theorem round_key {s : Scanner} {key more : List Char} (hsound : c.beyond = none)
    (hskip : s.skipBlank (s.cursor.rest.length + 1) = ready c found count indent outer)
    (hclose : closeFrom c.column found count indent outer = (found', count', indent', outer'))
    (hkey : IsKey key) (hc : c.rest = key ++ ':' :: more)
    (hmore : endsWith [' ', '\t'] more.head? = true) :
    s.round = .ok (keyed c key (':' :: more) found' count' indent' outer', true) := by
  obtain ⟨x, xs, hxs⟩ := List.exists_cons_of_ne_nil hkey.nonempty
  have hx : isKeyChar x = true := hkey.chars x (hxs ▸ List.mem_cons_self)
  have hpeek : c.peek? = some x := by
    rw [Cursor.peek?, hc, hxs]
    rfl
  have hunwind : (ready c found count indent outer).unwind c.column =
      ready c found' count' indent' outer' := unwind_eq rfl hclose
  have htoken : (ready c found' count' indent' outer').token x =
      (ready c found' count' indent' outer').plainScalar := by
    refine token_word (isWordChar_of_isKeyChar hx) (fun _ => ?_) ?_
    · have hnext : StartsKey c.rest := by
        intro y hy
        rw [hc, hxs] at hy
        cases hy
        exact hx
      exact atDocumentMark_indentation (n := 0) hnext rfl
    · rintro rfl
      exact absurd hx (by decide)
  have hplain : (ready c found' count' indent' outer').plainScalar =
      .ok (keyed c key (':' :: more) found' count' indent' outer') := by
    have hsave : (ready c found' count' indent' outer').saveKey =
        .ok { ready c found' count' indent' outer' with
          blockKey := some ⟨count', indent' == c.column, c.index, c.line, c.column⟩ } := rfl
    exact plainScalar_of_saveKey hsave
      (plain_word _ hkey.isWord hc hsound (.inr ⟨more, rfl, hmore⟩))
  exact round_token hskip hsound rfl hunwind hpeek (htoken.trans hplain) hsound
    (dropStaleKeys_keyed hkey.short _)

/-- The scanner after the colon of a key. The token of the key stands in front of its word, and the
one of a mapping in front of that when the mapping is a new one. -/
def opened (c : Cursor) (key more : List Char) (found : List Token) (count : Nat) (indent : Int)
    (outer : List Int) : Scanner :=
  if indent < c.column then
    resting (c.along (key.length + 1) more)
      (.value :: .scalar key true :: .key :: .blockMappingStart :: found) (count + 4) c.column
      (indent :: outer)
  else
    resting (c.along (key.length + 1) more) (.value :: .scalar key true :: .key :: found)
      (count + 3) indent outer

theorem colon_keyed (key more : List Char) :
    (keyed c key (':' :: more) found count indent outer).colon =
      .ok (opened c key more found count indent outer) := by
  have hadvance : (c.along key.length (':' :: more)).advance = c.along (key.length + 1) more := by
    rw [Cursor.advance_inline rfl (by decide), Cursor.along_along]
  -- the tokens after the place of the key: its word, and then the key as well
  have hone : count + 1 - count = 1 := by omega
  have htwo : count + 1 + 1 - count = 2 := by omega
  unfold colon opened
  by_cases h : indent < c.column
  · simp [key?, keyed, resting, setKey, emitAt, inFlow, openAt, emitSign, emit, h, hadvance, hone,
      htwo, pure, Except.pure]
  · simp [key?, keyed, resting, setKey, emitAt, inFlow, openAt, emitSign, emit, h, hadvance, hone,
      pure, Except.pure]

theorem token_colon {s : Scanner} {more : List Char} (h : s.cursor.rest = ':' :: more)
    (hmore : endsWith [' ', '\t'] more.head? = true) : s.token ':' = s.colon := by
  have hmark : s.cursor.atDocumentMark = false := by
    unfold Cursor.atDocumentMark Cursor.marks
    rw [h]
    simp
  have hblank : s.cursor.blankAt 1 = true := by
    unfold Cursor.blankAt Cursor.peekAt?
    rw [h, List.getElem?_cons_succ, ← List.head?_eq_getElem?]
    exact hmore
  unfold token
  simp [hmark, hblank]

/-- The colon of a key that is on its line and short enough. -/
theorem round_colon {key more : List Char} (hsound : c.beyond = none)
    (hmore : endsWith [' ', '\t'] more.head? = true) (short : key.length ≤ maxKeyLength)
    (hindent : indent ≤ c.column) :
    (keyed c key (':' :: more) found count indent outer).round =
      .ok (opened c key more found count indent outer, true) := by
  generalize hs : keyed c key (':' :: more) found count indent outer = s
  have hrest : s.cursor.rest = ':' :: more := by rw [← hs]; rfl
  have hskip : s.skipBlank (s.cursor.rest.length + 1) = s := by
    have := skipBlank_blanks s (n := 0) s.cursor.rest.length hrest
      (fun x hx => by cases hx; decide)
    rw [this, Cursor.along_zero hrest]
  have hdrop : s.dropStaleKeys = .ok s := hs ▸ dropStaleKeys_keyed short _
  have hunwind : s.unwind s.cursor.column = s := by
    have hle : indent ≤ (s.cursor.column : Int) := by
      rw [← hs]
      show indent ≤ ((c.column + key.length : Nat) : Int)
      omega
    rw [← hs] at hle ⊢
    exact unwind_eq rfl (closeFrom_of_le hle)
  have hafter : (opened c key more found count indent outer).cursor.beyond = none := by
    unfold opened
    split <;> exact hsound
  have hlast : (opened c key more found count indent outer).dropStaleKeys =
      .ok (opened c key more found count indent outer) := by
    unfold opened
    split <;> rfl
  refine round_token hskip (hs ▸ hsound) hdrop hunwind (by rw [Cursor.peek?, hrest]; rfl) ?_
    hafter hlast
  rw [token_colon hrest hmore, ← hs, colon_keyed]

/-- A key and its colon. -/
theorem reaches_key {s : Scanner} {key more : List Char} (hsound : c.beyond = none)
    (hskip : s.skipBlank (s.cursor.rest.length + 1) = ready c found count indent outer)
    (shorter : c.rest.length ≤ s.cursor.rest.length)
    (hclose : closeFrom c.column found count indent outer = (found', count', indent', outer'))
    (hindent : indent' ≤ c.column) (hkey : IsKey key) (hc : c.rest = key ++ ':' :: more)
    (hmore : endsWith [' ', '\t'] more.head? = true) :
    Reaches s (opened c key more found' count' indent' outer') := by
  have hlength : c.rest.length = key.length + (more.length + 1) := by rw [hc]; simp
  have hpos := List.length_pos_iff.2 hkey.nonempty
  have hword : Reaches s (keyed c key (':' :: more) found' count' indent' outer') := by
    refine .round (round_key hsound hskip hclose hkey hc hmore) ?_
    show more.length + 1 < _
    omega
  refine hword.trans (.round (round_colon hsound hmore hkey.short hindent) ?_)
  have hrest : (opened c key more found' count' indent' outer').cursor.rest = more := by
    unfold opened
    split <;> rfl
  rw [hrest]
  exact Nat.lt_succ_self more.length

/-! ## Values -/

/-- A scalar as it stands on the line of its key. -/
inductive Spelled : (content : List Char) → (plain : Bool) → List Char → Prop
  | word {w} (h : IsWord w) : Spelled w true w
  | quoted {s cs} (h : TextSpelled s cs) : Spelled s false ('"' :: cs ++ ['"'])

/-- What stands after the scalars of a collection on their lines: nothing, or a line that is not
indented further than the collection. -/
def EndsLine (indent : Int) (tail : List Char) : Prop :=
  tail = [] ∨ ∃ n next, tail = '\n' :: (List.replicate n ' ' ++ next) ∧ StartsKey next ∧
    (n : Int) ≤ indent

/-- The token after blanks on a line on which no key may start. -/
theorem round_resting {s : Scanner} {gap : Nat} {x : Char} {next : List Char}
    (hsound : c.beyond = none) (hc : c.rest = List.replicate gap ' ' ++ next)
    (hpeek : next.head? = some x) (hx : isBreak x = false ∧ x ≠ ' ' ∧ x ≠ '#')
    (hindent : indent ≤ c.column)
    (htoken : (resting (c.along gap next) found count indent outer).token x = .ok s)
    (hafter : s.cursor.beyond = none) (hlast : s.dropStaleKeys = .ok s) :
    (resting c found count indent outer).round = .ok (s, true) := by
  have hskip : (resting c found count indent outer).skipBlank (c.rest.length + 1) =
      resting (c.along gap next) found count indent outer := by
    refine skipBlank_blanks _ _ hc fun y hy => ?_
    rw [hpeek] at hy
    cases hy
    exact hx
  have hle : indent ≤ ((c.along gap next).column : Int) := by
    rw [Cursor.along_column]
    omega
  exact round_token hskip hsound rfl (unwind_eq rfl (closeFrom_of_le hle)) hpeek htoken hafter hlast

theorem token_quoted {s : Scanner} {rest : List Char} (h : s.cursor.rest = '"' :: rest) :
    s.token '"' = s.keyPart fun c => (quoted true c).map fun r => (.scalar r.1 false, r.2) := by
  have hmark : s.cursor.atDocumentMark = false := by
    unfold Cursor.atDocumentMark Cursor.marks
    rw [h]
    simp
  unfold token
  simp [hmark]

/-- A quoted value. -/
theorem round_quoted {s cs tail : List Char} {gap : Nat} (h : TextSpelled s cs)
    (hsound : c.beyond = none) (hc : c.rest = List.replicate gap ' ' ++ ('"' :: cs ++ '"' :: tail))
    (hindent : indent ≤ c.column) :
    (resting c found count indent outer).round =
      .ok (resting (c.along (gap + (cs.length + 2)) tail) (.scalar s false :: found) (count + 1)
        indent outer, true) := by
  refine round_resting hsound hc rfl (by decide) hindent ?_ hsound rfl
  have hread := quoted_spelled h (c := c.along gap ('"' :: cs ++ '"' :: tail)) rfl hsound
  rw [Cursor.along_along] at hread
  rw [token_quoted rfl]
  unfold keyPart
  rw [saveKey_resting]
  simp only [bind, Except.bind]
  rw [show (resting (c.along gap ('"' :: cs ++ '"' :: tail)) found count indent outer).cursor =
    c.along gap ('"' :: cs ++ '"' :: tail) from rfl, hread]
  rfl

/-- A word as a value. The line end after it may have been read with it. -/
theorem round_word {w tail : List Char} {gap : Nat} {ended : Bool} {after : Cursor} (h : IsWord w)
    (hsound : c.beyond = none) (hc : c.rest = List.replicate gap ' ' ++ (w ++ tail))
    (hcolumn : 0 < c.column) (hindent : indent ≤ c.column)
    (hplain : plain false (indent + 1) ((w ++ tail).length + 1) [] false (c.along gap (w ++ tail)) =
      .ok ((w, ended), after)) (hafter : after.beyond = none) :
    (resting c found count indent outer).round =
      .ok ({ resting after (.scalar w true :: found) (count + 1) indent outer with
        keyAllowed := ended }, true) := by
  obtain ⟨x, xs, rfl⟩ := List.exists_cons_of_ne_nil h.nonempty
  have hx : isWordChar x = true := h.chars x List.mem_cons_self
  refine round_resting hsound hc rfl ⟨(isPrintable_of_isWordChar hx).isInline.1,
    ne_of_isWordChar hx (by decide), ne_of_isWordChar hx (by decide)⟩ hindent ?_ hafter rfl
  refine (token_word hx (fun hzero => ?_) fun hdash => ?_).trans
    (plainScalar_of_saveKey saveKey_resting hplain)
  · have hpos : c.column + gap = 0 := hzero
    omega
  · subst hdash
    obtain ⟨y, ys, rfl⟩ := List.exists_cons_of_ne_nil fun hxs => h.sign (hxs ▸ rfl)
    have hy := h.chars y (List.mem_cons_of_mem _ List.mem_cons_self)
    have hmore : isBreak y = false ∧ y ≠ ' ' ∧ y ≠ '\t' :=
      ⟨(isPrintable_of_isWordChar hy).isInline.1, ne_of_isWordChar hy (by decide),
        ne_of_isWordChar hy (by decide)⟩
    simp [Cursor.blankAt, Cursor.peekAt?, resting, endsWith, hmore]

/-- Whether the line end was read with a word makes no difference for what follows. -/
theorem run_word {w tail : List Char} {gap : Nat} (h : IsWord w) (hsound : c.beyond = none)
    (hc : c.rest = List.replicate gap ' ' ++ (w ++ tail)) (hcolumn : 0 < c.column)
    (hindent : indent ≤ c.column) (htail : EndsLine indent tail) (fuel : Nat) :
    (resting c found count indent outer).run (fuel + 2) =
      (resting (c.along (gap + w.length) tail) (.scalar w true :: found) (count + 1) indent
        outer).run (fuel + 1) := by
  rcases htail with rfl | ⟨n, next, rfl, hkey, hn⟩
  · have hplain : plain false (indent + 1) ((w ++ []).length + 1) [] false
        (c.along gap (w ++ [])) = _ := plain_word _ h rfl hsound (.inl rfl)
    rw [run_of_round (round_word h hsound hc hcolumn hindent hplain hsound), ← Cursor.along_along]
    rfl
  · have hplain : plain false (indent + 1)
        ((w ++ '\n' :: (List.replicate n ' ' ++ next)).length + 1) [] false
        (c.along gap (w ++ '\n' :: (List.replicate n ' ' ++ next))) = _ :=
      plain_line _ h hkey rfl hsound (by omega)
    refine (run_of_round (round_word h hsound hc hcolumn hindent hplain rfl) _).trans ?_
    apply run_eq_of_skipBlank
    · refine Eq.trans ?_ (skipBlank_newline hkey rfl).symm
      refine (skipBlank_blanks _ (n := 0) _ rfl hkey.next).trans ?_
      simp [resting, ready, Cursor.along, Nat.add_assoc, hsound]
    · rfl
    · rfl
    · exact hsound.symm

/-- A value on the line of its key. -/
theorem reaches_value {content cs tail : List Char} {plain : Bool} {gap : Nat}
    (h : Spelled content plain cs) (hsound : c.beyond = none)
    (hc : c.rest = List.replicate gap ' ' ++ (cs ++ tail)) (hcolumn : 0 < c.column)
    (hindent : indent ≤ c.column) (htail : EndsLine indent tail) :
    Reaches (resting c found count indent outer)
      (resting (c.along (gap + cs.length) tail) (.scalar content plain :: found) (count + 1) indent
        outer) := by
  have hlength : c.rest.length = gap + (cs.length + tail.length) := by rw [hc]; simp
  cases h with
  | word h =>
    have hpos := List.length_pos_iff.2 h.nonempty
    refine ⟨1, ?_, fun fuel => ?_⟩
    · show 1 + tail.length ≤ c.rest.length
      omega
    · rw [Nat.add_comm 1]
      exact run_word h hsound hc hcolumn hindent htail fuel
  | quoted h =>
    rename_i ds
    have hquoted : '"' :: ds ++ ['"'] ++ tail = '"' :: ds ++ '"' :: tail := by simp
    rw [hquoted] at hc
    have hcount : ('"' :: ds ++ ['"']).length = ds.length + 2 := by simp
    rw [hcount] at hlength ⊢
    refine .round (round_quoted h hsound hc hindent) ?_
    show tail.length < c.rest.length
    omega

/-- At the end of the text all collections are closed. -/
theorem run_end (hsound : c.beyond = none) (htail : c.rest = [] ∨ c.rest = ['\n']) (fuel : Nat) :
    (resting c found count indent outer).run (fuel + 1) =
      ⟨(closeFrom (-1) found count indent outer).1.reverse, none⟩ := by
  obtain ⟨after, allowed, hafter, hsound', hskip⟩ : ∃ (after : Cursor) (allowed : Bool),
      after.rest = [] ∧ after.beyond = none ∧
        (resting c found count indent outer).skipBlank (c.rest.length + 1) =
          { resting after found count indent outer with keyAllowed := allowed } := by
    rcases htail with h | h
    · exact ⟨c.along 0 [], false, rfl, hsound, skipBlank_blanks _ (n := 0) _ h nofun⟩
    · have hnothing : StartsKey [] := nofun
      exact ⟨⟨[], c.beyond, _, _, 0⟩, true, rfl, hsound, skipBlank_newline (n := 0) hnothing h⟩
  -- what the round closes at its column is closed at the end as well
  generalize hclosed : closeFrom after.column found count indent outer = closed
  obtain ⟨found', count', indent', outer'⟩ := closed
  have hall : closeFrom (-1) found' count' indent' outer' =
      closeFrom (-1) found count indent outer := by
    have := @closeFrom_closeFrom found count indent outer after.column (-1) (by omega)
    rwa [hclosed] at this
  rw [← hall]
  have hpeek : after.peek? = none := by
    rw [Cursor.peek?, hafter]
    rfl
  rw [run, round_end hskip hsound' rfl (unwind_eq rfl hclosed) hpeek rfl]
  rfl

end Scanner

end ClusterPilot.Yaml
