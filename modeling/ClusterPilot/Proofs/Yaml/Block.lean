/-
The tokens of block mappings. An entry is a key and what stands after its colon: a scalar on the
same line, or the entries of another mapping on lines that are indented further. What is read there
is told up to the collections that are still open, since a mapping is closed only by the next line
left of it or by the end of the text.
-/
import ClusterPilot.Config.Data
import ClusterPilot.Proofs.Yaml.Rounds

namespace ClusterPilot.Yaml

open Cursor (endsWith)
open Scanner (Reaches Spelled EndsLine resting ready closeFrom)

/-! ## Parts of a text -/

/-- An entry of a mapping: its key, what stands after the colon, and the tokens and the data of
that. -/
structure Entry where
  key : List Char
  body : List Char
  bodyTokens : List Token
  bodyData : Except Error Data

namespace Entry

/-- How an entry is written. -/
def text (e : Entry) : List Char := e.key ++ ':' :: e.body

def tokens (e : Entry) : List Token :=
  [.key, .scalar e.key true, .value] ++ e.bodyTokens

/-- Entries on further lines. -/
def below (column : Nat) (es : List Entry) : List Char :=
  es.flatMap fun e => '\n' :: (List.replicate column ' ' ++ e.text)

/-- The tokens of a mapping. -/
def mapping (es : List Entry) : List Token :=
  .blockMappingStart :: es.flatMap tokens ++ [.blockEnd]

end Entry

/-- The scanner comes to the place before `tail` with `found` in hand, once what is right of a
column is closed. -/
def Settles (s : Scanner) (column : Nat) (outer : List Int) (tail : List Char)
    (found : List Token) : Prop :=
  ∃ (c : Cursor) (f : List Token) (n : Nat) (i : Int) (o : List Int) (count : Nat),
    c.rest = tail ∧ c.beyond = none ∧ Reaches s (resting c f n i o) ∧
      closeFrom column f n i o = (found, count, (column : Int), outer)

/-- What stands after a colon has certain tokens in a mapping at a column. -/
def Reads (column : Nat) (outer : List Int) (body : List Char) (tokens : List Token) : Prop :=
  ∀ ⦃c : Cursor⦄ ⦃found : List Token⦄ ⦃count : Nat⦄ ⦃tail : List Char⦄, c.beyond = none →
    c.rest = body ++ tail → column < c.column → EndsLine column tail →
    Settles (resting c found count column outer) column outer tail (tokens.reverse ++ found)

/-- An entry that may stand in a mapping at a column. -/
structure Entry.Fits (column : Nat) (outer : List Int) (e : Entry) : Prop where
  isKey : IsKey e.key
  starts : e.body.head? = some ' ' ∨ e.body.head? = some '\n'
  reads : Reads column outer e.body e.bodyTokens

theorem Settles.of_reaches {s s' : Scanner} {column : Nat} {outer : List Int} {tail : List Char}
    {found : List Token} (h : Reaches s s') (h' : Settles s' column outer tail found) :
    Settles s column outer tail found := by
  obtain ⟨c, f, n, i, o, count, hrest, hsound, hreach, hclose⟩ := h'
  exact ⟨c, f, n, i, o, count, hrest, hsound, h.trans hreach, hclose⟩

section

variable {column : Nat} {outer : List Int}

theorem Entry.Fits.endsWith {e : Entry} (h : e.Fits column outer) (tail : List Char) :
    endsWith [' ', '\t'] (e.body ++ tail).head? = true := by
  have hstarts := h.starts
  cases hbody : e.body with
  | nil => simp [hbody] at hstarts
  | cons x body =>
    rw [hbody] at hstarts
    rcases hstarts with hx | hx
    · cases hx
      rfl
    · cases hx
      rfl

theorem startsKey_text {e : Entry} (h : IsKey e.key) (tail : List Char) :
    StartsKey (e.text ++ tail) := by
  obtain ⟨x, xs, hxs⟩ := List.exists_cons_of_ne_nil h.nonempty
  intro y hy
  have hx : x = y := by simpa [Entry.text, hxs] using hy
  exact hx ▸ h.chars x (hxs ▸ List.mem_cons_self)

theorem Scanner.EndsLine.mono {indent indent' : Int} {tail : List Char} (h : EndsLine indent tail)
    (hle : indent ≤ indent') : EndsLine indent' tail := by
  rcases h with rfl | ⟨n, next, rfl, hnext, hn⟩
  · exact .inl rfl
  · exact .inr ⟨n, next, rfl, hnext, by omega⟩

theorem endsLine_below {es : List Entry} {tail : List Char} (h : ∀ e ∈ es, IsKey e.key)
    (htail : EndsLine column tail) : EndsLine column (Entry.below column es ++ tail) := by
  cases es with
  | nil => exact htail
  | cons e es =>
    refine .inr ⟨column, e.text ++ (Entry.below column es ++ tail), ?_,
      startsKey_text (h e List.mem_cons_self) _, Int.le_refl _⟩
    simp [Entry.below]

/-! ## Values -/

/-- A scalar on the line of its key. -/
theorem reads_scalar {content cs : List Char} {plain : Bool} {gap : Nat}
    (h : Spelled content plain cs) :
    Reads column outer (List.replicate gap ' ' ++ cs) [.scalar content plain] := by
  intro c found count tail hsound hc hcolumn htail
  rw [List.append_assoc] at hc
  exact ⟨c.along (gap + cs.length) tail, _, _, _, _, _, rfl, hsound,
    Scanner.reaches_value h hsound hc (by omega) (by omega) htail,
    Scanner.closeFrom_of_le (Int.le_refl _)⟩

/-! ## Entries -/

/-- An entry. Its key opens the mapping, unless one is open at its column. -/
theorem settles_entry {s : Scanner} {c : Cursor} {e : Entry} {tail : List Char}
    {f found front : List Token} {n count : Nat} {i indent : Int} {o around : List Int}
    (h : e.Fits column outer) (htail : EndsLine column tail)
    (hskip : s.skipBlank (s.cursor.rest.length + 1) = ready c f n i o)
    (shorter : c.rest.length ≤ s.cursor.rest.length) (hc : c.rest = e.text ++ tail)
    (hsound : c.beyond = none) (hcolumn : c.column = column)
    (hclose : closeFrom column f n i o = (found, count, indent, around))
    (hopen : indent < column ∧ front = .blockMappingStart :: found ∧ outer = indent :: around ∨
      indent = column ∧ front = found ∧ outer = around) :
    Settles s column outer tail (e.tokens.reverse ++ front) := by
  subst hcolumn
  have hrest : c.rest = e.key ++ ':' :: (e.body ++ tail) := by simpa [Entry.text] using hc
  have hle : indent ≤ c.column := by
    rcases hopen with ⟨hlt, -, -⟩ | ⟨heq, -, -⟩ <;> omega
  have hkey := Scanner.reaches_key hsound hskip shorter hclose hle h.isKey hrest (h.endsWith tail)
  have hopened : ∃ m, Scanner.opened c e.key (e.body ++ tail) found count indent around =
      resting (c.along (e.key.length + 1) (e.body ++ tail))
        (.value :: .scalar e.key true :: .key :: front) m c.column outer := by
    unfold Scanner.opened
    rcases hopen with ⟨hlt, rfl, rfl⟩ | ⟨rfl, rfl, rfl⟩
    · exact ⟨_, if_pos hlt⟩
    · exact ⟨_, if_neg (Int.lt_irrefl _)⟩
  obtain ⟨m, hm⟩ := hopened
  rw [hm] at hkey
  have hright : c.column < c.column + (e.key.length + 1) := by omega
  have hsound' : (c.along (e.key.length + 1) (e.body ++ tail)).beyond = none := hsound
  have hbody := Settles.of_reaches hkey (h.reads hsound' rfl hright htail)
  simpa [Entry.tokens] using hbody

/-- Entries on further lines, where what is right of their column may still be open. -/
theorem settles_below {es : List Entry} (h : ∀ e ∈ es, e.Fits column outer) {tail : List Char}
    (htail : EndsLine column tail) {s : Scanner} {found : List Token}
    (hs : Settles s column outer (Entry.below column es ++ tail) found) :
    Settles s column outer tail ((es.flatMap Entry.tokens).reverse ++ found) := by
  induction es generalizing s found with
  | nil => exact hs
  | cons e es ih =>
    obtain ⟨c, f, n, i, o, count, hrest, hsound, hreach, hclose⟩ := hs
    have hfits := h e List.mem_cons_self
    have hmore : ∀ x ∈ es, x.Fits column outer := fun x hx => h x (List.mem_cons_of_mem e hx)
    have hrest : c.rest = '\n' :: (List.replicate column ' ' ++
        (e.text ++ (Entry.below column es ++ tail))) := by
      simpa [Entry.below] using hrest
    have hentry := settles_entry hfits (endsLine_below (fun x hx => (hmore x hx).isKey) htail)
      (Scanner.skipBlank_newline (startsKey_text hfits.isKey _) hrest)
      (by show _ ≤ c.rest.length; rw [hrest]; simp; omega) rfl hsound rfl hclose
      (.inr ⟨rfl, rfl, rfl⟩)
    simpa using ih hmore (Settles.of_reaches hreach hentry)

/-- The entries of a mapping on lines that are indented further. -/
theorem reads_mapping {inner : Nat} {es : List Entry} (hinner : column < inner) (nonempty : es ≠ [])
    (h : ∀ e ∈ es, e.Fits inner (column :: outer)) :
    Reads column outer (Entry.below inner es) (Entry.mapping es) := by
  intro c found count tail hsound hc hcolumn htail
  obtain ⟨e, es, rfl⟩ := List.exists_cons_of_ne_nil nonempty
  have hfits := h e List.mem_cons_self
  have hmore : ∀ x ∈ es, x.Fits inner (column :: outer) :=
    fun x hx => h x (List.mem_cons_of_mem e hx)
  have hends : EndsLine inner tail := htail.mono (by omega)
  have hrest : c.rest = '\n' :: (List.replicate inner ' ' ++
      (e.text ++ (Entry.below inner es ++ tail))) := by
    simpa [Entry.below] using hc
  have hfirst : Settles (resting c found count column outer) inner (column :: outer)
      (Entry.below inner es ++ tail) (e.tokens.reverse ++ .blockMappingStart :: found) :=
    settles_entry hfits (endsLine_below (fun x hx => (hmore x hx).isKey) hends)
      (Scanner.skipBlank_newline (startsKey_text hfits.isKey _) hrest)
      (by show _ ≤ c.rest.length; rw [hrest]; simp; omega) rfl hsound rfl
      (Scanner.closeFrom_of_le (by omega)) (.inl ⟨by omega, rfl, rfl⟩)
  obtain ⟨c', f, n, i, o, count', hrest', hsound', hreach, hclose⟩ :=
    settles_below hmore hends hfirst
  refine ⟨c', f, n, i, o, count' + 1, hrest', hsound', hreach, ?_⟩
  -- the mapping itself is closed left of its column
  have hall := @Scanner.closeFrom_closeFrom f n i o inner column (by omega)
  rw [hclose] at hall
  simp only at hall
  rw [← hall, closeFrom, if_pos (by omega), Scanner.closeFrom_of_le (Int.le_refl _)]
  simp [Entry.mapping]

end

/-- The tokens of a text that is one mapping. -/
theorem scan_mapping {e : Entry} {es : List Entry} (h : ∀ x ∈ e :: es, x.Fits 0 [-1])
    {closing : List Char} (hclosing : closing = [] ∨ closing = ['\n']) :
    Scan.ofSource ⟨e.text ++ (Entry.below 0 es ++ closing), none⟩ =
      ⟨Entry.mapping (e :: es), none⟩ := by
  have hfits := h e List.mem_cons_self
  have hmore : ∀ x ∈ es, x.Fits 0 [-1] := fun x hx => h x (List.mem_cons_of_mem e hx)
  have hends : EndsLine (0 : Nat) closing := by
    rcases hclosing with rfl | rfl
    · exact .inl rfl
    · exact .inr ⟨0, [], rfl, nofun, Int.le_refl _⟩
  have hstarts := startsKey_text hfits.isKey (Entry.below 0 es ++ closing)
  generalize hcs : e.text ++ (Entry.below 0 es ++ closing) = cs at hstarts ⊢
  have hmark : cs.head? ≠ some '\ufeff' := fun hhead => absurd (hstarts _ hhead) (by decide)
  have hstart : Scanner.start ⟨cs, none⟩ = ready ⟨cs, none, 0, 0, 0⟩ [] 0 (-1) [] := by
    have hpeek : (Cursor.start ⟨cs, none⟩).peek? ≠ some '\ufeff' := hmark
    unfold Scanner.start
    simp only [if_neg hpeek]
    rfl
  have hskip := Scanner.skipBlank_blanks (ready ⟨cs, none, 0, 0, 0⟩ [] 0 (-1) []) (n := 0)
    cs.length rfl hstarts.next
  have hfirst : Settles (Scanner.start ⟨cs, none⟩) 0 [-1] (Entry.below 0 es ++ closing)
      (e.tokens.reverse ++ [.blockMappingStart]) := by
    rw [hstart]
    exact settles_entry hfits (endsLine_below (fun x hx => (hmore x hx).isKey) hends) hskip
      (Nat.le_refl _) hcs.symm rfl rfl rfl (.inl ⟨by show (-1 : Int) < 0; omega, rfl, rfl⟩)
  obtain ⟨c, f, n, i, o, count, hrest, hsound, ⟨m, hm, hrun⟩, hclose⟩ :=
    settles_below hmore hends hfirst
  have hm : m ≤ cs.length := by
    rw [hstart] at hm
    exact Nat.le_trans (Nat.le_add_right ..) hm
  have hfuel : cs.length + 1 = m + (cs.length - m + 1) := by omega
  have hclosed : (closeFrom (-1) f n i o).1 = .blockEnd :: ((es.flatMap Entry.tokens).reverse ++
      (e.tokens.reverse ++ [.blockMappingStart])) := by
    have hleft := @Scanner.closeFrom_closeFrom f n i o (0 : Nat) (-1) (by omega)
    rw [hclose] at hleft
    rw [← hleft]
    rfl
  unfold Scan.ofSource
  rw [hfuel, hrun, Scanner.run_end hsound (hrest ▸ hclosing), hclosed]
  simp [Entry.mapping]

end ClusterPilot.Yaml
