/-
Reading a file as text, block by block, gives the text of its bytes. A block is decoded as it would
be in the whole, and line ends are unified across blocks as in the whole, since a carriage return
never ends what is unified; so characters that were read and the text of the rest make up the text
of what there was. A read that fails shows that the bytes have no text.
-/
import ClusterPilot.Proofs.Text.Newline
import ClusterPilot.Text.Stream
import Mathlib.Data.List.Basic

namespace ClusterPilot.Text

namespace Utf8

/-! ## Bytes one after the other -/

theorem mapM_some (c : Char) (ps : List (Option Char)) :
    (some c :: ps).mapM id = (ps.mapM id).map (c :: ·) := by
  rw [List.mapM_cons]
  cases ps.mapM id <;> rfl

section

variable {p : Partial} {b : UInt8} {c : Char}

theorem decodeAfter?_whole (h : lead b = .whole c) (bytes : List UInt8) :
    decodeAfter? none (b :: bytes) = (decodeAfter? none bytes).map (c :: ·) := by
  unfold decodeAfter?
  rw [pieces, h]
  exact mapM_some c _

theorem decodeAfter?_begins (h : lead b = .begins p) (bytes : List UInt8) :
    decodeAfter? none (b :: bytes) = decodeAfter? (some p) bytes := by
  unfold decodeAfter?
  rw [pieces, h]

theorem decodeAfter?_damaged (h : lead b = .damaged) (bytes : List UInt8) :
    decodeAfter? none (b :: bytes) = none := by
  unfold decodeAfter?
  rw [pieces, h]
  rfl

/-- A byte that cannot follow what has begun damages the text. -/
theorem decodeAfter?_outside (h : ¬(p.low ≤ b ∧ b ≤ p.high)) (bytes : List UInt8) :
    decodeAfter? (some p) (b :: bytes) = none := by
  unfold decodeAfter?
  rw [pieces, if_neg h]
  rfl

theorem decodeAfter?_last (h : p.low ≤ b ∧ b ≤ p.high) (hlast : p.missing ≤ 1)
    (bytes : List UInt8) :
    decodeAfter? (some p) (b :: bytes) =
      (decodeAfter? none bytes).map (Char.ofNat (p.bits * 64 + (b.toNat - 0x80)) :: ·) := by
  unfold decodeAfter?
  rw [pieces, if_pos h]
  simp only [hlast, if_true]
  exact mapM_some _ _

theorem decodeAfter?_more (h : p.low ≤ b ∧ b ≤ p.high) (hmore : ¬p.missing ≤ 1)
    (bytes : List UInt8) :
    decodeAfter? (some p) (b :: bytes) =
      decodeAfter? (some ⟨p.bits * 64 + (b.toNat - 0x80), p.missing - 1, 0x80, 0xbf⟩) bytes := by
  unfold decodeAfter?
  rw [pieces, if_pos h]
  simp only [hmore, if_false]

theorem decodeAfter?_stuck (bytes : List UInt8) : decodeAfter? (some stuck) bytes = none := by
  cases bytes with
  | nil => rfl
  | cons b bytes =>
    refine decodeAfter?_outside ?_ bytes
    rintro ⟨hlow, hhigh⟩
    exact absurd (UInt8.le_trans hlow hhigh) (by decide)

end

/-- The text of a block stands in front of the text of what follows it, and a block without a text
leaves the whole without one. -/
theorem decodeAfter?_append (begun : Option Partial) (block rest : List UInt8) :
    decodeAfter? begun (block ++ rest) =
      (feed? begun block).bind fun r => (decodeAfter? r.2 rest).map (r.1 ++ ·) := by
  have hmap : ∀ (c : Char) (fed : Option (List Char × Option Partial)),
      ((fed.bind fun r => (decodeAfter? r.2 rest).map (r.1 ++ ·)).map (c :: ·)) =
        (fed.map fun r => (c :: r.1, r.2)).bind fun r => (decodeAfter? r.2 rest).map (r.1 ++ ·) := by
    rintro c (_ | ⟨cs, next⟩)
    · rfl
    · simp [Function.comp_def]
  fun_induction feed? begun block with
  | case1 begun => simp
  | case2 b bs c hlead ih => rw [List.cons_append, decodeAfter?_whole hlead, ih, hmap]
  | case3 b bs p hlead ih => rw [List.cons_append, decodeAfter?_begins hlead, ih]
  | case4 b bs hlead => exact decodeAfter?_damaged hlead _
  | case5 p b bs hin bits hlast ih => rw [List.cons_append, decodeAfter?_last hin hlast, ih, hmap]
  | case6 p b bs hin bits hmore ih => rw [List.cons_append, decodeAfter?_more hin hmore, ih]
  | case7 p b bs hout hlast =>
    rw [List.cons_append, decodeAfter?_outside hout]
    simp [decodeAfter?_stuck]
  | case8 p b bs hout => exact decodeAfter?_outside hout _

/-- A character takes a byte of its block at least. -/
theorem length_of_feed? {begun next : Option Partial} {block : List UInt8} {cs : List Char}
    (h : feed? begun block = some (cs, next)) : cs.length ≤ block.length := by
  fun_induction feed? begun block generalizing cs with
  | case1 => cases h; exact Nat.le_refl 0
  | case2 b bs c hlead ih =>
    obtain ⟨⟨ds, next'⟩, hfeed, ⟨⟩⟩ := Option.map_eq_some_iff.1 h
    exact Nat.succ_le_succ (ih hfeed)
  | case3 b bs p hlead ih => exact Nat.le_succ_of_le (ih h)
  | case4 => cases h
  | case5 p b bs hin bits hlast =>
    rename_i ih
    obtain ⟨⟨ds, next'⟩, hfeed, ⟨⟩⟩ := Option.map_eq_some_iff.1 h
    exact Nat.succ_le_succ (ih hfeed)
  | case6 p b bs hin bits hmore =>
    rename_i ih
    exact Nat.le_succ_of_le (ih h)
  | case7 => cases h; exact Nat.zero_le _
  | case8 => cases h

end Utf8

/-! ## Line ends across blocks -/

/-- Line ends are unified on each side of a place where no line end is cut in two. -/
theorem unifyNewlines_append {cs ds : List Char}
    (h : ¬(cs.getLast? = some '\r' ∧ ds.head? = some '\n')) :
    unifyNewlines (cs ++ ds) = unifyNewlines cs ++ unifyNewlines ds := by
  have hrest : ∀ {c : Char} {cs : List Char},
      ¬((c :: cs).getLast? = some '\r' ∧ ds.head? = some '\n') →
        ¬(cs.getLast? = some '\r' ∧ ds.head? = some '\n') := by
    rintro c cs h ⟨hlast, hhead⟩
    exact h ⟨by simp [List.getLast?_cons, hlast], hhead⟩
  fun_induction unifyNewlines cs with
  | case1 => rfl
  | case2 cs ih =>
    rw [List.cons_append, List.cons_append, unifyNewlines, ih (hrest (hrest h)), List.cons_append]
  | case3 cs hnext ih =>
    have hfollows : ∀ es, cs ++ ds ≠ '\n' :: es := by
      intro es heq
      cases cs with
      | nil => exact h ⟨rfl, by rw [← List.nil_append ds, heq]; rfl⟩
      | cons c cs => exact hnext cs (congrArg (· :: cs) (List.cons.inj heq).1)
    rw [List.cons_append, unifyNewlines_return hfollows, ih (hrest h), List.cons_append]
  | case4 c cs h1 h2 ih =>
    rw [List.cons_append, unifyNewlines_cons_of_ne h2, ih (hrest h), List.cons_append]

theorem length_unifyNewlines (cs : List Char) : (unifyNewlines cs).length ≤ cs.length := by
  fun_induction unifyNewlines cs with
  | case1 => exact Nat.le_refl 0
  | case2 cs ih => exact Nat.le_succ_of_le (Nat.succ_le_succ ih)
  | case3 cs h ih => exact Nat.succ_le_succ ih
  | case4 c cs h1 h2 ih => exact Nat.succ_le_succ ih

namespace Stream

/-- The text of the blocks that are still to come. -/
def later? (s : Stream) : Option (List Char) :=
  (Utf8.decodeAfter? s.begun s.bytes).map fun cs => unifyNewlines (s.held ++ cs)

/-- The text that is still to be read. -/
def text? (s : Stream) : Option (List Char) := s.later?.map (s.ready ++ ·)

/-- How many characters may still be read at most. -/
def weight (s : Stream) : Nat := s.ready.length + s.held.length + s.bytes.length

/-! ## Blocks -/

/-- The stream after the block that follows another one. -/
structure After (s next : Stream) : Prop where
  text : s.later? = next.text?
  weight : next.weight ≤ s.held.length + s.bytes.length
  /-- After the last byte there is one more block for what was waiting. -/
  shorter : next.bytes.length < s.bytes.length ∨
    s.bytes = [] ∧ next.bytes = [] ∧ next.waiting = false ∧ next.later? = some [] ∧
      (next.ready = [] ↔ s.waiting = false)

/-- What waits is not cut in two: what is unified of a block does not end with a carriage return
that what comes later goes on with. -/
theorem unifyNewlines_held (cs more : List Char) :
    let waiting := cs.getLast? == some '\r'
    unifyNewlines (cs ++ more) =
      unifyNewlines (if waiting then cs.dropLast else cs) ++
        unifyNewlines ((if waiting then ['\r'] else []) ++ more) := by
  simp only
  by_cases hlast : cs.getLast? = some '\r'
  · have hsplit : cs.dropLast ++ ['\r'] = cs := List.dropLast_append_getLast? '\r' hlast
    simp only [hlast, beq_self_eq_true, if_true]
    rw [← unifyNewlines_append (by simp), ← List.append_assoc, hsplit]
  · have hwaiting : (cs.getLast? == some '\r') = false := by simpa using hlast
    simp only [hwaiting, Bool.false_eq_true, if_false, List.nil_append]
    exact unifyNewlines_append fun h => hlast h.1

section

variable {s next : Stream} {wanted : Nat}

/-- A block was read, and what came out of it. -/
structure Block (s next : Stream) (block : List UInt8) (cs : List Char) : Prop where
  bytes : s.bytes = block ++ next.bytes
  last : s.bytes = [] ↔ block = []
  feeds : Utf8.feed? s.begun block = some (cs, next.begun)
  ends : block = [] → next.begun = none
  waiting : next.waiting = (!block.isEmpty && (s.held ++ cs).getLast? == some '\r')
  ready : next.ready =
    unifyNewlines (if next.waiting then (s.held ++ cs).dropLast else s.held ++ cs)

theorem exists_of_block? (h : s.block? wanted = some next) : ∃ block cs, Block s next block cs := by
  unfold block? at h
  simp only [Option.bind_eq_bind, Option.bind_eq_some_iff] at h
  obtain ⟨⟨cs, begun⟩, hfeed, h⟩ := h
  generalize hsize : max blockSize (s.estimate wanted) = size at hfeed h
  have hpos : 0 < size := by
    rw [← hsize]
    exact Nat.lt_of_lt_of_le (by decide) (Nat.le_max_left ..)
  have hempty : s.bytes = [] ↔ s.bytes.take size = [] := by
    rw [List.take_eq_nil_iff]
    exact ⟨.inr, fun h => h.resolve_left (by omega)⟩
  simp only at h
  split at h
  · cases h
  · rename_i hbegun
    cases h
    refine ⟨s.bytes.take size, cs, (List.take_append_drop ..).symm, hempty, hfeed, ?_, rfl, rfl⟩
    intro hblock
    simpa [hblock] using hbegun

namespace Block

variable {block : List UInt8} {cs : List Char}

theorem decodes (h : Block s next block cs) : Utf8.decodeAfter? s.begun s.bytes =
    (Utf8.decodeAfter? next.begun next.bytes).map (cs ++ ·) := by
  rw [h.bytes, Utf8.decodeAfter?_append, h.feeds]
  rfl

/-- After an empty block, what was waiting is all that is left. -/
theorem after_end (h : Block s next [] cs) : After s next := by
  have hcs := Utf8.length_of_feed? h.feeds
  obtain rfl : cs = [] := List.eq_nil_of_length_eq_zero (Nat.le_zero.1 hcs)
  have hbytes := h.last.2 rfl
  have hnone : next.bytes = [] := by
    rw [← List.nil_append next.bytes, ← h.bytes, hbytes]
  have hheld : next.held = [] := by
    unfold held
    rw [h.waiting]
    rfl
  have hrest : Utf8.decodeAfter? next.begun next.bytes = some [] := by
    rw [h.ends rfl, hnone]
    rfl
  have hlater : next.later? = some [] := by
    unfold later?
    rw [hrest, hheld]
    rfl
  have hready : next.ready = unifyNewlines s.held := by
    rw [h.ready, h.waiting, List.append_nil]
    rfl
  refine ⟨?_, ?_, .inr ⟨hbytes, hnone, h.waiting, hlater, ?_⟩⟩
  · rw [text?, hlater, later?, h.decodes, hrest, hready]
    simp
  · have := length_unifyNewlines s.held
    unfold weight
    rw [hready, hheld, hnone]
    simp
    omega
  · rw [hready, held]
    cases s.waiting <;> simp [unifyNewlines]

/-- What is ready and what waits after a block comes from what was waiting and the block. -/
theorem length_ready (h : Block s next block cs) :
    next.ready.length + next.held.length ≤ (s.held ++ cs).length := by
  have hunify := length_unifyNewlines
    (if next.waiting then (s.held ++ cs).dropLast else s.held ++ cs)
  rw [← h.ready] at hunify
  cases hw : next.waiting with
  | false =>
    have hnil : next.held = [] := by rw [held, hw]; rfl
    rw [hw] at hunify
    rw [hnil]
    exact hunify
  | true =>
    have hone : next.held.length = 1 := by rw [held, hw]; rfl
    have hne : s.held ++ cs ≠ [] := by
      intro hnil
      have hwaiting := h.waiting
      rw [hw, hnil] at hwaiting
      simp at hwaiting
    have hpos := List.length_pos_iff.2 hne
    rw [hw, if_pos rfl, List.length_dropLast] at hunify
    omega

theorem after_more (h : Block s next block cs) (hblock : block ≠ []) : After s next := by
  have hlength : s.bytes.length = block.length + next.bytes.length := by
    rw [h.bytes, List.length_append]
  have hpos := List.length_pos_iff.2 hblock
  refine ⟨?_, ?_, .inl (by omega)⟩
  · have hsome : block.isEmpty = false := by simpa using hblock
    have hwaiting := h.waiting
    rw [hsome, Bool.not_false, Bool.true_and] at hwaiting
    unfold text? later?
    rw [h.decodes, Option.map_map, Option.map_map]
    congr 1
    funext ds
    have hunify := unifyNewlines_held (s.held ++ cs) ds
    simp only [← hwaiting, ← h.ready] at hunify
    simpa [held] using hunify
  · have hready := h.length_ready
    have hcs := Utf8.length_of_feed? h.feeds
    rw [List.length_append] at hready
    unfold weight
    omega

end Block

theorem after_of_block? (h : s.block? wanted = some next) : After s next := by
  obtain ⟨block, cs, hblock⟩ := exists_of_block? h
  by_cases hnil : block = []
  · subst hnil
    exact hblock.after_end
  · exact hblock.after_more hnil

/-- A block that is not read shows that the bytes have no text. -/
theorem later?_of_block? (h : s.block? wanted = none) : s.later? = none := by
  unfold block? at h
  simp only [Option.bind_eq_bind] at h
  generalize hsize : max blockSize (s.estimate wanted) = size at h
  have hpos : 0 < size := by
    rw [← hsize]
    exact Nat.lt_of_lt_of_le (by decide) (Nat.le_max_left ..)
  have hdecode := Utf8.decodeAfter?_append s.begun (s.bytes.take size) (s.bytes.drop size)
  rw [List.take_append_drop] at hdecode
  unfold later?
  rw [hdecode]
  cases hfeed : Utf8.feed? s.begun (s.bytes.take size) with
  | none => rfl
  | some r =>
    rw [hfeed] at h
    simp only [Option.bind_some] at h
    split at h
    · rename_i hend
      rw [Bool.and_eq_true, List.isEmpty_iff] at hend
      obtain ⟨hblock, hbegun⟩ := hend
      have hrest : s.bytes.drop size = [] := by
        rcases List.take_eq_nil_iff.1 hblock with hzero | hnil
        · omega
        · rw [hnil, List.drop_nil]
      obtain ⟨p, hp⟩ := Option.isSome_iff_exists.1 hbegun
      rw [Option.bind_some, hrest, hp]
      rfl
    · cases h

end

/-! ## Reads -/

/-- Characters were read, as many as wanted or all that were left. -/
structure Reads (s : Stream) (wanted : Nat) (cs : List Char) (next : Stream) : Prop where
  text : s.text? = next.text?.map (cs ++ ·)
  weight : cs.length + next.weight ≤ s.weight
  ends : cs.length < wanted → next.text? = some []

/-- So many blocks are enough: one for what is waiting after the last byte, and one at the end. -/
def Lasts (s : Stream) (fuel : Nat) : Prop :=
  s.bytes.length + 2 ≤ fuel ∨ s.bytes = [] ∧ s.waiting = false ∧ 0 < fuel

section

variable {s next after : Stream} {fuel wanted : Nat} {more : List Char}

/-- Characters that were left from the last block are read without another one. -/
theorem reads_ready (h : wanted ≤ s.ready.length) :
    s.Reads wanted (s.ready.take wanted) { s with ready := s.ready.drop wanted } := by
  refine ⟨?_, ?_, fun hlt => ?_⟩
  · unfold text?
    rw [Option.map_map]
    congr 1
    funext cs
    simp only [Function.comp]
    rw [← List.append_assoc, List.take_append_drop]
  · show (s.ready.take wanted).length + ((s.ready.drop wanted).length + s.held.length +
      s.bytes.length) ≤ s.ready.length + s.held.length + s.bytes.length
    rw [List.length_take, List.length_drop]
    omega
  · rw [List.length_take] at hlt
    omega

namespace After

theorem text?_eq (h : After s next) : s.text? = next.text?.map (s.ready ++ ·) := by
  rw [← h.text]
  rfl

theorem weight_le (h : After s next) : s.ready.length + next.weight ≤ s.weight := by
  have := h.weight
  unfold Stream.weight at this ⊢
  omega

/-- A block without characters after the last byte is the end. -/
theorem reads_end (h : After s next) (hbytes : s.bytes = []) (hready : next.ready = []) :
    s.Reads wanted s.ready next := by
  refine ⟨h.text?_eq, h.weight_le, fun _ => ?_⟩
  rcases h.shorter with hlt | ⟨-, -, -, hlater, -⟩
  · rw [hbytes] at hlt
    exact absurd hlt (Nat.not_lt_zero _)
  · rw [text?, hlater, hready]
    rfl

/-- What is read after a block goes on with what was ready before it. -/
theorem reads_more (h : After s next) (hready : ¬wanted ≤ s.ready.length)
    (hmore : next.Reads (wanted - s.ready.length) more after) :
    s.Reads wanted (s.ready ++ more) after := by
  have hweight := h.weight_le
  have hweight' := hmore.weight
  refine ⟨?_, ?_, fun hlt => hmore.ends ?_⟩
  · rw [h.text?_eq, hmore.text, Option.map_map]
    congr 1
    funext ds
    exact (List.append_assoc ..).symm
  · rw [List.length_append]
    omega
  · rw [List.length_append] at hlt
    omega

theorem lasts (h : After s next) (hs : s.Lasts (fuel + 1))
    (hgoes : ¬(s.bytes.isEmpty && next.ready.isEmpty) = true) : next.Lasts fuel := by
  rcases h.shorter with hlt | ⟨hbytes, hnil, hwaiting, -, hready⟩
  · rcases hs with hs | ⟨hnone, -, -⟩
    · exact .inl (by omega)
    · rw [hnone] at hlt
      exact absurd hlt (Nat.not_lt_zero _)
  · refine .inr ⟨hnil, hwaiting, ?_⟩
    rcases hs with hs | ⟨-, hs, -⟩
    · omega
    · -- nothing was waiting, so that block was the end
      exact absurd (by rw [hbytes, hready.2 hs]; rfl) hgoes

end After

theorem readWith_spec (h : s.Lasts fuel) :
    (∀ cs next, s.readWith fuel wanted = some (cs, next) → s.Reads wanted cs next) ∧
      (s.readWith fuel wanted = none → s.text? = none) := by
  induction fuel generalizing s wanted with
  | zero => rcases h with h | ⟨-, -, h⟩ <;> omega
  | succ fuel ih =>
    unfold readWith
    split
    · refine ⟨fun cs next heq => ?_, nofun⟩
      cases heq
      exact reads_ready ‹_›
    · rename_i hready
      simp only [Option.bind_eq_bind]
      cases hblock : s.block? (wanted - s.ready.length) with
      | none =>
        refine ⟨fun cs next heq => (by cases heq), fun _ => ?_⟩
        rw [text?, later?_of_block? hblock]
        rfl
      | some next =>
        have hafter := after_of_block? hblock
        rw [Option.bind_some]
        split
        · rename_i hend
          rw [Bool.and_eq_true, List.isEmpty_iff, List.isEmpty_iff] at hend
          refine ⟨fun cs next heq => ?_, nofun⟩
          cases heq
          exact hafter.reads_end hend.1 hend.2
        · rename_i hgoes
          obtain ⟨hsome, hnone⟩ := @ih next (wanted - s.ready.length) (hafter.lasts h hgoes)
          constructor
          · intro cs after heq
            obtain ⟨⟨more, after'⟩, hread, hboth⟩ := Option.bind_eq_some_iff.1 heq
            cases hboth
            exact hafter.reads_more hready (hsome more _ hread)
          · intro heq
            have hread : readWith fuel (wanted - s.ready.length) next = none := by
              rw [Option.bind_eq_none_iff] at heq
              exact Option.eq_none_iff_forall_ne_some.2 fun r hr => by cases heq r hr
            rw [hafter.text?_eq, hnone hread]
            rfl

end

theorem reads_of_read? {s next : Stream} {wanted : Nat} {cs : List Char}
    (h : s.read? wanted = some (cs, next)) : s.Reads wanted cs next :=
  (readWith_spec (.inl (Nat.le_refl _))).1 cs next h

theorem text?_of_read? {s : Stream} {wanted : Nat} (h : s.read? wanted = none) : s.text? = none :=
  (readWith_spec (.inl (Nat.le_refl _))).2 h

theorem text?_start (bytes : List UInt8) :
    (start bytes).text? = (Utf8.decode? bytes).map unifyNewlines := by
  unfold text? later?
  rw [Option.map_map]
  rfl

end Stream

end ClusterPilot.Text
