/-
What captured output shows of the bytes that a program wrote. Text that was written is captured as
it is but for the spelling of its line ends. Of all other bytes, whatever they are, those that stand
for themselves are captured in their order, again but for the spelling of line ends: damage takes
none of them away and adds none. And damage shows: bytes that are no text leave a replacement
character behind.
-/
import ClusterPilot.Host.Machine
import ClusterPilot.Proofs.Text.Newline
import ClusterPilot.Proofs.Text.Utf8

namespace ClusterPilot.Host

open Text (unified unifyNewlines)
open Text.Utf8 (Parted encode pieces replacement decodeLossy)

/-! ## Bytes that stand for themselves -/

/-- The character that a byte is when it stands for itself. -/
def byteChar (b : UInt8) : Char := Char.ofNat b.toNat

theorem toNat_byteChar (b : UInt8) : (byteChar b).toNat = b.toNat :=
  Text.Utf8.toNat_ofNat (.inl (by have := b.toNat_lt; omega))

/-- Two texts with the same ASCII characters in the same order, and with other characters between
the same ones of them, however many. -/
inductive Aligned : List Char → List Char → Prop
  | nil : Aligned [] []
  | ascii {c : Char} {cs ds : List Char} (h : c.toNat < 0x80) (tail : Aligned cs ds) :
    Aligned (c :: cs) (c :: ds)
  | foreign {c : Char} {stretch cs ds : List Char} (head : 0x80 ≤ c.toNat) (ne : stretch ≠ [])
    (all : ∀ d ∈ stretch, 0x80 ≤ d.toNat) (tail : Aligned cs ds) : Aligned (c :: cs) (stretch ++ ds)

theorem aligned_of_parted {bytes : List UInt8} {ps : List (Option Char)} (h : Parted bytes ps) :
    Aligned (ps.map (·.getD replacement)) (bytes.map byteChar) := by
  have hforeign : ∀ stretch : List UInt8, (∀ b ∈ stretch, 0x80 ≤ b) →
      ∀ d ∈ stretch.map byteChar, 0x80 ≤ d.toNat := by
    intro stretch hstretch d hd
    obtain ⟨b, hb, rfl⟩ := List.mem_map.1 hd
    rw [toNat_byteChar]
    exact hstretch b hb
  induction h with
  | nil => exact .nil
  | @cons piece stretch rest ps head tail ih =>
    rw [List.map_cons, List.map_append]
    have hne : stretch.map byteChar ≠ [] := fun h => head.ne_nil (List.map_eq_nil_iff.1 h)
    cases head with
    | character c =>
      by_cases hascii : c.toNat < 0x80
      · have hbyte : byteChar (UInt8.ofNat c.toNat) = c := by
          rw [byteChar, Text.Utf8.toNat_ascii hascii, Char.ofNat_toNat]
        rw [Text.Utf8.encodeChar_ascii hascii, List.map_singleton, hbyte]
        exact .ascii hascii ih
      · have hc : 0x80 ≤ c.toNat := Nat.not_lt.1 hascii
        exact .foreign hc hne (hforeign _ (Text.Utf8.foreign_encodeChar hc)) ih
    | damage _ foreign => exact .foreign (by decide) hne (hforeign _ foreign) ih

/-- Aligned texts begin with a line feed together. -/
theorem Aligned.feed_iff {cs ds : List Char} (h : Aligned cs ds) :
    (∃ cs', cs = '\n' :: cs') ↔ ∃ ds', ds = '\n' :: ds' := by
  cases h with
  | nil => exact Iff.rfl
  | ascii => simp
  | @foreign c stretch cs ds head ne all =>
    have hfeed : ∀ d : Char, 0x80 ≤ d.toNat → d ≠ '\n' := by
      rintro _ h rfl
      exact absurd h (by decide)
    obtain ⟨d, stretch, rfl⟩ := List.exists_cons_of_ne_nil ne
    have hd := hfeed d (all d List.mem_cons_self)
    simp [hfeed c head, hd]

/-- Unifying line ends leaves the same ASCII characters in aligned texts. -/
theorem Aligned.filter_unifyNewlines {cs ds : List Char} (h : Aligned cs ds) :
    (unifyNewlines cs).filter (·.toNat < 0x80) = (unifyNewlines ds).filter (·.toNat < 0x80) := by
  induction h with
  | nil => rfl
  | @ascii c cs ds hascii tail ih =>
    by_cases hreturn : c = '\r'
    · subst hreturn
      by_cases hfeed : ∃ cs', cs = '\n' :: cs'
      · obtain ⟨ds', rfl⟩ := tail.feed_iff.1 hfeed
        obtain ⟨cs', rfl⟩ := hfeed
        rw [Text.unifyNewlines_return_feed, Text.unifyNewlines_return_feed, ih]
      · have hfeed' : ¬ ∃ ds', ds = '\n' :: ds' := fun h => hfeed (tail.feed_iff.2 h)
        rw [Text.unifyNewlines_return (not_exists.1 hfeed),
          Text.unifyNewlines_return (not_exists.1 hfeed'), List.filter_cons, List.filter_cons, ih]
    · rw [Text.unifyNewlines_cons_of_ne hreturn, Text.unifyNewlines_cons_of_ne hreturn,
        List.filter_cons, List.filter_cons, ih]
  | @foreign c stretch cs ds head ne all tail ih =>
    have hreturn : ∀ d : Char, 0x80 ≤ d.toNat → d ≠ '\r' := by
      rintro _ h rfl
      exact absurd h (by decide)
    have hdropped : stretch.filter (·.toNat < 0x80) = [] :=
      List.filter_eq_nil_iff.2 fun d hd => by simpa using all d hd
    rw [Text.unifyNewlines_cons_of_ne (hreturn c head),
      Text.unifyNewlines_append_of_ne fun d hd => hreturn d (all d hd), List.filter_append, hdropped,
      List.nil_append, List.filter_cons_of_neg (by simpa using head), ih]

/-! ## Captured output -/

theorem toList_captured (bytes : List UInt8) :
    (captured bytes).toList = unifyNewlines (decodeLossy bytes) :=
  String.toList_ofList

theorem captured_encode (cs : List Char) : captured (encode cs) = String.ofList (unifyNewlines cs) := by
  rw [captured, Text.Utf8.decodeLossy_encode]

theorem filter_captured (bytes : List UInt8) :
    (captured bytes).toList.filter (·.toNat < 0x80) =
      (unifyNewlines (bytes.map byteChar)).filter (·.toNat < 0x80) := by
  rw [toList_captured]
  exact (aligned_of_parted (Text.Utf8.parted_pieces bytes)).filter_unifyNewlines

/-- Damage leaves a replacement character behind. -/
theorem replacement_mem_captured {bytes : List UInt8} (damaged : none ∈ pieces none bytes) :
    replacement ∈ (captured bytes).toList := by
  rw [toList_captured]
  exact Text.mem_unifyNewlines (by decide) (by decide) (List.mem_map.2 ⟨none, damaged, rfl⟩)

/-- Captured output is faithful to what was written. -/
theorem captured_faithful :
    (∀ text : String, captured text.toUTF8.data.toList = unified text) ∧
      ∀ bytes : List UInt8,
        (captured bytes).toList.filter (·.toNat < 0x80) =
          (unifyNewlines (bytes.map byteChar)).filter (·.toNat < 0x80) ∧
        ((∃ text : String, bytes = text.toUTF8.data.toList) ∨
          replacement ∈ (captured bytes).toList) := by
  refine ⟨fun text => ?_, fun bytes => ⟨filter_captured bytes, ?_⟩⟩
  · rw [← Text.Utf8.encode_toList, captured_encode]
    rfl
  · by_cases damaged : none ∈ pieces none bytes
    · exact .inr (replacement_mem_captured damaged)
    · left
      obtain ⟨cs, hcs⟩ := (Text.Utf8.parted_pieces bytes).exists_encode damaged
      refine ⟨String.ofList cs, ?_⟩
      rw [← Text.Utf8.encode_toList, String.toList_ofList, hcs]

/-- Line ends are unified where they stand: with damage between them, a carriage return and a line
feed are two. -/
example : captured [0x61, 0x0d, 0xe2, 0x82, 0x0a, 0x0d, 0x0a, 0xff] = "a\n\ufffd\n\n\ufffd" := by
  decide +kernel

end ClusterPilot.Host
