/-
Responses do not depend on how their line ends are spelled. Between tokens every line end is blank,
and there a carriage return and a line feed are one blank more or less; in a quoted text, after a
backslash and in a word none is read at all, in any spelling. So a text and the same text with line
ends unified have the same tokens, and a response read from the one is read from the other: the same
value, or the same faults, each told with its own text.
-/
import ClusterPilot.Proofs.Operation.Responses
import ClusterPilot.Proofs.Text.Newline

namespace ClusterPilot

namespace Json

/-! ## Tokens -/

namespace Scanner

/-- Wherever the scanner is, a carriage return is to it what a line feed is. -/
theorem step?_return (s : Scanner) : s.step? '\r' = s.step? '\n' := by
  obtain ⟨found, mode⟩ := s
  cases mode with
  | ground | word | text | escape | unit | pair | pairEscape => rfl

/-- The scanner goes on after a carriage return between tokens only, where a line feed is blank. -/
theorem step?_return_feed (s : Scanner) :
    (s.step? '\r' >>= fun s' => s'.step? '\n') = s.step? '\n' := by
  obtain ⟨found, mode⟩ := s
  cases mode with
  | word read =>
    show ((Token.ofWord? read.reverse).map _).bind _ = (Token.ofWord? read.reverse).map _
    cases Token.ofWord? read.reverse <;> rfl
  | ground | text | escape | unit | pair | pairEscape => rfl

end Scanner

/-- The tokens of a text do not depend on the spelling of its line ends. -/
theorem tokens?_unifyNewlines (cs : List Char) : tokens? (Text.unifyNewlines cs) = tokens? cs := by
  unfold tokens?
  rw [Text.foldlM_unifyNewlines Scanner.step?_return Scanner.step?_return_feed]

end Json

namespace Operation

open Text (unified)

theorem read?_unified (text : String) :
    Json.Value.read? (unified text) = Json.Value.read? text := by
  unfold Json.Value.read? unified
  rw [String.toList_ofList, Json.tokens?_unifyNewlines]

/-- How the readings of two texts belong together: both give the same value, or both report the same
faults in the same words, each with its own text. -/
inductive ReadAlike {α : Type} (text text' : String) :
    Except Failure α → Except Failure α → Prop
  | ok (a : α) : ReadAlike text text' (.ok a) (.ok a)
  | unreadable (message : String) (faults : List Fault) :
    ReadAlike text text' (.error (.unreadable message text (some faults)))
      (.error (.unreadable message text' (some faults)))

theorem readAlike_ofChecked {α : Type} (what subject text text' : String) (c : Checked α) :
    ReadAlike text text' (ofChecked what subject text c) (ofChecked what subject text' c) := by
  cases c with
  | ok a => exact .ok a
  | faulty f fs => exact .unreadable _ _

/-- No response shows how the line ends of its text were spelled. -/
theorem read_unified (text : String) :
    ReadAlike text (unified text) (readCluster text) (readCluster (unified text)) ∧
      ReadAlike text (unified text) (readClusters text) (readClusters (unified text)) := by
  have hone : Response.one (unified text) = Response.one text := by
    unfold Response.one Response.ofText
    rw [read?_unified]
  have hmany : Response.many (unified text) = Response.many text := by
    unfold Response.many Response.ofText
    rw [read?_unified]
  unfold readCluster readClusters
  rw [hone, hmany]
  exact ⟨readAlike_ofChecked _ _ _ _ _, readAlike_ofChecked _ _ _ _ _⟩

end Operation

end ClusterPilot
