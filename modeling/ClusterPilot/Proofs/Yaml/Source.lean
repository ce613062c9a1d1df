/-
What a YAML reader comes to know of a file. Where the bytes of the file are a text of which a YAML
reader allows every character, the source is that text; otherwise the source has a front of the text
and an error beyond it, and which of two errors it is depends on the part that is damaged first.
-/
import ClusterPilot.Proofs.Text.Stream
import ClusterPilot.Yaml.Source

namespace ClusterPilot.Yaml

namespace Source

/-- What a source may be when the bytes have a text, or have none. -/
def Tells (src : Source) : Option (List Char) → Prop
  | some cs =>
    src = ⟨cs, none⟩ ∧ cs.all isAllowed = true ∨
      src.chars <+: cs ∧ src.beyond = some .forbiddenCharacter ∧ cs.all isAllowed = false
  | none => src.beyond = some .undecodable ∨ src.beyond = some .forbiddenCharacter

/-- A part in front of a source. -/
theorem Tells.join {rest : Source} {text : Option (List Char)} (h : rest.Tells text)
    (part : List Char) : (Source.join part rest).Tells (text.map (part ++ ·)) := by
  unfold Source.join
  by_cases hpart : part.all isAllowed = true
  · rw [if_pos hpart]
    cases text with
    | none => exact h
    | some cs =>
      rcases h with ⟨rfl, hall⟩ | ⟨hfront, hbeyond, hall⟩
      · exact .inl ⟨rfl, by rw [List.all_append, hpart, hall]; rfl⟩
      · refine .inr ⟨?_, hbeyond, by rw [List.all_append, hall, Bool.and_false]⟩
        exact (List.prefix_append_right_inj part).2 hfront
  · rw [if_neg hpart]
    cases text with
    | none => exact .inr rfl
    | some cs =>
      refine .inr ⟨List.nil_prefix, rfl, ?_⟩
      rw [List.all_append, Bool.eq_false_iff.2 hpart, Bool.false_and]

/-- A part has a character at least, so the parts come to an end. -/
theorem parts_tells {s : Text.Stream} {fuel : Nat} (h : s.weight < fuel) :
    (parts fuel s).Tells s.text? := by
  induction fuel generalizing s with
  | zero => exact absurd h (Nat.not_lt_zero _)
  | succ fuel ih =>
    unfold parts
    split
    · rename_i hread
      rw [Text.Stream.text?_of_read? hread]
      exact .inl rfl
    · rename_i next hread
      have hreads := Text.Stream.reads_of_read? hread
      rw [hreads.text, hreads.ends (by decide)]
      exact .inl ⟨rfl, rfl⟩
    · rename_i part next hnil hread
      have hreads := Text.Stream.reads_of_read? hread
      have hpos := List.length_pos_iff.2 hnil
      have hweight := hreads.weight
      rw [hreads.text]
      exact (ih (by omega)).join part

/-- The source of a file tells the text of its bytes. -/
theorem ofBytes_tells (bytes : List UInt8) :
    (ofBytes bytes).Tells ((Text.Utf8.decode? bytes).map Text.unifyNewlines) := by
  rw [← Text.Stream.text?_start]
  have hstart : (Text.Stream.start bytes).weight = bytes.length := by
    show 0 + 0 + bytes.length = bytes.length
    omega
  unfold ofBytes
  cases hfirst : (Text.Stream.start bytes).read? partSize with
  | none =>
    rw [Text.Stream.text?_of_read? hfirst]
    exact .inl rfl
  | some r =>
    obtain ⟨first, s⟩ := r
    have hreads := Text.Stream.reads_of_read? hfirst
    rw [hreads.text]
    simp only [Option.bind_eq_bind, Option.bind_some]
    cases hsecond : s.read? partSize with
    | none =>
      rw [Text.Stream.text?_of_read? hsecond]
      exact .inl rfl
    | some r =>
      obtain ⟨second, s'⟩ := r
      have hreads' := Text.Stream.reads_of_read? hsecond
      have hweight := hreads.weight
      have hweight' := hreads'.weight
      have htext : (s'.text?.map (second ++ ·)).map (first ++ ·) =
          s'.text?.map (first ++ second ++ ·) := by
        rw [Option.map_map]
        congr 1
        funext cs
        exact (List.append_assoc ..).symm
      have hfuel : s'.weight < bytes.length + 1 := by omega
      rw [hreads'.text, htext]
      exact (parts_tells hfuel).join _

section

variable {bytes : List UInt8} {cs : List Char}

/-- A text of which every character is allowed is read as it is. -/
theorem ofBytes_eq (h : Text.Utf8.decode? bytes = some cs)
    (hall : (Text.unifyNewlines cs).all isAllowed = true) :
    ofBytes bytes = ⟨Text.unifyNewlines cs, none⟩ := by
  have htells := ofBytes_tells bytes
  rw [h] at htells
  rcases htells with ⟨heq, -⟩ | ⟨-, -, hnot⟩
  · exact heq
  · rw [hall] at hnot
    cases hnot

end

end Source

end ClusterPilot.Yaml
