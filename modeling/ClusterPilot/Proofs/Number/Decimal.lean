/-
Integers written in decimal, and read back. The digits of a number are digits, start with a zero
only when there is no other, and have the value of the number; so every reader of integers that
takes exactly such a spelling gives the integer back, up to the length that it reads.
-/
import ClusterPilot.Cluster.Count
import Mathlib.Data.List.TakeWhile

namespace ClusterPilot

namespace Number

/-- The digits of a number. -/
def digits (n : Nat) : List Char := Nat.toDigits 10 n

/-- The usual spelling of an integer: a minus sign when it is negative, and its digits. -/
def decimal (i : Int) : List Char := if i < 0 then '-' :: digits i.natAbs else digits i.natAbs

/-! ## Digits -/

theorem isDigit_of_isDigit {c : Char} (h : c.isDigit = true) : isDigit c = true := by
  unfold Char.isDigit at h
  unfold isDigit
  rw [Bool.and_eq_true, decide_eq_true_eq, decide_eq_true_eq] at h ⊢
  exact h

theorem isDigit_of_mem_digits {n : Nat} {c : Char} (h : c ∈ digits n) : isDigit c = true :=
  isDigit_of_isDigit (Nat.isDigit_of_mem_toDigits (by decide) (by decide) h)

theorem digits_ne_nil (n : Nat) : digits n ≠ [] := Nat.toDigits_ne_nil

theorem digits_eq_if (n : Nat) :
    digits n = if n < 10 then [n.digitChar] else digits (n / 10) ++ [(n % 10).digitChar] :=
  Nat.toDigits_eq_if (by decide)

theorem ofDigits_digits (n : Nat) : ofDigits 10 (digits n) = n := by
  have h := @Nat.ofDigitChars_ten_toDigits n
  rw [Nat.ofDigitChars_eq_foldl] at h
  unfold ofDigits digits digitValue
  simp only [Nat.mul_comm _ 10]
  exact h

theorem digitChar_ne_zero {d : Nat} (h0 : d ≠ 0) (h : d < 10) : d.digitChar ≠ '0' := by
  intro heq
  have hnat := Nat.toNat_digitChar_of_lt_ten h
  rw [heq] at hnat
  have hzero : '0'.toNat = 48 := rfl
  omega

/-- A zero in front is the only digit. -/
theorem digits_head_zero {n : Nat} {ds : List Char} (h : digits n = '0' :: ds) : ds = [] := by
  induction n using Nat.strongRecOn generalizing ds with
  | _ n ih =>
    rw [digits_eq_if] at h
    split at h
    · exact (List.cons.inj h).2.symm
    · rename_i hn
      cases hd : digits (n / 10) with
      | nil => exact absurd hd (digits_ne_nil _)
      | cons c cs =>
        rw [hd, List.cons_append] at h
        obtain ⟨rfl, -⟩ := List.cons.inj h
        -- the number without its last digit is not zero, so neither is its only digit
        have hcs : cs = [] := ih (n / 10) (by omega) hd
        rw [hcs, digits_eq_if] at hd
        split at hd
        · exact absurd (List.cons.inj hd).1 (digitChar_ne_zero (by omega) (by omega))
        · have hlen := congrArg List.length hd
          rw [List.length_append, List.length_singleton, List.length_singleton] at hlen
          have hnil : digits (n / 10 / 10) = [] := List.length_eq_zero_iff.1 (by omega)
          exact absurd hnil (digits_ne_nil _)

/-! ## Reading digits -/

theorem digits?_digits (n : Nat) : digits? (digits n) = some (digits n, []) := by
  have htake : (digits n).takeWhile isDigit = digits n := by
    rw [List.takeWhile_eq_self_iff]
    exact fun c hc => isDigit_of_mem_digits hc
  have hdrop : (digits n).dropWhile isDigit = [] := by
    rw [List.dropWhile_eq_nil_iff]
    exact fun c hc => isDigit_of_mem_digits hc
  unfold digits?
  rw [htake, hdrop]
  simp [digits_ne_nil]

theorem wholeDigits?_digits (n : Nat) : Json.wholeDigits? (digits n) = some (digits n, []) := by
  unfold Json.wholeDigits?
  rw [digits?_digits]
  split
  · rename_i d ds rest heq
    have hd : digits n = '0' :: d :: ds := by
      simp only [Option.some.injEq, Prod.mk.injEq] at heq
      exact heq.1
    exact absurd (digits_head_zero hd) (List.cons_ne_nil _ _)
  · rfl

end Number

open Number

/-! ## Reading integers -/

/-- An integer that is not longer than the integers that are read. -/
def Number.Fits (i : Int) : Prop := (digits i.natAbs).length < 4300

theorem Json.unsigned?_digits (negative : Bool) {n : Nat} (h : (digits n).length < 4300) :
    Json.unsigned? negative (digits n) =
      some (.integer (if negative then -(n : Int) else n)) := by
  have hlen : ¬ Json.maxIntegerLength < (digits n).length + (if negative then 1 else 0) := by
    unfold Json.maxIntegerLength
    split <;> omega
  unfold Json.unsigned?
  simp only [wholeDigits?_digits, Option.bind_eq_bind, Option.bind_some, if_neg hlen,
    ofDigits_digits, List.isEmpty_nil, if_true]

theorem Number.decimal_cases (i : Int) :
    (∃ n : Nat, i = n ∧ decimal i = digits n) ∨
      ∃ n : Nat, i = -(n : Int) ∧ decimal i = '-' :: digits n := by
  unfold decimal
  by_cases h : i < 0
  · exact .inr ⟨i.natAbs, by omega, if_pos h⟩
  · exact .inl ⟨i.natAbs, by omega, if_neg h⟩

theorem Number.digits_head_ne {n : Nat} {c : Char} (hc : isDigit c = false) :
    (digits n).head? ≠ some c := by
  intro h
  have hmem := isDigit_of_mem_digits (List.mem_of_mem_head? h)
  rw [hc] at hmem
  cases hmem

theorem Count.literal_decimal {i : Int} (h : Fits i) : Count.literal (decimal i) = .ok i := by
  unfold Fits at h
  rcases decimal_cases i with ⟨n, rfl, hd⟩ | ⟨n, rfl, hd⟩
  · have hlen : ¬ Json.maxIntegerLength < (digits n).length := by
      rw [Int.natAbs_natCast] at h
      unfold Json.maxIntegerLength
      omega
    unfold Count.literal
    rw [hd]
    simp only [digits_head_ne (show isDigit '-' = false by decide), if_false,
      wholeDigits?_digits, Nat.add_zero, if_neg hlen, List.isEmpty_nil, if_true, ofDigits_digits]
  · have hlen : ¬ Json.maxIntegerLength < (digits n).length + 1 := by
      rw [Int.natAbs_neg, Int.natAbs_natCast] at h
      unfold Json.maxIntegerLength
      omega
    unfold Count.literal
    rw [hd]
    simp only [List.head?_cons, if_true, List.drop_succ_cons, List.drop_zero,
      wholeDigits?_digits, if_neg hlen, List.isEmpty_nil, ofDigits_digits]

/-- The text of an integer counts as that integer. -/
theorem Count.ofText_decimal {i : Int} (h : Fits i) :
    Count.ofText (String.ofList (decimal i)) = .ok i := by
  unfold Count.ofText
  rw [String.toList_ofList, Count.literal_decimal h]

end ClusterPilot
