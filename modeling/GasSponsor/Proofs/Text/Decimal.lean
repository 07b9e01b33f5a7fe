import GasSponsor.Text.Decimal

/-!
# Decimal text read back

The digits of a number are read back as that number.
-/

namespace GasSponsor.Decimal

theorem digitValue?_digit {n : Nat} (h : n < 10) : digitValue? (digit n) = some n := by
  have hall : ∀ d < 10, digitValue? (digit d) = some d := by decide
  exact hall n h

theorem readDigits_concat (n : Nat) (cs : List Char) (c : Char) :
    readDigits n (cs ++ [c]) =
      (readDigits n cs).bind fun m => (digitValue? c).map fun d => 10 * m + d := by
  induction cs generalizing n with
  | nil =>
      rw [List.nil_append, readDigits, readDigits, Option.bind_some]
      cases digitValue? c <;> rfl
  | cons x cs ih =>
      rw [List.cons_append, readDigits, readDigits]
      cases digitValue? x with
      | none => rfl
      | some d => exact ih (10 * n + d)

theorem readDigits_digits (n : Nat) : readDigits 0 (digits n) = some n := by
  induction n using digits.induct with
  | case1 n h =>
      rw [digits, if_pos h, readDigits, digitValue?_digit h]
      simp [readDigits]
  | case2 n h ih =>
      have hlow : n % 10 < 10 := Nat.mod_lt n (by decide)
      rw [digits, if_neg h, readDigits_concat, ih, digitValue?_digit hlow, Option.bind_some,
        Option.map_some, Nat.div_add_mod]

theorem digits_ne_nil (n : Nat) : digits n ≠ [] := by
  rw [digits]
  split <;> simp

theorem decode_digits (n : Nat) : decode (digits n) = some n := by
  have hnonempty : ¬ (digits n).isEmpty = true := by
    rw [List.isEmpty_iff]
    exact digits_ne_nil n
  rw [decode, if_neg hnonempty, readDigits_digits]

theorem decode_encode (n : Nat) : decode (encode n).toList = some n := by
  rw [encode, String.toList_ofList, decode_digits]

theorem encode_inj {n k : Nat} (h : encode n = encode k) : n = k := by
  have hread := congrArg (fun text => decode text.toList) h
  rw [decode_encode, decode_encode] at hread
  exact Option.some.inj hread

end GasSponsor.Decimal
