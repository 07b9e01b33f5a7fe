import Mathlib.Algebra.GroupWithZero.Nat
import GasSponsor.Wire.Varint

/-!
# Variable-length integers read back

A number of 64 bits is read back from its bytes whatever follows them, and takes as many bytes as
its size says. The last of ten bytes holds one bit, so the bound is on the number that is left when
so many bytes have been read.
-/

namespace GasSponsor.Wire.Varint

theorem encode_of_lt {n : Nat} (h : n < 128) : encode n = [UInt8.ofNat n] := by
  rw [encode, if_pos h]

theorem encode_of_le {n : Nat} (h : 128 ≤ n) :
    encode n = UInt8.ofNat (n % 128 + 128) :: encode (n / 128) := by
  rw [encode, if_neg (by omega)]

theorem encode_ne_nil (n : Nat) : encode n ≠ [] := by
  by_cases h : n < 128
  · simp [encode_of_lt h]
  · simp [encode_of_le (Nat.le_of_not_lt h)]

theorem length_encode_pos (n : Nat) : 0 < (encode n).length :=
  List.length_pos_iff.2 (encode_ne_nil n)

theorem readUpTo_encode (bytes n : Nat) (rest : Bytes) (h : n < 2 * 128 ^ bytes) :
    readUpTo (bytes + 1) (encode n ++ rest) = .ok (n, rest) := by
  induction bytes generalizing n with
  | zero =>
      have hn : n < 2 := by simpa using h
      have hb : (UInt8.ofNat n).toNat = n := by rw [UInt8.toNat_ofNat']; omega
      rw [encode_of_lt (by omega), List.singleton_append, readUpTo, hb, if_pos (by omega),
        if_neg (by omega)]
  | succ bytes ih =>
      by_cases hn : n < 128
      · have hb : (UInt8.ofNat n).toNat = n := by rw [UInt8.toNat_ofNat']; omega
        rw [encode_of_lt hn, List.singleton_append, readUpTo, hb, if_pos hn, if_neg (by omega)]
      · have hb : (UInt8.ofNat (n % 128 + 128)).toNat = n % 128 + 128 := by
          rw [UInt8.toNat_ofNat']; omega
        have hhigh : n / 128 < 2 * 128 ^ bytes := by
          rw [Nat.pow_succ] at h
          omega
        rw [encode_of_le (Nat.le_of_not_lt hn), List.cons_append, readUpTo, hb,
          if_neg (by omega), ih (n / 128) hhigh]
        simp only [bind, Except.bind]
        congr 2
        omega

theorem read_encode {n : Nat} (h : n < UInt64.size) (rest : Bytes) :
    read (encode n ++ rest) = .ok (n, rest) := by
  apply readUpTo_encode 9 n rest
  simpa using h

theorem log2_div_128 {n : Nat} (h : 128 ≤ n) : n.log2 = (n / 128).log2 + 7 := by
  have hpos : n / 128 ≠ 0 := by omega
  have hlow : 2 ^ (n / 128).log2 ≤ n / 128 := (Nat.le_log2 hpos).1 Nat.le.refl
  have hhigh : n / 128 < 2 ^ ((n / 128).log2 + 1) := (Nat.log2_lt hpos).1 (Nat.lt_succ_self _)
  apply Nat.le_antisymm
  · apply Nat.lt_succ_iff.1
    rw [Nat.log2_lt (by omega)]
    have he : 2 ^ ((n / 128).log2 + 7 + 1) = 2 ^ ((n / 128).log2 + 1) * 128 := by
      rw [show (n / 128).log2 + 7 + 1 = (n / 128).log2 + 1 + 7 by omega, Nat.pow_add]
    omega
  · rw [Nat.le_log2 (by omega), Nat.pow_add]
    omega

theorem log2_or_one {n : Nat} (h : n ≠ 0) : (n ||| 1).log2 = n.log2 := by
  have hhalf : (n ||| 1) / 2 = n / 2 := by simpa using Nat.or_div_two_pow (a := n) (b := 1) (n := 1)
  have hle : n ≤ n ||| 1 := Nat.left_le_or
  by_cases hn : 2 ≤ n
  · rw [Nat.log2_def, Nat.log2_def n, if_pos hn, if_pos (Nat.le_trans hn hle), hhalf]
  · have h1 : n = 1 := by omega
    rw [h1]
    rfl

/-- Seven bits to a byte, and a byte for zero. -/
theorem length_encode (n : Nat) : (encode n).length = (n ||| 1).log2 / 7 + 1 := by
  induction n using Nat.strongRecOn with
  | ind n ih =>
      by_cases hn : n < 128
      · rw [encode_of_lt hn, List.length_singleton]
        have hlt : (n ||| 1).log2 < 7 := by
          rw [Nat.log2_lt (by have := @Nat.right_le_or n 1; omega)]
          exact Nat.or_lt_two_pow hn (by decide)
        omega
      · have hle := Nat.le_of_not_lt hn
        rw [encode_of_le hle, List.length_cons, ih (n / 128) (by omega), log2_or_one (by omega),
          log2_or_one (by omega), log2_div_128 hle]
        omega

theorem size_eq_length {n : Nat} (h : n < UInt64.size) : size n = (encode n).length := by
  have hlog : (n ||| 1).log2 < 64 := by
    rw [Nat.log2_lt (by have := @Nat.right_le_or n 1; omega)]
    exact Nat.or_lt_two_pow h (by decide)
  rw [length_encode, size]
  omega

end GasSponsor.Wire.Varint
