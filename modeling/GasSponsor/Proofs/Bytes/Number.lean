import Mathlib.Algebra.GroupWithZero.Nat
import Mathlib.Data.List.Induction
import GasSponsor.Bytes

/-!
# Numbers without leading zeros

The big-endian form of a number denotes it, does not begin with a zero, and has as many bytes as the
number has digits to the base 256. Every other byte string that denotes the number is this form behind
zeros; among them is the form of a fixed width.
-/

namespace GasSponsor.Bytes

theorem toNat_concat (bs : Bytes) (b : UInt8) : toNat (bs ++ [b]) = 256 * toNat bs + b.toNat := by
  rw [toNat, List.foldl_append]
  rfl

theorem minimal_zero : minimal 0 = [] := by
  rw [minimal, if_pos rfl]

theorem minimal_of_pos {n : Nat} (h : 0 < n) :
    minimal n = minimal (n / 256) ++ [UInt8.ofNat n] := by
  rw [minimal, if_neg (Nat.ne_of_gt h)]

theorem toNat_minimal (n : Nat) : toNat (minimal n) = n := by
  induction n using minimal.induct with
  | case1 => rw [minimal_zero]; rfl
  | case2 n hn ih =>
      have hlow : (UInt8.ofNat n).toNat = n % 256 := UInt8.toNat_ofNat'
      rw [minimal_of_pos (Nat.pos_of_ne_zero hn), toNat_concat, ih, hlow]
      omega

theorem minimal_ne_nil {n : Nat} (h : 0 < n) : minimal n ≠ [] := by
  rw [minimal_of_pos h]
  simp

theorem head?_minimal (n : Nat) : (minimal n).head? ≠ some 0 := by
  induction n using minimal.induct with
  | case1 => simp [minimal_zero]
  | case2 n hn ih =>
      have hpos : 0 < n := Nat.pos_of_ne_zero hn
      rw [minimal_of_pos hpos, List.head?_append]
      rcases Nat.eq_zero_or_pos (n / 256) with hhigh | hhigh
      · -- A single byte is the number itself, which is not zero.
        have hbyte : (UInt8.ofNat n).toNat = n := by
          rw [UInt8.toNat_ofNat']
          omega
        rw [hhigh, minimal_zero]
        intro h
        have hzero : UInt8.ofNat n = 0 := Option.some.inj h
        rw [hzero] at hbyte
        exact hn hbyte.symm
      · obtain ⟨b, bs, hcons⟩ := List.exists_cons_of_ne_nil (minimal_ne_nil hhigh)
        rw [hcons] at ih ⊢
        exact ih

theorem length_minimal_le_iff {width n : Nat} : (minimal n).length ≤ width ↔ n < 256 ^ width := by
  induction width generalizing n with
  | zero =>
      rcases Nat.eq_zero_or_pos n with rfl | hpos
      · simp [minimal_zero]
      · have hlength : 0 < (minimal n).length := List.length_pos_iff.2 (minimal_ne_nil hpos)
        rw [Nat.pow_zero]
        omega
  | succ width ih =>
      rcases Nat.eq_zero_or_pos n with rfl | hpos
      · have hpow : 0 < 256 ^ (width + 1) := Nat.pow_pos (by decide)
        simp [minimal_zero, hpow]
      · rw [minimal_of_pos hpos, List.length_append, List.length_singleton, Nat.succ_le_succ_iff, ih,
          Nat.pow_succ]
        omega

theorem high_concat (n : Nat) (b : UInt8) : (256 * n + b.toNat) / 256 = n := by
  have hb := b.toNat_lt
  omega

theorem low_concat (n : Nat) (b : UInt8) : UInt8.ofNat (256 * n + b.toNat) = b := by
  have hb := b.toNat_lt
  apply UInt8.toNat_inj.1
  rw [UInt8.toNat_ofNat']
  omega

/-- The number of a byte string and its length give back the byte string. -/
theorem fixed_toNat (bs : Bytes) : fixed bs.length (toNat bs) = bs := by
  induction bs using List.reverseRecOn with
  | nil => rfl
  | append_singleton bs b ih =>
      rw [List.length_append, List.length_singleton, fixed, toNat_concat, high_concat, low_concat, ih]

theorem toNat_fixed (width n : Nat) : toNat (fixed width n) = n % 256 ^ width := by
  induction width generalizing n with
  | zero => exact (Nat.mod_one n).symm
  | succ width ih =>
      have hlow : (UInt8.ofNat n).toNat = n % 256 := UInt8.toNat_ofNat'
      rw [fixed, toNat_concat, ih, hlow, Nat.pow_succ, Nat.mul_comm (256 ^ width), Nat.mod_mul]
      omega

theorem minimal_concat {n : Nat} {b : UInt8} (h : 0 < 256 * n + b.toNat) :
    minimal (256 * n + b.toNat) = minimal n ++ [b] := by
  rw [minimal_of_pos h, high_concat, low_concat]

theorem toNat_lt (bs : Bytes) : toNat bs < 256 ^ bs.length := by
  have hlt : toNat bs % 256 ^ bs.length < 256 ^ bs.length := Nat.mod_lt _ (Nat.pow_pos (by decide))
  rwa [← toNat_fixed, fixed_toNat] at hlt

/-- Without its zeros in front a byte string is the form without leading zeros of its number. -/
theorem dropWhile_zero (bs : Bytes) : bs.dropWhile (· == 0) = minimal (toNat bs) := by
  induction bs using List.reverseRecOn with
  | nil => exact minimal_zero.symm
  | append_singleton bs b ih =>
      rw [List.dropWhile_append, ih, toNat_concat]
      rcases Nat.eq_zero_or_pos (toNat bs) with hzero | hpos
      · -- so far there are only zeros, and the last byte is a zero more or the number itself
        rw [hzero, minimal_zero, List.isEmpty_nil, if_pos rfl]
        by_cases hb : b = 0
        · rw [hb]
          exact minimal_zero.symm
        · have hne : b.toNat ≠ 0 := fun h => hb (UInt8.toNat_inj.1 h)
          rw [minimal_concat (Nat.pos_of_ne_zero (by omega)), minimal_zero]
          simp [hb]
      · have hne : minimal (toNat bs) ≠ [] := minimal_ne_nil hpos
        rw [minimal_concat (by omega), List.isEmpty_eq_false_iff.2 hne, if_neg Bool.false_ne_true]

end GasSponsor.Bytes
