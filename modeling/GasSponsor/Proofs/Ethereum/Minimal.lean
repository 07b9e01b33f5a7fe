import Mathlib.Order.Bounds.Defs
import GasSponsor.Proofs.Ethereum.LedgerForm

/-!
# The numbers of a signature as bytes

The ledger has the numbers of a signature in as few bytes as can hold them. They are the bytes of the
word from the first that is not zero on, and the only bytes without a zero in front that denote the
number, so that no other number has them.
-/

namespace GasSponsor.Ethereum

theorem toNat_minimalBytes (x : Word) : (minimalBytes x).toNat = x.toNat :=
  Bytes.toNat_minimal x.toNat

/-- Whatever bytes denote the number, they are its shortest form behind zeros. -/
theorem dropWhile_of_toNat {x : Word} {bs : Bytes} (h : bs.toNat = x.toNat) :
    bs.dropWhile (· == 0) = minimalBytes x := by
  rw [Bytes.dropWhile_zero, h, minimalBytes]

/-- The bytes of the word, from the first that is not zero on. -/
theorem minimalBytes_eq_dropWhile (x : Word) :
    minimalBytes x = (Bytes.fixed 32 x.toNat).dropWhile (· == 0) := by
  have hbound : x.toNat < 256 ^ 32 := x.isLt
  have hfixed : (Bytes.fixed 32 x.toNat).toNat = x.toNat := by
    rw [Bytes.toNat_fixed, Nat.mod_eq_of_lt hbound]
  exact (dropWhile_of_toNat hfixed).symm

theorem eq_minimalBytes_iff {x : Word} {bs : Bytes} :
    bs = minimalBytes x ↔ bs.toNat = x.toNat ∧ bs.head? ≠ some 0 := by
  constructor
  · rintro rfl
    exact ⟨toNat_minimalBytes x, Bytes.head?_minimal x.toNat⟩
  · rintro ⟨h, hhead⟩
    rw [← dropWhile_of_toNat h]
    cases bs with
    | nil => rfl
    | cons b bs =>
        have hb : ¬ (b == 0) = true := fun hzero => hhead (congrArg some (eq_of_beq hzero))
        exact (List.dropWhile_cons_of_neg (p := (· == 0)) hb).symm

theorem minimalBytes_eq_nil {x : Word} : minimalBytes x = [] ↔ x = 0 := by
  constructor
  · intro h
    have hzero := toNat_minimalBytes x
    rw [h] at hzero
    exact BitVec.eq_of_toNat_eq hzero.symm
  · rintro rfl
    exact Bytes.minimal_zero

theorem minimalBytes_injective : Function.Injective minimalBytes := by
  intro x y h
  apply BitVec.eq_of_toNat_eq
  rw [← toNat_minimalBytes x, h, toNat_minimalBytes]

/-- No fewer bytes can hold the number. -/
theorem isLeast_length_minimalBytes (x : Word) :
    IsLeast {width | ∃ bs : Bytes, bs.length = width ∧ bs.toNat = x.toNat}
      (minimalBytes x).length := by
  refine ⟨⟨minimalBytes x, rfl, toNat_minimalBytes x⟩, ?_⟩
  rintro width ⟨bs, rfl, h⟩
  rw [← dropWhile_of_toNat h]
  exact (List.dropWhile_suffix _).length_le

theorem minimalBytes_ofNat {n : Nat} (h : n < UInt64.size) :
    minimalBytes (BitVec.ofNat 256 n) = Bytes.minimal n := by
  have hword : n < 2 ^ 256 := Nat.lt_trans h (by decide)
  rw [minimalBytes, BitVec.toNat_ofNat, Nat.mod_eq_of_lt hword]

/-- A word is written as the only bytes without a zero in front that denote it: the bytes of the word
from the first that is not zero on, as many as are needed to hold it, and none for zero. In this form
the ledger has all numbers of a signature, also `v` and the recovery code. -/
theorem minimalBytes_shortest :
    (∀ x : Word,
      (minimalBytes x).toNat = x.toNat ∧ (minimalBytes x).head? ≠ some 0 ∧
      (minimalBytes x = [] ↔ x = 0) ∧
      IsLeast {width | ∃ bs : Bytes, bs.length = width ∧ bs.toNat = x.toNat}
        (minimalBytes x).length ∧
      minimalBytes x = (Bytes.fixed 32 x.toNat).dropWhile (· == 0) ∧
      ∀ bs : Bytes, bs = minimalBytes x ↔ bs.toNat = x.toNat ∧ bs.head? ≠ some 0) ∧
    Function.Injective minimalBytes ∧
    ∀ g : Signature, Bytes.minimal g.v.toNat = minimalBytes (widen g.v) ∧
      parityBytes g = minimalBytes (BitVec.ofNat 256 g.recoveryCode) := by
  refine ⟨fun x => ?_, minimalBytes_injective, fun g => ⟨?_, ?_⟩⟩
  · exact ⟨toNat_minimalBytes x, Bytes.head?_minimal x.toNat, minimalBytes_eq_nil,
      isLeast_length_minimalBytes x, minimalBytes_eq_dropWhile x, fun _ => eq_minimalBytes_iff⟩
  · exact (minimalBytes_ofNat g.v.toNat_lt).symm
  · have hcode : g.recoveryCode < UInt64.size := Nat.lt_trans g.recoveryCode_lt (by decide)
    exact (minimalBytes_ofNat hcode).symm

end GasSponsor.Ethereum
