import Mathlib.Algebra.Order.Ring.Nat
import GasSponsor.Bech32
import GasSponsor.Proofs.Bytes.Number

/-!
# Units of five bits

Bytes and units of five bits are two ways to cut one row of bits. The units made from a byte string
hold its bits in their order, filled up with zeros, and give the byte string back.
-/

namespace GasSponsor.Bech32

/-- The number whose digits to the base 32 are the units. -/
def join (units : List Nat) : Nat := units.foldl (fun n u => 32 * n + u) 0

def unitsOf (count value : Nat) : List Nat :=
  (List.range count).map fun i => (value >>> (5 * (count - 1 - i))) % 32

/-- The lowest bits of a number, the highest of them first. -/
def bits (width n : Nat) : List Bool := (List.range width).map fun i => n.testBit (width - 1 - i)

theorem join_concat (units : List Nat) (u : Nat) : join (units ++ [u]) = 32 * join units + u :=
  List.foldl_append

@[simp] theorem length_unitsOf (count value : Nat) : (unitsOf count value).length = count := by
  rw [unitsOf, List.length_map, List.length_range]

theorem unitsOf_lt {count value u : Nat} (h : u ∈ unitsOf count value) : u < 32 := by
  obtain ⟨i, -, rfl⟩ := List.mem_map.1 h
  exact Nat.mod_lt _ (by decide)

theorem unitsOf_succ (count value : Nat) :
    unitsOf (count + 1) value = unitsOf count (value >>> 5) ++ [value % 32] := by
  rw [unitsOf, List.range_succ, List.map_append, List.map_singleton]
  congr 1
  · apply List.map_congr_left
    intro i hi
    have hlt : i < count := List.mem_range.1 hi
    rw [← Nat.shiftRight_add]
    congr 2
    omega
  · rw [Nat.add_sub_cancel, Nat.sub_self, Nat.mul_zero, Nat.shiftRight_zero]

theorem join_unitsOf (count value : Nat) : join (unitsOf count value) = value % 32 ^ count := by
  induction count generalizing value with
  | zero => exact (Nat.mod_one value).symm
  | succ count ih =>
      have hhigh : value >>> 5 = value / 32 := Nat.shiftRight_eq_div_pow value 5
      rw [unitsOf_succ, join_concat, ih, hhigh, Nat.pow_succ, Nat.mul_comm (32 ^ count), Nat.mod_mul]
      omega

theorem join_lt {units : List Nat} (h : ∀ u ∈ units, u < 32) : join units < 32 ^ units.length := by
  induction units using List.reverseRecOn with
  | nil => exact Nat.one_pos
  | append_singleton units u ih =>
      have hunits := ih fun v hv => h v (List.mem_append_left _ hv)
      have hu : u < 32 := h u (by simp)
      rw [join_concat, List.length_append, List.length_singleton, Nat.pow_succ]
      omega

theorem bits_append {width low : Nat} (count high : Nat) (h : low < 2 ^ width) :
    bits (count + width) (2 ^ width * high + low) = bits count high ++ bits width low := by
  rw [bits, List.range_add, List.map_append, List.map_map]
  congr 1
  · apply List.map_congr_left
    intro i hi
    have hlt : i < count := List.mem_range.1 hi
    rw [Nat.testBit_two_pow_mul_add _ h, if_neg (by omega)]
    congr 1
    omega
  · apply List.map_congr_left
    intro i hi
    have hlt : i < width := List.mem_range.1 hi
    rw [Function.comp_apply, Nat.testBit_two_pow_mul_add _ h, if_pos (by omega)]
    congr 1
    omega

/-- The units hold the bits of their number. -/
theorem flatMap_bits {units : List Nat} (h : ∀ u ∈ units, u < 32) :
    units.flatMap (bits 5) = bits (5 * units.length) (join units) := by
  induction units using List.reverseRecOn with
  | nil => rfl
  | append_singleton units u ih =>
      have hunits := ih fun v hv => h v (List.mem_append_left _ hv)
      have hu : u < 2 ^ 5 := h u (by simp)
      rw [List.flatMap_append, hunits, List.flatMap_singleton, join_concat, List.length_append,
        List.length_singleton, Nat.mul_add]
      exact (bits_append _ _ hu).symm

/-- The bytes hold the bits of their number. -/
theorem flatMap_bits_toNat (bs : Bytes) :
    bs.flatMap (fun b => bits 8 b.toNat) = bits (8 * bs.length) bs.toNat := by
  induction bs using List.reverseRecOn with
  | nil => rfl
  | append_singleton bs b ih =>
      have hb : b.toNat < 2 ^ 8 := b.toNat_lt
      rw [List.flatMap_append, ih, List.flatMap_singleton, Bytes.toNat_concat, List.length_append,
        List.length_singleton, Nat.mul_add]
      exact (bits_append _ _ hb).symm

def filling (bs : Bytes) : Nat := 5 * ((8 * bs.length + 4) / 5) - 8 * bs.length

theorem regroup_eq (bs : Bytes) :
    regroup bs = unitsOf ((8 * bs.length + 4) / 5) (bs.toNat <<< filling bs) := rfl

theorem length_regroup (bs : Bytes) : 5 * (regroup bs).length = 8 * bs.length + filling bs := by
  rw [regroup_eq, length_unitsOf, filling]
  omega

theorem regroup_lt (bs : Bytes) : ∀ u ∈ regroup bs, u < 32 := fun _ hu => unitsOf_lt hu

theorem join_regroup (bs : Bytes) : join (regroup bs) = bs.toNat <<< filling bs := by
  have hbits : 5 * ((8 * bs.length + 4) / 5) = 8 * bs.length + filling bs := by
    rw [filling]
    omega
  have hlt : bs.toNat <<< filling bs < 32 ^ ((8 * bs.length + 4) / 5) := by
    calc bs.toNat <<< filling bs
        = bs.toNat * 2 ^ filling bs := Nat.shiftLeft_eq _ _
      _ < (2 ^ 8) ^ bs.length * 2 ^ filling bs :=
          Nat.mul_lt_mul_of_pos_right (Bytes.toNat_lt bs) (Nat.two_pow_pos _)
      _ = 2 ^ (5 * ((8 * bs.length + 4) / 5)) := by rw [hbits, Nat.pow_add, Nat.pow_mul]
      _ = 32 ^ ((8 * bs.length + 4) / 5) := Nat.pow_mul 2 5 _
  rw [regroup_eq, join_unitsOf, Nat.mod_eq_of_lt hlt]

theorem bits_zero (count : Nat) : bits count 0 = List.replicate count false := by
  simp [bits, List.map_const']

/-- The units of a byte string hold its bits, and then zeros. -/
theorem flatMap_bits_regroup (bs : Bytes) :
    (regroup bs).flatMap (bits 5) =
      bs.flatMap (fun b => bits 8 b.toNat) ++ List.replicate (filling bs) false := by
  have hjoin : join (regroup bs) = 2 ^ filling bs * bs.toNat + 0 := by
    rw [join_regroup, Nat.shiftLeft_eq, Nat.mul_comm, Nat.add_zero]
  rw [flatMap_bits (regroup_lt bs), length_regroup, hjoin,
    bits_append _ _ (Nat.two_pow_pos (filling bs)), flatMap_bits_toNat, bits_zero]

theorem ungroup_regroup (bs : Bytes) : ungroup (regroup bs) = bs := by
  have hfilling : filling bs < 8 := by
    rw [filling]
    omega
  have hwhole : 5 * (regroup bs).length / 8 = bs.length := by
    rw [length_regroup]
    omega
  have hover : 5 * (regroup bs).length % 8 = filling bs := by
    rw [length_regroup]
    omega
  have hungroup : ungroup (regroup bs) = Bytes.fixed (5 * (regroup bs).length / 8)
      (join (regroup bs) >>> (5 * (regroup bs).length % 8)) := rfl
  rw [hungroup, hwhole, hover, join_regroup, Nat.shiftLeft_shiftRight, Bytes.fixed_toNat]

end GasSponsor.Bech32
