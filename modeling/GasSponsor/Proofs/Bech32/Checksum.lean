import GasSponsor.Proofs.Bech32.Regroup

/-!
# The checksum

A step of the division is linear in exclusive or, and as long as the remainder has room to spare it only
puts the next unit behind those before. So six units change the remainder that six zeros leave by exactly
the number that they are, and the units of the checksum make it one.
-/

namespace GasSponsor.Bech32

def selected (rows : List (Nat × Nat)) (top : Nat) : Nat :=
  rows.foldl (fun c ig => if top.testBit ig.1 then c ^^^ ig.2 else c) 0

/-- What is taken off the remainder for its highest unit. -/
def reduction (top : Nat) : Nat := selected ((List.range 5).zip generators) top

theorem foldl_selected (rows : List (Nat × Nat)) (top start : Nat) :
    rows.foldl (fun c ig => if top.testBit ig.1 then c ^^^ ig.2 else c) start =
      start ^^^ selected rows top := by
  induction rows generalizing start with
  | nil => exact (Nat.xor_zero start).symm
  | cons row rows ih =>
      rw [selected, List.foldl_cons, List.foldl_cons, ih, ih (if top.testBit row.1 then _ else _)]
      split
      · rw [Nat.zero_xor, Nat.xor_assoc]
      · rw [Nat.zero_xor]

theorem selected_cons (row : Nat × Nat) (rows : List (Nat × Nat)) (top : Nat) :
    selected (row :: rows) top = (if top.testBit row.1 then row.2 else 0) ^^^ selected rows top := by
  rw [selected, List.foldl_cons, foldl_selected, Nat.zero_xor]

theorem selected_xor (rows : List (Nat × Nat)) (s t : Nat) :
    selected rows (s ^^^ t) = selected rows s ^^^ selected rows t := by
  induction rows with
  | nil => exact (Nat.xor_self 0).symm
  | cons row rows ih =>
      rw [selected_cons, selected_cons, selected_cons, ih, Nat.testBit_xor]
      have hswap : ∀ a b c d : Nat, (a ^^^ b) ^^^ (c ^^^ d) = (a ^^^ c) ^^^ (b ^^^ d) := by
        intro a b c d
        ac_rfl
      rw [hswap]
      congr 1
      cases s.testBit row.1 <;> cases t.testBit row.1 <;> simp

theorem selected_lt {rows : List (Nat × Nat)} {width : Nat} (h : ∀ row ∈ rows, row.2 < 2 ^ width)
    (top : Nat) : selected rows top < 2 ^ width := by
  induction rows with
  | nil => exact Nat.two_pow_pos width
  | cons row rows ih =>
      rw [selected_cons]
      refine Nat.xor_lt_two_pow ?_ (ih fun r hr => h r (List.mem_cons_of_mem row hr))
      split
      · exact h row List.mem_cons_self
      · exact Nat.two_pow_pos width

theorem polymodStep_eq (c unit : Nat) :
    polymodStep c unit = ((c &&& 0x1ffffff) <<< 5) ^^^ unit ^^^ reduction (c >>> 25) :=
  foldl_selected _ _ _

theorem polymodStep_unit (c unit : Nat) : polymodStep c unit = polymodStep c 0 ^^^ unit := by
  rw [polymodStep_eq, polymodStep_eq, Nat.xor_zero]
  ac_rfl

theorem polymodStep_xor (c d : Nat) :
    polymodStep (c ^^^ d) 0 = polymodStep c 0 ^^^ polymodStep d 0 := by
  simp only [polymodStep_eq, reduction, Nat.and_xor_distrib_right, Nat.shiftLeft_xor_distrib,
    Nat.shiftRight_xor_distrib, selected_xor, Nat.xor_zero]
  ac_rfl

/-- A remainder of at most five units is moved up by one. -/
theorem polymodStep_of_lt {c : Nat} (h : c < 2 ^ 25) : polymodStep c 0 = 32 * c := by
  have htop : c >>> 25 = 0 := by rw [Nat.shiftRight_eq_div_pow, Nat.div_eq_of_lt h]
  have hlow : c &&& 0x1ffffff = c := by
    rw [Nat.and_two_pow_sub_one_eq_mod c 25, Nat.mod_eq_of_lt h]
  have hnone : reduction 0 = 0 := rfl
  rw [polymodStep_eq, htop, hlow, hnone, Nat.xor_zero, Nat.xor_zero, Nat.shiftLeft_eq, Nat.mul_comm]

theorem polymodStep_lt (c : Nat) : polymodStep c 0 < 2 ^ 30 := by
  have hlow : c &&& 0x1ffffff < 2 ^ 25 := Nat.and_lt_two_pow c (by decide)
  have hshifted : (c &&& 0x1ffffff) <<< 5 < 2 ^ 30 := by
    rw [Nat.shiftLeft_eq]
    omega
  have hreduction : reduction (c >>> 25) < 2 ^ 30 := selected_lt (by decide) _
  rw [polymodStep_eq, Nat.xor_zero]
  exact Nat.xor_lt_two_pow hshifted hreduction

/-- A unit in the room that is left is taken in by adding it. -/
theorem xor_unit {unit : Nat} (h : unit < 32) (n : Nat) : 32 * n ^^^ unit = 32 * n + unit := by
  have hunit : unit < 2 ^ 5 := h
  apply Nat.eq_of_testBit_eq
  intro i
  have hadd := Nat.testBit_two_pow_mul_add n hunit i
  have hmul := Nat.testBit_two_pow_mul_add n (Nat.two_pow_pos 5) i
  rw [Nat.add_zero] at hmul
  change (2 ^ 5 * n ^^^ unit).testBit i = (2 ^ 5 * n + unit).testBit i
  rw [Nat.testBit_xor, hadd, hmul]
  split
  · rw [Nat.zero_testBit, Bool.false_xor]
  · next hi =>
      have hhigh : unit < 2 ^ i :=
        Nat.lt_of_lt_of_le hunit (Nat.pow_le_pow_right (by decide) (Nat.le_of_not_lt hi))
      rw [Nat.testBit_lt_two_pow hhigh, Bool.xor_false]

/-- Up to six units change the remainder by the number that they are. -/
theorem foldl_polymodStep {units : List Nat} (h : ∀ u ∈ units, u < 32) (hlength : units.length ≤ 6)
    (c : Nat) : units.foldl polymodStep c =
      (List.replicate units.length 0).foldl polymodStep c ^^^ join units := by
  induction units using List.reverseRecOn with
  | nil => exact (Nat.xor_zero c).symm
  | append_singleton units u ih =>
      rw [List.length_append, List.length_singleton] at hlength ⊢
      have hunits : ∀ v ∈ units, v < 32 := fun v hv => h v (List.mem_append_left _ hv)
      have hu : u < 32 := h u (by simp)
      -- the number of five units at most is not reduced in the next step
      have hroom : join units < 2 ^ 25 := by
        calc join units
            < 32 ^ units.length := join_lt hunits
          _ ≤ 32 ^ 5 := Nat.pow_le_pow_right (by decide) (by omega)
      rw [List.foldl_append, List.replicate_succ', List.foldl_append, ih hunits (by omega),
        List.foldl_cons, List.foldl_nil, List.foldl_cons, List.foldl_nil, polymodStep_unit,
        polymodStep_xor, polymodStep_of_lt hroom, Nat.xor_assoc, xor_unit hu, join_concat]

theorem polymod_append (front : List Nat) {units : List Nat} (h : ∀ u ∈ units, u < 32)
    (hlength : units.length = 6) :
    polymod (front ++ units) = polymod (front ++ List.replicate 6 0) ^^^ join units := by
  rw [polymod, polymod, List.foldl_append, List.foldl_append, foldl_polymodStep h hlength.le, hlength]

theorem polymod_zeros_lt (front : List Nat) : polymod (front ++ List.replicate 6 0) < 2 ^ 30 := by
  rw [polymod, List.replicate_succ', ← List.append_assoc, List.foldl_append]
  exact polymodStep_lt _

theorem checksum_eq (hrp : Bytes) (units : List Nat) : checksum hrp units =
    unitsOf 6 (polymod (expand hrp ++ units ++ List.replicate 6 0) ^^^ 1) := rfl

theorem checksum_lt (hrp : Bytes) (units : List Nat) : ∀ u ∈ checksum hrp units, u < 32 := by
  rw [checksum_eq]
  exact fun _ hu => unitsOf_lt hu

theorem length_checksum (hrp : Bytes) (units : List Nat) : (checksum hrp units).length = 6 := rfl

theorem polymod_checksum (hrp : Bytes) (units : List Nat) :
    polymod (expand hrp ++ units ++ checksum hrp units) = 1 := by
  have hlt := polymod_zeros_lt (expand hrp ++ units)
  have hrest : polymod (expand hrp ++ units ++ List.replicate 6 0) ^^^ 1 < 32 ^ 6 :=
    Nat.xor_lt_two_pow hlt (by decide)
  rw [polymod_append _ (checksum_lt hrp units) (length_checksum hrp units), checksum_eq, join_unitsOf,
    Nat.mod_eq_of_lt hrest, ← Nat.xor_assoc, Nat.xor_self, Nat.zero_xor]

end GasSponsor.Bech32
