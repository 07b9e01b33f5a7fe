import Mathlib.Tactic.Ring
import GasSponsor.Fee

/-!
# The base fee of the blocks to come

The base fee of a block is at most one part in `d` above that of the block before it. Compounded over
the lookahead and rounded down once, it covers every such series, however each block rounds: the
rounding of a block only lowers what the next one may rise from. Where the compounding is exact, the
steepest rise reaches the bound.
-/

namespace GasSponsor

def compounded (d blocks fee : Nat) : Nat := fee * (d + 1) ^ blocks / d ^ blocks

/-- The base fees of successive blocks. Each is at most one part in `d` above the one before it. -/
structure Rises (d blocks start : Nat) (fee : Nat → Nat) : Prop where
  start : fee 0 = start
  step : ∀ i < blocks, d * fee (i + 1) ≤ (d + 1) * fee i

theorem projectBaseFee_of_pos {d : UInt32} (hd : 0 < d) (fee : Nat) (lookahead : UInt32) :
    projectBaseFee fee d lookahead =
      .ok (max (compounded d.toNat lookahead.toNat fee) lookahead.toNat) := by
  have hne : d ≠ 0 := by
    rintro rfl
    exact absurd hd (by decide)
  rw [projectBaseFee, if_neg hne]
  rfl

theorem projectBaseFee_eq_ok {d lookahead : UInt32} {fee price : Nat} :
    projectBaseFee fee d lookahead = .ok price ↔
      0 < d ∧ price = max (compounded d.toNat lookahead.toNat fee) lookahead.toNat := by
  by_cases hd : d = 0
  · rw [projectBaseFee, if_pos hd, hd]
    exact ⟨nofun, fun h => absurd h.1 (by decide)⟩
  · have hpos : 0 < d := UInt32.pos_iff_ne_zero.2 hd
    rw [projectBaseFee_of_pos hpos, Except.ok.injEq, eq_comm]
    exact ⟨fun h => ⟨hpos, h⟩, fun h => h.2⟩

variable {d blocks start : Nat} {fee : Nat → Nat}

/-- The powers on both sides keep what the divisions of single blocks would round away. -/
theorem Rises.pow_mul_le (h : Rises d blocks start fee) {i : Nat} (hi : i ≤ blocks) :
    d ^ i * fee i ≤ (d + 1) ^ i * start := by
  induction i with
  | zero => simp [h.start]
  | succ i ih =>
      have hbefore : d ^ i * fee i ≤ (d + 1) ^ i * start := ih (Nat.le_of_succ_le hi)
      have hstep : d * fee (i + 1) ≤ (d + 1) * fee i := h.step i hi
      calc d ^ (i + 1) * fee (i + 1)
          = d ^ i * (d * fee (i + 1)) := by ring
        _ ≤ d ^ i * ((d + 1) * fee i) := Nat.mul_le_mul_left _ hstep
        _ = (d + 1) * (d ^ i * fee i) := by ring
        _ ≤ (d + 1) * ((d + 1) ^ i * start) := Nat.mul_le_mul_left _ hbefore
        _ = (d + 1) ^ (i + 1) * start := by ring

theorem compounded_le_succ (hd : 0 < d) (i start : Nat) :
    compounded d i start ≤ compounded d (i + 1) start := by
  have hbelow : compounded d i start * d ^ i ≤ start * (d + 1) ^ i := Nat.div_mul_le_self _ _
  apply (Nat.le_div_iff_mul_le (Nat.pow_pos hd)).2
  calc compounded d i start * d ^ (i + 1)
      = compounded d i start * d ^ i * d := by ring
    _ ≤ start * (d + 1) ^ i * (d + 1) := Nat.mul_le_mul hbelow (Nat.le_succ d)
    _ = start * (d + 1) ^ (i + 1) := by ring

theorem compounded_mono (hd : 0 < d) {i j : Nat} (h : i ≤ j) (start : Nat) :
    compounded d i start ≤ compounded d j start := by
  induction h with
  | refl => exact Nat.le_refl _
  | step _ ih => exact Nat.le_trans ih (compounded_le_succ hd _ start)

theorem le_compounded (hd : 0 < d) (blocks start : Nat) : start ≤ compounded d blocks start := by
  have hnone : compounded d 0 start = start := by
    rw [compounded, Nat.pow_zero, Nat.pow_zero, Nat.mul_one, Nat.div_one]
  calc start = compounded d 0 start := hnone.symm
    _ ≤ compounded d blocks start := compounded_mono hd (Nat.zero_le blocks) start

theorem Rises.le_compounded (h : Rises d blocks start fee) (hd : 0 < d) {i : Nat}
    (hi : i ≤ blocks) : fee i ≤ compounded d blocks start := by
  have hpow : d ^ i * fee i ≤ (d + 1) ^ i * start := h.pow_mul_le hi
  have hblock : fee i ≤ compounded d i start := by
    apply (Nat.le_div_iff_mul_le (Nat.pow_pos hd)).2
    rwa [Nat.mul_comm (fee i), Nat.mul_comm start]
  exact Nat.le_trans hblock (compounded_mono hd hi start)

theorem le_of_projectBaseFee {d lookahead : UInt32} {start price : Nat}
    (h : projectBaseFee start d lookahead = .ok price) : start ≤ price := by
  obtain ⟨hd, rfl⟩ := projectBaseFee_eq_ok.1 h
  have hpos : 0 < d.toNat := UInt32.lt_iff_toNat_lt.1 hd
  exact Nat.le_trans (le_compounded hpos _ start) (Nat.le_max_left _ _)

def steepest (d blocks part i : Nat) : Nat := part * (d + 1) ^ i * d ^ (blocks - i)

theorem rises_steepest (d blocks part : Nat) :
    Rises d blocks (d ^ blocks * part) (steepest d blocks part) := by
  constructor
  · rw [steepest, Nat.sub_zero]
    ring
  · intro i hi
    have hleft : blocks - i = blocks - (i + 1) + 1 := by omega
    apply Nat.le_of_eq
    rw [steepest, steepest, hleft]
    ring

theorem steepest_last (hd : 0 < d) (blocks part : Nat) :
    steepest d blocks part blocks = compounded d blocks (d ^ blocks * part) := by
  have hexact : d ^ blocks * part * (d + 1) ^ blocks = part * (d + 1) ^ blocks * d ^ blocks := by
    ring
  rw [steepest, Nat.sub_self, Nat.pow_zero, Nat.mul_one, compounded, hexact,
    Nat.mul_div_cancel _ (Nat.pow_pos hd)]

/-- The projection covers the base fee of every block of the lookahead. Some series reaches it if the
compounding is exact and comes to no less than the number of blocks. -/
theorem projectBaseFee_covers {d : UInt32} (hd : 0 < d) (start : Nat) (lookahead : UInt32) :
    ∃ bound, projectBaseFee start d lookahead = .ok bound ∧
      (∀ fee, Rises d.toNat lookahead.toNat start fee → ∀ i ≤ lookahead.toNat, fee i ≤ bound) ∧
      (d.toNat ^ lookahead.toNat ∣ start →
        lookahead.toNat ≤ compounded d.toNat lookahead.toNat start →
        ∃ fee, Rises d.toNat lookahead.toNat start fee ∧ fee lookahead.toNat = bound) := by
  have hpos : 0 < d.toNat := UInt32.lt_iff_toNat_lt.1 hd
  refine ⟨_, projectBaseFee_of_pos hd start lookahead, ?_, ?_⟩
  · intro fee hrises i hi
    exact Nat.le_trans (hrises.le_compounded hpos hi) (Nat.le_max_left _ _)
  · rintro ⟨part, rfl⟩ hfloor
    refine ⟨steepest d.toNat lookahead.toNat part, rises_steepest _ _ part, ?_⟩
    rw [steepest_last hpos, Nat.max_eq_left hfloor]

theorem projectBaseFee_covers_two_blocks :
    (0 : UInt32) < 8 ∧ projectBaseFee 128 8 2 = .ok 162 ∧
    (∀ fee, Rises 8 2 128 fee → fee 1 ≤ 162 ∧ fee 2 ≤ 162) ∧
    ∃ fee, Rises 8 2 128 fee ∧ fee 2 = 162 := by
  have height : (0 : UInt32) < 8 := by decide
  obtain ⟨bound, hbound, hcovers, hreached⟩ := projectBaseFee_covers height 128 2
  have hvalue : projectBaseFee 128 8 2 = .ok 162 := rfl
  obtain rfl : 162 = bound := Except.ok.inj (hvalue.symm.trans hbound)
  refine ⟨height, hvalue, fun fee h => ⟨hcovers fee h 1 (by decide), hcovers fee h 2 (by decide)⟩, ?_⟩
  exact hreached (by decide) (by decide)

end GasSponsor
