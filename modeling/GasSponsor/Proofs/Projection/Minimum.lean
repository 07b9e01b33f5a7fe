import GasSponsor.Proofs.Projection
import GasSponsor.Proofs.Quote

/-!
# Base fees that rise by whole units

A fee market whose blocks round down may still raise a small base fee by one unit in each block. Such
a rise is the steeper one as long as the base fee is below the denominator. From the denominator on
the compounding covers every series of blocks; below it, no lookahead that ends below it is covered.
-/

namespace GasSponsor

open Program

/-- The highest base fee after a block: one part in `d` more, and at least one unit more. -/
def raised (d fee : Nat) : Nat := fee + max (fee / d) 1

def highest (d start : Nat) : Nat → Nat
  | 0 => start
  | blocks + 1 => raised d (highest d start blocks)

structure Climbs (d blocks start : Nat) (fee : Nat → Nat) : Prop where
  start : fee 0 = start
  step : ∀ i < blocks, fee (i + 1) ≤ raised d (fee i)

def Covers (d blocks start bound : Nat) : Prop :=
  ∀ fee, Climbs d blocks start fee → ∀ i ≤ blocks, fee i ≤ bound

section

variable {d blocks start bound : Nat} {fee : Nat → Nat}

theorem raised_mono (d : Nat) {a b : Nat} (h : a ≤ b) : raised d a ≤ raised d b := by
  have hpart : a / d ≤ b / d := Nat.div_le_div_right h
  unfold raised
  omega

theorem succ_le_raised (d fee : Nat) : fee + 1 ≤ raised d fee :=
  Nat.add_le_add_left (Nat.le_max_right _ _) fee

theorem highest_mono (d : Nat) {a b : Nat} (h : a ≤ b) (i : Nat) :
    highest d a i ≤ highest d b i := by
  induction i with
  | zero => exact h
  | succ i ih => exact raised_mono d ih

theorem add_le_highest (d start i : Nat) : start + i ≤ highest d start i := by
  induction i with
  | zero => exact Nat.le_refl start
  | succ i ih =>
      have hstep : highest d start i + 1 ≤ highest d start (i + 1) := succ_le_raised d _
      omega

theorem highest_le_of_le (d start : Nat) {i j : Nat} (h : i ≤ j) :
    highest d start i ≤ highest d start j := by
  induction j, h using Nat.le_induction with
  | base => exact Nat.le_refl _
  | succ j _ ih =>
      have hstep : highest d start j + 1 ≤ highest d start (j + 1) := succ_le_raised d _
      omega

theorem climbs_highest (d blocks start : Nat) : Climbs d blocks start (highest d start) :=
  ⟨rfl, fun _ _ => Nat.le_refl _⟩

theorem Climbs.le_highest (h : Climbs d blocks start fee) {i : Nat} (hi : i ≤ blocks) :
    fee i ≤ highest d start i := by
  induction i with
  | zero => exact Nat.le_of_eq h.start
  | succ i ih =>
      have hbefore : fee i ≤ highest d start i := ih (Nat.le_of_succ_le hi)
      exact Nat.le_trans (h.step i hi) (raised_mono d hbefore)

/-- The highest series is the only one to be looked at, and its last block the only block. -/
theorem covers_iff : Covers d blocks start bound ↔ highest d start blocks ≤ bound := by
  constructor
  · intro h
    exact h _ (climbs_highest d blocks start) blocks (Nat.le_refl _)
  · intro h fee hfee i hi
    exact Nat.le_trans (hfee.le_highest hi) (Nat.le_trans (highest_le_of_le d start hi) h)

/-- From the denominator on, a unit is never more than the part. -/
theorem rises_highest (hd : 0 < d) (hstart : d ≤ start) (blocks : Nat) :
    Rises d blocks start (highest d start) := by
  refine ⟨rfl, fun i _ => ?_⟩
  have hlarge : d ≤ highest d start i := Nat.le_trans hstart (highest_le_of_le d start (Nat.zero_le i))
  have hunit : 1 ≤ highest d start i / d := (Nat.one_le_div_iff hd).2 hlarge
  have hpart : d * (highest d start i / d) ≤ highest d start i := Nat.mul_div_le _ d
  have hmax : max (highest d start i / d) 1 = highest d start i / d := Nat.max_eq_left hunit
  calc d * highest d start (i + 1)
      = d * (highest d start i + highest d start i / d) := by rw [highest, raised, hmax]
    _ = d * highest d start i + d * (highest d start i / d) := Nat.mul_add _ _ _
    _ ≤ d * highest d start i + highest d start i := Nat.add_le_add_left hpart _
    _ = (d + 1) * highest d start i := by ring

theorem highest_le_compounded (hd : 0 < d) (hstart : d ≤ start) (blocks : Nat) :
    highest d start blocks ≤ compounded d blocks start :=
  (rises_highest hd hstart blocks).le_compounded hd (Nat.le_refl _)

/-- The compounding of the room that is left below the denominator does not fill it. -/
theorem room_mul_pow_lt {blocks d : Nat} (hpos : 0 < blocks) (hroom : blocks ≤ d) :
    (d - blocks) * (d + 1) ^ blocks < d * d ^ blocks := by
  induction blocks, hpos using Nat.le_induction with
  | base =>
      obtain ⟨room, rfl⟩ := Nat.exists_eq_add_of_le' hroom
      simp only [Nat.pow_one, Nat.add_sub_cancel]
      calc room * (room + 1 + 1) < room * (room + 1 + 1) + 1 := Nat.lt_succ_self _
        _ = (room + 1) * (room + 1) := by ring
  | succ blocks _ ih =>
      obtain ⟨room, rfl⟩ := Nat.exists_eq_add_of_le' hroom
      have hbefore : (room + 1) * (room + (blocks + 1) + 1) ^ blocks <
          (room + (blocks + 1)) * (room + (blocks + 1)) ^ blocks := by
        have hleft : room + (blocks + 1) - blocks = room + 1 := by omega
        have hfewer := ih (by omega)
        rwa [hleft] at hfewer
      have hfactor : room * (room + (blocks + 1) + 1) ≤ (room + (blocks + 1)) * (room + 1) := by
        calc room * (room + (blocks + 1) + 1)
            ≤ room * (room + (blocks + 1) + 1) + (blocks + 1) := Nat.le_add_right _ _
          _ = (room + (blocks + 1)) * (room + 1) := by ring
      have hd : 0 < room + (blocks + 1) := by omega
      rw [Nat.add_sub_cancel]
      calc room * (room + (blocks + 1) + 1) ^ (blocks + 1)
          = room * (room + (blocks + 1) + 1) * (room + (blocks + 1) + 1) ^ blocks := by ring
        _ ≤ (room + (blocks + 1)) * (room + 1) * (room + (blocks + 1) + 1) ^ blocks :=
            Nat.mul_le_mul_right _ hfactor
        _ = (room + (blocks + 1)) * ((room + 1) * (room + (blocks + 1) + 1) ^ blocks) := by ring
        _ < (room + (blocks + 1)) * ((room + (blocks + 1)) * (room + (blocks + 1)) ^ blocks) :=
            Nat.mul_lt_mul_of_pos_left hbefore hd
        _ = (room + (blocks + 1)) * (room + (blocks + 1)) ^ (blocks + 1) := by ring

/-- A base fee that units would not bring above the denominator is compounded to less than that. -/
theorem compounded_lt_add (hblocks : 0 < blocks) (hlow : start + blocks ≤ d) :
    compounded d blocks start < start + blocks := by
  have hd : 0 < d := by omega
  have hroom : (d - blocks) * (d + 1) ^ blocks < d * d ^ blocks :=
    room_mul_pow_lt hblocks (by omega)
  have hshare : start * d ≤ (start + blocks) * (d - blocks) := by
    obtain ⟨room, rfl⟩ := Nat.exists_eq_add_of_le hlow
    have hleft : start + blocks + room - blocks = start + room := by omega
    rw [hleft]
    calc start * (start + blocks + room)
        ≤ start * (start + blocks + room) + blocks * room := Nat.le_add_right _ _
      _ = (start + blocks) * (start + room) := by ring
  apply (Nat.div_lt_iff_lt_mul (Nat.pow_pos hd)).2
  apply Nat.lt_of_mul_lt_mul_left (a := d)
  calc d * (start * (d + 1) ^ blocks)
      = start * d * (d + 1) ^ blocks := by ring
    _ ≤ (start + blocks) * (d - blocks) * (d + 1) ^ blocks := Nat.mul_le_mul_right _ hshare
    _ = (start + blocks) * ((d - blocks) * (d + 1) ^ blocks) := by ring
    _ < (start + blocks) * (d * d ^ blocks) := Nat.mul_lt_mul_of_pos_left hroom (by omega)
    _ = d * ((start + blocks) * d ^ blocks) := by ring

end

/-- An estimate that was told a base fee and a denominator quotes their projection. -/
theorem FeeEstimator.amount_of_completes {e : FeeEstimator} {gas : UInt64} {denom : String}
    {xs : List Exchange} {quote : FeeQuote} {height : UInt64} {start price : Nat} {d : UInt32}
    (h : Completes (e.estimate gas denom) xs (.ok quote))
    (hbase : ⟨.baseFee height, some (.ok (some start))⟩ ∈ xs)
    (hparams : ⟨.feeMarketParams, some (.ok d)⟩ ∈ xs)
    (hprice : projectBaseFee start d e.lookahead = .ok price) :
    quote.amount = price * gas.toNat := by
  cases quoted_of_completes h with
  | free height => simp at hparams
  | current height fee hfee hpolicy => simp at hparams
  | projected block fee denominator price' hfee hpolicy hprojected =>
      obtain ⟨-, rfl⟩ : height = block ∧ start = fee := by simpa using hbase
      obtain rfl : d = denominator := by simpa using hparams
      rw [hprice] at hprojected
      obtain rfl : price = price' := Except.ok.inj hprojected
      rfl

/-- The compounded base fee is projected, but no less than a unit for each block. This covers a fee
market that raises a base fee by at least a unit in each block if the base fee is no less than the
denominator, and so does what is projected from the denominator if it is less. A base fee that units
leave below the denominator is never covered. -/
theorem projection_covers_units {d : UInt32} (hd : 0 < d) (start : Nat) (lookahead : UInt32) :
    ∃ bound, projectBaseFee start d lookahead = .ok bound ∧
      bound = max (compounded d.toNat lookahead.toNat start) lookahead.toNat ∧
      (Covers d.toNat lookahead.toNat start bound ↔
        highest d.toNat start lookahead.toNat ≤ bound) ∧
      (d.toNat ≤ start → Covers d.toNat lookahead.toNat start bound) ∧
      (0 < start → 0 < lookahead.toNat → start + lookahead.toNat ≤ d.toNat →
        ¬ Covers d.toNat lookahead.toNat start bound) ∧
      (∃ wider, projectBaseFee (max start d.toNat) d lookahead = .ok wider ∧
        Covers d.toNat lookahead.toNat start wider) ∧
      ∀ (e : FeeEstimator) (gas : UInt64) (denom : String) (xs : List Exchange) (quote : FeeQuote)
        (height : UInt64), e.lookahead = lookahead →
        Completes (e.estimate gas denom) xs (.ok quote) →
        ⟨.baseFee height, some (.ok (some start))⟩ ∈ xs →
        ⟨.feeMarketParams, some (.ok d)⟩ ∈ xs →
        quote.amount = bound * gas.toNat ∧
        (d.toNat ≤ start → ∀ fee, Climbs d.toNat lookahead.toNat start fee →
          ∀ i ≤ lookahead.toNat, fee i * gas.toNat ≤ quote.amount) := by
  have hpos : 0 < d.toNat := UInt32.lt_iff_toNat_lt.1 hd
  have hprice := projectBaseFee_of_pos hd start lookahead
  have hcovers : d.toNat ≤ start → Covers d.toNat lookahead.toNat start
      (max (compounded d.toNat lookahead.toNat start) lookahead.toNat) := by
    intro hstart
    have hhighest := highest_le_compounded hpos hstart lookahead.toNat
    exact covers_iff.2 (Nat.le_trans hhighest (Nat.le_max_left _ _))
  refine ⟨_, hprice, rfl, covers_iff, hcovers, ?_, ?_, ?_⟩
  · intro hstart hblocks hlow hall
    have hhighest : highest d.toNat start lookahead.toNat ≤
        max (compounded d.toNat lookahead.toNat start) lookahead.toNat := covers_iff.1 hall
    have hunits : start + lookahead.toNat ≤ highest d.toNat start lookahead.toNat :=
      add_le_highest d.toNat start lookahead.toNat
    have hshort : compounded d.toNat lookahead.toNat start < start + lookahead.toNat :=
      compounded_lt_add hblocks hlow
    omega
  · refine ⟨_, projectBaseFee_of_pos hd _ lookahead, covers_iff.2 ?_⟩
    calc highest d.toNat start lookahead.toNat
        ≤ highest d.toNat (max start d.toNat) lookahead.toNat :=
          highest_mono d.toNat (Nat.le_max_left _ _) _
      _ ≤ compounded d.toNat lookahead.toNat (max start d.toNat) :=
          highest_le_compounded hpos (Nat.le_max_right _ _) _
      _ ≤ max (compounded d.toNat lookahead.toNat (max start d.toNat)) lookahead.toNat :=
          Nat.le_max_left _ _
  · rintro e gas denom xs quote height rfl h hbase hparams
    have hamount := FeeEstimator.amount_of_completes h hbase hparams hprice
    refine ⟨hamount, fun hstart fee hfee i hi => ?_⟩
    rw [hamount]
    exact Nat.mul_le_mul_right _ (hcovers hstart fee hfee i hi)

theorem projection_covers_units_from_denominator :
    (0 : UInt32) < 8 ∧ projectBaseFee 8 8 2 = .ok 10 ∧ Covers 8 2 8 10 := by
  have hpos : (0 : UInt32) < 8 := by decide
  obtain ⟨bound, hbound, _, _, hcovers, _⟩ := projection_covers_units hpos 8 2
  have hvalue : projectBaseFee 8 8 2 = .ok 10 := rfl
  obtain rfl : 10 = bound := Except.ok.inj (hvalue.symm.trans hbound)
  exact ⟨hpos, hvalue, hcovers (by decide)⟩

/-- A base fee of one may be two after one block, and is projected to one. -/
theorem unit_step_not_projected :
    projectBaseFee 1 8 1 = .ok 1 ∧ ∃ fee, Climbs 8 1 1 fee ∧ fee 1 = 2 :=
  ⟨rfl, highest 8 1, climbs_highest 8 1 1, rfl⟩

end GasSponsor
