import GasSponsor.Proofs.Quote.Answers

/-!
# Prices that grow with what they are made of

A higher base fee, a longer lookahead and a lower denominator never lower a projection, and no
projection lies below the base fee that it starts from. So a quote is never higher than another whose
answers, gas limit and policy all ask for at least as much.
-/

namespace GasSponsor

section

variable {d d' : Nat}

theorem compounded_mono_start (d blocks : Nat) {start start' : Nat} (h : start ≤ start') :
    compounded d blocks start ≤ compounded d blocks start' :=
  Nat.div_le_div_right (Nat.mul_le_mul_right _ h)

/-- The rise of a block is one part in the denominator, and so the less the larger it is. -/
theorem compounded_antitone (hd : 0 < d') (h : d' ≤ d) (blocks start : Nat) :
    compounded d blocks start ≤ compounded d' blocks start := by
  have hrise : (d + 1) * d' ≤ (d' + 1) * d := by
    calc (d + 1) * d' = d * d' + d' := by ring
      _ ≤ d * d' + d := Nat.add_le_add_left h _
      _ = (d' + 1) * d := by ring
  have hpow : (d + 1) ^ blocks * d' ^ blocks ≤ (d' + 1) ^ blocks * d ^ blocks := by
    rw [← Nat.mul_pow, ← Nat.mul_pow]
    exact Nat.pow_le_pow_left hrise blocks
  have hpos : 0 < d ^ blocks := Nat.pow_pos (Nat.lt_of_lt_of_le hd h)
  have hbelow : compounded d blocks start * d ^ blocks ≤ start * (d + 1) ^ blocks :=
    Nat.div_mul_le_self _ _
  apply (Nat.le_div_iff_mul_le (Nat.pow_pos hd)).2
  apply Nat.le_of_mul_le_mul_right _ hpos
  calc compounded d blocks start * d' ^ blocks * d ^ blocks
      = compounded d blocks start * d ^ blocks * d' ^ blocks := by ring
    _ ≤ start * (d + 1) ^ blocks * d' ^ blocks := Nat.mul_le_mul_right _ hbelow
    _ = start * ((d + 1) ^ blocks * d' ^ blocks) := by ring
    _ ≤ start * ((d' + 1) ^ blocks * d ^ blocks) := Nat.mul_le_mul_left _ hpow
    _ = start * (d' + 1) ^ blocks * d ^ blocks := by ring

end

/-- A projection exists for every denominator but zero. It is no less than the base fee and the number
of blocks, and no greater than any projection over as many blocks from as much with as large a part. -/
theorem projectBaseFee_mono {d d' lookahead lookahead' : UInt32} {start start' : Nat}
    (hd : 0 < d') (hdd : d' ≤ d) (hlookahead : lookahead ≤ lookahead') (hstart : start ≤ start') :
    ∃ price price', projectBaseFee start d lookahead = .ok price ∧
      projectBaseFee start' d' lookahead' = .ok price' ∧
      max start lookahead.toNat ≤ price ∧ price ≤ price' := by
  have hpos : 0 < d'.toNat := UInt32.lt_iff_toNat_lt.1 hd
  have hle : d'.toNat ≤ d.toNat := UInt32.le_iff_toNat_le.1 hdd
  have hblocks : lookahead.toNat ≤ lookahead'.toNat := UInt32.le_iff_toNat_le.1 hlookahead
  have hwide : 0 < d := UInt32.lt_iff_toNat_lt.2 (Nat.lt_of_lt_of_le hpos hle)
  have hstarts : start ≤ compounded d.toNat lookahead.toNat start :=
    le_compounded (Nat.lt_of_lt_of_le hpos hle) _ start
  have hcompounded : compounded d.toNat lookahead.toNat start ≤
      compounded d'.toNat lookahead'.toNat start' := by
    calc compounded d.toNat lookahead.toNat start
        ≤ compounded d'.toNat lookahead.toNat start := compounded_antitone hpos hle _ _
      _ ≤ compounded d'.toNat lookahead'.toNat start := compounded_mono hpos hblocks start
      _ ≤ compounded d'.toNat lookahead'.toNat start' := compounded_mono_start _ _ hstart
  refine ⟨_, _, projectBaseFee_of_pos hwide start lookahead,
    projectBaseFee_of_pos hd start' lookahead', ?_, ?_⟩
  · omega
  · omega

/-- What is asked for by the first answers is no more than by the second: no more of a base fee, and
no larger a part of it in a block. -/
structure Answers.Cheaper (a a' : Answers) : Prop where
  baseFee : ∀ base', a'.ReportsBaseFee base' → ∃ base, base ≤ base' ∧ a.ReportsBaseFee base
  denominator : ∀ d', a' .feeMarketParams = some (.ok d') →
    ∃ d, d' ≤ d ∧ a .feeMarketParams = some (.ok d)

theorem Answers.Cheaper.refl (a : Answers) : a.Cheaper a :=
  ⟨fun base h => ⟨base, Nat.le_refl _, h⟩, fun d h => ⟨d, UInt32.le_refl d, h⟩⟩

namespace FeeEstimator

variable {e e' : FeeEstimator} {a a' : Answers} {base price : Nat}

/-- The first takes the base fee as it is, or both look ahead and the second at least as far. -/
def Below (e e' : FeeEstimator) : Prop :=
  e.policy = .currentBaseFee ∨ (e'.policy = .lookahead ∧ e.lookahead ≤ e'.lookahead)

/-- Where a unit of gas has a price, one that asks for less has a price that is no higher. -/
theorem Prices.exists_below {base' price' : Nat} (h : e'.Prices a' base' price') (he : e.Below e')
    (ha : a.Cheaper a') : ∃ base price, e.Prices a base price ∧ price ≤ price' := by
  obtain ⟨base, hle, hbase⟩ := ha.baseFee base' h.reports
  -- at a base fee of zero the first quotes no fee, whatever is known of its market
  by_cases hne : base = 0
  · subst hne
    exact ⟨0, 0, .free hbase, Nat.zero_le _⟩
  · cases hpolicy : e.policy with
    | currentBaseFee =>
        exact ⟨base, base, .current base hne hbase hpolicy, Nat.le_trans hle h.base_le⟩
    | lookahead =>
        obtain ⟨hpolicy', hlookahead⟩ : e'.policy = .lookahead ∧ e.lookahead ≤ e'.lookahead :=
          he.resolve_left (by rw [hpolicy]; decide)
        cases h with
        | free _ => exact absurd (Nat.le_zero.1 hle) hne
        | current _ _ _ hcurrent =>
            rw [hpolicy'] at hcurrent
            cases hcurrent
        | projected _ _ d' _ _ _ hparams hprice' =>
            obtain ⟨d, hd, hparams⟩ := ha.denominator d' hparams
            have hpos : 0 < d' := (projectBaseFee_eq_ok.1 hprice').1
            obtain ⟨price, _, hprice, hsame, -, hmono⟩ := projectBaseFee_mono hpos hd hlookahead hle
            obtain rfl := Except.ok.inj (hprice'.symm.trans hsame)
            exact ⟨base, price, .projected base price d hne hbase hpolicy hparams hprice, hmono⟩

/-- Whether there is a price does not hang on how far the policy looks ahead. -/
theorem Prices.exists_of_lookahead (h : e.Prices a base price) (lookahead : UInt32) :
    ∃ cost, ({ e with lookahead := lookahead } : FeeEstimator).Prices a base cost := by
  cases h with
  | free hbase => exact ⟨0, .free hbase⟩
  | current _ hne hbase hpolicy => exact ⟨base, .current base hne hbase hpolicy⟩
  | projected _ _ d hne hbase hpolicy hparams hprice =>
      have hcost := projectBaseFee_of_pos (projectBaseFee_eq_ok.1 hprice).1 base lookahead
      exact ⟨_, .projected base _ d hne hbase hpolicy hparams hcost⟩

end FeeEstimator

/-- Projections and quotes grow with the base fee, the part of it that a block may add, the lookahead
and the gas limit, and from the policy that takes the base fee as it is to the one that looks ahead. A
node in any state stands for answers, the same for all estimates. -/
theorem pricing_monotone :
    (∀ (start start' : Nat) (d d' lookahead lookahead' : UInt32), start ≤ start' → 0 < d' → d' ≤ d →
      lookahead ≤ lookahead' → ∃ price price', projectBaseFee start d lookahead = .ok price ∧
        projectBaseFee start' d' lookahead' = .ok price' ∧
        max start lookahead.toNat ≤ price ∧ price ≤ price') ∧
    (∀ (e e' : FeeEstimator) (a a' : Answers) (gas gas' : UInt64) (denom : String) (m m' : Metrics)
      (quote' : FeeQuote), e.Below e' → a.Cheaper a' → gas ≤ gas' →
      ((e'.estimate gas' denom).against a' m').1 = some (.ok quote') →
      ∃ quote, ((e.estimate gas denom).against a m).1 = some (.ok quote) ∧
        quote.denom = quote'.denom ∧ quote.amount ≤ quote'.amount) ∧
    (∀ (e : FeeEstimator) (a : Answers) (gas gas' : UInt64) (denom : String) (m m' : Metrics)
      (quote : FeeQuote) (lookahead : UInt32),
      ((e.estimate gas denom).against a m).1 = some (.ok quote) →
      ∃ quote', ((({ e with lookahead := lookahead } : FeeEstimator).estimate gas' denom).against
        a m').1 = some (.ok quote')) ∧
    ∀ {σ : Type} (node : Node σ) (s : σ), ∃ a : Answers,
      ∀ (e : FeeEstimator) (gas : UInt64) (denom : String) (m : Metrics),
        (e.estimate gas denom).against a m =
          (((e.estimate gas denom).run node s m).rest.result?,
            ((e.estimate gas denom).run node s m).metrics) := by
  refine ⟨?_, ?_, ?_, ?_⟩
  · intro start start' d d' lookahead lookahead' hstart hd hdd hlookahead
    exact projectBaseFee_mono hd hdd hlookahead hstart
  · intro e e' a a' gas gas' denom m m' quote' he ha hgas hquote'
    obtain ⟨base', price', hprices', rfl⟩ := FeeEstimator.quote_eq_ok.1 hquote'
    obtain ⟨base, price, hprices, hle⟩ := hprices'.exists_below he ha
    refine ⟨_, FeeEstimator.quote_eq_ok.2 ⟨base, price, hprices, rfl⟩, rfl, ?_⟩
    exact Nat.mul_le_mul hle (UInt64.le_iff_toNat_le.1 hgas)
  · intro e a gas gas' denom m m' quote lookahead hquote
    obtain ⟨base, price, hprices, rfl⟩ := FeeEstimator.quote_eq_ok.1 hquote
    obtain ⟨cost, hcost⟩ := hprices.exists_of_lookahead lookahead
    exact ⟨_, FeeEstimator.quote_eq_ok.2 ⟨base, cost, hcost, rfl⟩⟩
  · intro σ node s
    exact ⟨.ofNode node s, fun e gas denom m => e.against_ofNode node s m gas denom⟩

/-- Both policies on one ledger, and a longer lookahead on a dearer one. -/
theorem pricing_monotone_two_policies :
    let a := Answers.ofMarket 100 123 8
    projectBaseFee 123 8 2 = .ok 155 ∧ projectBaseFee 200 4 3 = .ok 390 ∧
    (max 123 2 ≤ 155 ∧ 155 ≤ 390) ∧
    (FeeEstimator.Below ⟨2, .currentBaseFee⟩ ⟨2, .lookahead⟩ ∧ a.Cheaper a) ∧
    ((FeeEstimator.estimate ⟨2, .lookahead⟩ 100000 "aevmos").against a .empty).1 =
      some (.ok ⟨15500000, "aevmos"⟩) ∧
    (∃ quote, ((FeeEstimator.estimate ⟨2, .currentBaseFee⟩ 100000 "aevmos").against a .empty).1 =
      some (.ok quote) ∧ quote.denom = "aevmos" ∧ quote.amount ≤ 15500000) ∧
    ∃ quote', ((FeeEstimator.estimate ⟨3, .lookahead⟩ 200000 "aevmos").against a .empty).1 =
      some (.ok quote') := by
  intro a
  obtain ⟨hproject, hquote, hexists, -⟩ := pricing_monotone
  have hlow : projectBaseFee 123 8 2 = .ok 155 := rfl
  have hhigh : projectBaseFee 200 4 3 = .ok 390 := rfl
  obtain ⟨price, price', hprice, hprice', hfloor, hle⟩ :=
    hproject 123 200 8 4 2 3 (by decide) (by decide) (by decide) (by decide)
  obtain rfl := Except.ok.inj (hlow.symm.trans hprice)
  obtain rfl := Except.ok.inj (hhigh.symm.trans hprice')
  have hbelow : FeeEstimator.Below ⟨2, .currentBaseFee⟩ ⟨2, .lookahead⟩ := .inl rfl
  have hquoted : ((FeeEstimator.estimate ⟨2, .lookahead⟩ 100000 "aevmos").against a .empty).1 =
      some (.ok ⟨15500000, "aevmos"⟩) := rfl
  exact ⟨hlow, hhigh, ⟨hfloor, hle⟩, ⟨hbelow, .refl a⟩, hquoted,
    hquote _ _ a a 100000 100000 "aevmos" .empty .empty _ hbelow (.refl a) (by decide) hquoted,
    hexists ⟨2, .lookahead⟩ a 100000 200000 "aevmos" .empty .empty _ 3 hquoted⟩

end GasSponsor
