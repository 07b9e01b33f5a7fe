import Mathlib.Data.List.Induction
import GasSponsor.Proofs.Quote.Answers

/-!
# The price that is shown

An estimate shows the price of a unit of gas when it quotes one at a base fee other than zero, and at
no other of its ends. After a series of estimates the last such price is shown, whatever has been quoted
since. A quote at a base fee of zero is shown as what it is only as long as no price has been shown.
-/

namespace GasSponsor

namespace Binary64

theorem le_divNearest (a b : Nat) : a / b ≤ divNearest a b := by
  rw [divNearest]
  split
  · exact Nat.le_succ _
  · exact Nat.le_refl _

theorem scaled_pos {n : Nat} (hn : n ≠ 0) {exponent : Int} (h : exponent ≤ n.log2) :
    0 < scaled n 1 exponent := by
  rw [scaled]
  split
  · next hnonneg =>
      have hpow : 2 ^ exponent.toNat ≤ n := by
        rw [← Nat.le_log2 hn]
        omega
      have hpart : 0 < n / (1 <<< exponent.toNat) := by
        rw [Nat.one_shiftLeft]
        exact Nat.div_pos hpow (Nat.pow_pos (by decide))
      exact Nat.lt_of_lt_of_le hpart (le_divNearest _ _)
  · have hpart : 0 < n <<< (-exponent).toNat / 1 := by
      rw [Nat.div_one, Nat.shiftLeft_eq]
      exact Nat.mul_pos (Nat.pos_of_ne_zero hn) (Nat.pow_pos (by decide))
    exact Nat.lt_of_lt_of_le hpart (le_divNearest _ _)

theorem finite_ne_zero {m : Nat} (hm : m ≠ 0) (exponent : Int) :
    (if 971 < exponent then infinite else finite m exponent) ≠ zero := by
  rw [zero]
  split
  · exact nofun
  · exact fun h => hm (finite.inj h).1

/-- No number but zero is rounded to zero. -/
theorem ofNat_eq_zero {n : Nat} : ofNat n = zero ↔ n = 0 := by
  constructor
  · intro h
    by_contra hn
    rw [ofNat, ofRatio, if_neg (by simp [hn])] at h
    extract_lets low fits exponent m at h
    have hexponent : exponent ≤ n.log2 := by
      have hone : (Nat.log2 1 : Int) = 0 := rfl
      have hmin : minExponent ≤ n.log2 := by
        rw [minExponent]
        omega
      refine max_le ?_ hmin
      split <;> omega
    have hm : m ≠ 0 := Nat.ne_of_gt (scaled_pos hn hexponent)
    by_cases hfull : m = mantissaBound
    · rw [if_pos hfull] at h
      exact finite_ne_zero (by decide) _ h
    · rw [if_neg hfull] at h
      exact finite_ne_zero hm _ h
  · rintro rfl
    rfl

end Binary64

structure Estimation where
  gas : UInt64
  denom : String
  answers : Answers

namespace FeeEstimator

def estimated (e : FeeEstimator) (m : Metrics) (x : Estimation) :
    Option (Except RelayError FeeQuote) × Metrics :=
  (e.estimate x.gas x.denom).against x.answers m

def metricsAfter (e : FeeEstimator) (m : Metrics) (series : List Estimation) : Metrics :=
  series.foldl (fun m x => (e.estimated m x).2) m

/-- If there is a quote at all it is at a base fee of zero. -/
def Silent (e : FeeEstimator) (x : Estimation) : Prop :=
  ∀ base price, e.Prices x.answers base price → base = 0

/-- The last price that was quoted at a base fee other than zero, if there is one. -/
inductive LastPrice (e : FeeEstimator) : List Estimation → Option Nat → Prop
  | nothing : LastPrice e [] none
  | priced (series : List Estimation) (x : Estimation) (base price : Nat)
      (h : e.Prices x.answers base price) (hne : base ≠ 0) :
      LastPrice e (series ++ [x]) (some price)
  | silent (series : List Estimation) (x : Estimation) (last : Option Nat)
      (h : LastPrice e series last) (hx : e.Silent x) : LastPrice e (series ++ [x]) last

variable {e : FeeEstimator} {m : Metrics} {x : Estimation} {series : List Estimation}
  {base price : Nat} {last : Option Nat}

theorem metricsAfter_snoc (e : FeeEstimator) (m : Metrics) (series : List Estimation)
    (x : Estimation) :
    e.metricsAfter m (series ++ [x]) = (e.estimated (e.metricsAfter m series) x).2 :=
  List.foldl_append

/-- A price at a base fee other than zero is shown, and nothing else changes. -/
theorem estimated_of_prices (h : e.Prices x.answers base price) (hne : base ≠ 0) (m : Metrics) :
    (e.estimated m x).2 = { m with feePerGas := Binary64.ofNat price } := by
  rw [estimated, estimate_of_prices h, if_neg hne]
  rfl

/-- Every other end of an estimate leaves the metrics as they are. -/
theorem Silent.estimated (h : e.Silent x) (m : Metrics) : (e.estimated m x).2 = m := by
  by_cases hsome : ∃ base price, e.Prices x.answers base price
  · obtain ⟨base, price, hprices⟩ := hsome
    rw [FeeEstimator.estimated, estimate_of_prices hprices, if_pos (h base price hprices)]
  · have hnone : ∀ base price, ¬ e.Prices x.answers base price := by
      intro base price hprices
      exact hsome ⟨base, price, hprices⟩
    exact (estimate_of_not_prices hnone x.gas x.denom m).2

theorem silent_or_priced (e : FeeEstimator) (x : Estimation) :
    e.Silent x ∨ ∃ base price, e.Prices x.answers base price ∧ base ≠ 0 := by
  by_cases h : ∃ base price, e.Prices x.answers base price ∧ base ≠ 0
  · exact .inr h
  · refine .inl fun base price hprices => ?_
    by_contra hne
    exact h ⟨base, price, hprices, hne⟩

/-- Estimates change nothing in the metrics but the price that is shown. -/
theorem exists_metricsAfter (e : FeeEstimator) (m : Metrics) (series : List Estimation) :
    ∃ shown, e.metricsAfter m series = { m with feePerGas := shown } := by
  induction series using List.reverseRecOn with
  | nil => exact ⟨m.feePerGas, rfl⟩
  | append_singleton series x ih =>
      obtain ⟨shown, hshown⟩ := ih
      rw [metricsAfter_snoc, hshown]
      rcases e.silent_or_priced x with hx | ⟨base, price, hprices, hne⟩
      · exact ⟨shown, hx.estimated _⟩
      · exact ⟨Binary64.ofNat price, estimated_of_prices hprices hne _⟩

theorem exists_lastPrice (e : FeeEstimator) (series : List Estimation) :
    ∃ last, e.LastPrice series last := by
  induction series using List.reverseRecOn with
  | nil => exact ⟨none, .nothing⟩
  | append_singleton series x ih =>
      rcases e.silent_or_priced x with hx | ⟨base, price, hprices, hne⟩
      · obtain ⟨last, hlast⟩ := ih
        exact ⟨last, .silent series x last hlast hx⟩
      · exact ⟨some price, .priced series x base price hprices hne⟩

/-- The last price stands in the place of the one that was shown before the series. -/
theorem LastPrice.metricsAfter (h : e.LastPrice series last) (m : Metrics) :
    e.metricsAfter m series =
      { m with feePerGas := (last.map Binary64.ofNat).getD m.feePerGas } := by
  induction h with
  | nothing => rfl
  | priced series x base price hprices hne =>
      obtain ⟨shown, hshown⟩ := e.exists_metricsAfter m series
      rw [metricsAfter_snoc, estimated_of_prices hprices hne, hshown]
      rfl
  | silent series x last _ hx ih => rw [metricsAfter_snoc, hx.estimated, ih]

theorem LastPrice.ne_zero (h : e.LastPrice series last) (hlast : last = some price) :
    price ≠ 0 := by
  induction h with
  | nothing => cases hlast
  | priced series x base price hprices hne =>
      obtain rfl := Option.some.inj hlast
      have hle : base ≤ price := hprices.base_le
      omega
  | silent series x last _ _ ih => exact ih hlast

/-- Zero is shown only if it was shown at first and no price has been shown since. -/
theorem LastPrice.shown_eq_zero (h : e.LastPrice series last) (start : Binary64) :
    (last.map Binary64.ofNat).getD start = .zero ↔ last = none ∧ start = .zero := by
  cases hlast : last with
  | none => exact ⟨fun hstart => ⟨rfl, hstart⟩, fun hstart => hstart.2⟩
  | some price =>
      constructor
      · exact fun hzero => absurd (Binary64.ofNat_eq_zero.1 hzero) (h.ne_zero hlast)
      · exact fun hnone => nomatch hnone.1

/-- An estimate for a gas limit in a denomination, at the node as the estimate before it has left it. -/
def estimateAt {σ : Type} (e : FeeEstimator) (node : Node σ) (u : σ × Metrics)
    (order : UInt64 × String) : σ × Metrics :=
  let r := (e.estimate order.1 order.2).run node u.1 u.2
  (r.node, r.metrics)

/-- Estimates made at a node one after another are a series. -/
theorem exists_series {σ : Type} (e : FeeEstimator) (node : Node σ) (s : σ) (m : Metrics)
    (orders : List (UInt64 × String)) :
    ∃ series : List Estimation, series.map (fun x => (x.gas, x.denom)) = orders ∧
      (orders.foldl (e.estimateAt node) (s, m)).2 = e.metricsAfter m series := by
  induction orders using List.reverseRecOn with
  | nil => exact ⟨[], rfl, rfl⟩
  | append_singleton orders order ih =>
      obtain ⟨series, horders, hmetrics⟩ := ih
      let u := orders.foldl (e.estimateAt node) (s, m)
      refine ⟨series ++ [⟨order.1, order.2, .ofNode node u.1⟩], ?_, ?_⟩
      · rw [List.map_append, horders]
        rfl
      · rw [List.foldl_append, metricsAfter_snoc, ← hmetrics, estimated, against_ofNode]
        rfl

/-- After any series of estimates the last price at a base fee other than zero is shown, or what was
shown before the series if there is none. The estimate that comes next shows its own price if it quotes
one at such a base fee, and changes nothing if it quotes no fee or fails. So the price of a quote is
shown after it unless it is zero and one before it was not. All estimates that are made at a node, one
after another, are such a series. -/
theorem gauge_after_estimate (e : FeeEstimator) (m : Metrics) :
    (∀ (series : List Estimation) (x : Estimation),
      let before := e.metricsAfter m series
      let after := e.metricsAfter m (series ++ [x])
      ∃ last, e.LastPrice series last ∧
        before = { m with feePerGas := (last.map Binary64.ofNat).getD m.feePerGas } ∧
        (∀ quote, (e.estimated before x).1 = some (.ok quote) → ∃ base price,
          e.Prices x.answers base price ∧ quote = ⟨price * x.gas.toNat, x.denom⟩ ∧
          (base ≠ 0 → after = { m with feePerGas := Binary64.ofNat price }) ∧
          (base = 0 → price = 0 ∧ after = before) ∧
          (after.feePerGas = Binary64.ofNat price ↔
            base ≠ 0 ∨ (last = none ∧ m.feePerGas = .zero))) ∧
        ((∀ quote, (e.estimated before x).1 ≠ some (.ok quote)) → after = before)) ∧
    ∀ {σ : Type} (node : Node σ) (s : σ) (orders : List (UInt64 × String)) (gas : UInt64)
      (denom : String),
      let u := orders.foldl (e.estimateAt node) (s, m)
      let r := (e.estimate gas denom).run node u.1 u.2
      ∃ (series : List Estimation) (x : Estimation),
        series.map (fun y => (y.gas, y.denom)) = orders ∧ x.gas = gas ∧ x.denom = denom ∧
        u.2 = e.metricsAfter m series ∧ e.estimated u.2 x = (r.rest.result?, r.metrics) := by
  constructor
  · intro series x before after
    obtain ⟨last, hlast⟩ := e.exists_lastPrice series
    have hbefore : before = { m with feePerGas := (last.map Binary64.ofNat).getD m.feePerGas } :=
      hlast.metricsAfter m
    have hafter : after = (e.estimated before x).2 := e.metricsAfter_snoc m series x
    refine ⟨last, hlast, hbefore, fun quote hquote => ?_, fun hnone => ?_⟩
    · obtain ⟨base, price, hprices, rfl⟩ := quote_eq_ok.1 hquote
      refine ⟨base, price, hprices, rfl, ?_⟩
      by_cases hbase : base = 0
      · have hprice : price = 0 := hprices.price_eq_zero hbase
        have hkept : after = before := by
          rw [hafter, estimated, estimate_of_prices hprices, if_pos hbase]
        refine ⟨fun hne => absurd hbase hne, fun _ => ⟨hprice, hkept⟩, ?_⟩
        rw [hkept, hbefore, hprice, hbase, Binary64.ofNat_eq_zero.2 rfl, hlast.shown_eq_zero]
        exact ⟨.inr, fun h => h.resolve_left (fun hne => hne rfl)⟩
      · have hshown : after = { m with feePerGas := Binary64.ofNat price } := by
          rw [hafter, estimated_of_prices hprices hbase before, hbefore]
        refine ⟨fun _ => hshown, fun hzero => absurd hzero hbase, ?_⟩
        rw [hshown]
        exact ⟨fun _ => .inl hbase, fun _ => rfl⟩
    · have hx : e.Silent x := by
        intro base price hprices
        exact absurd (quote_eq_ok.2 ⟨base, price, hprices, rfl⟩) (hnone _)
      rw [hafter, hx.estimated]
  · intro σ node s orders gas denom u r
    obtain ⟨series, horders, hmetrics⟩ := e.exists_series node s m orders
    exact ⟨series, ⟨gas, denom, .ofNode node u.1⟩, horders, rfl, rfl, hmetrics,
      e.against_ofNode node u.1 u.2 gas denom⟩

theorem gauge_after_estimate_unanswered :
    let e : FeeEstimator := ⟨2, .lookahead⟩
    let x : Estimation := ⟨100000, "aevmos", .ofMarket 100 123 8⟩
    let y : Estimation := ⟨100000, "aevmos", fun _ => none⟩
    (e.estimated .empty x).1 = some (.ok ⟨15500000, "aevmos"⟩) ∧
    (e.metricsAfter .empty [x]).feePerGas = Binary64.ofNat 155 ∧
    (∀ quote, (e.estimated (e.metricsAfter .empty [x]) y).1 ≠ some (.ok quote)) ∧
    e.metricsAfter .empty [x, y] = e.metricsAfter .empty [x] := by
  intro e x y
  have hproject : projectBaseFee 123 8 2 = .ok 155 := rfl
  have hprices : e.Prices x.answers 123 155 :=
    .projected 123 155 8 (by decide) (Answers.reports_ofMarket 100 123 8) rfl rfl hproject
  have hcost : 15500000 = 155 * UInt64.toNat 100000 := rfl
  have hquote : (e.estimated .empty x).1 = some (.ok ⟨15500000, "aevmos"⟩) :=
    quote_eq_ok.2 ⟨123, 155, hprices, congrArg (FeeQuote.mk · "aevmos") hcost⟩
  have hnone : ∀ quote, (e.estimated (e.metricsAfter .empty [x]) y).1 ≠ some (.ok quote) := by
    intro quote h
    obtain ⟨base, price, hprices, -⟩ := quote_eq_ok.1 h
    obtain ⟨height, hblock, -⟩ := hprices.reports
    cases hblock
  obtain ⟨last, -, -, hfirst, -⟩ := (gauge_after_estimate e .empty).1 [] x
  obtain ⟨base, price, hbase, hamount, hshown, -, -⟩ := hfirst _ hquote
  have hprice : price = 155 := by
    have hunits : 15500000 = price * 100000 := congrArg FeeQuote.amount hamount
    omega
  have hne : base ≠ 0 := by
    intro hzero
    rw [hbase.price_eq_zero hzero] at hprice
    cases hprice
  obtain ⟨_, -, -, -, hkept⟩ := (gauge_after_estimate e .empty).1 [x] y
  refine ⟨hquote, ?_, hnone, hkept hnone⟩
  rw [← hprice]
  exact congrArg Metrics.feePerGas (hshown hne)

/-- A quote of no fee leaves the price of the quote before it in its place. -/
theorem free_quote_not_shown :
    let e : FeeEstimator := ⟨2, .lookahead⟩
    let x : Estimation := ⟨100000, "aevmos", .ofMarket 100 123 8⟩
    let y : Estimation := ⟨100000, "aevmos", .ofMarket 101 0 8⟩
    (e.estimated (e.metricsAfter .empty [x]) y).1 = some (.ok ⟨0, "aevmos"⟩) ∧
    (e.metricsAfter .empty [x, y]).feePerGas = Binary64.ofNat 155 ∧
    Binary64.ofNat 155 ≠ Binary64.ofNat 0 := by
  intro e x y
  have hproject : projectBaseFee 123 8 2 = .ok 155 := rfl
  have hprices : e.Prices x.answers 123 155 :=
    .projected 123 155 8 (by decide) (Answers.reports_ofMarket 100 123 8) rfl rfl hproject
  have hfree : y.answers.ReportsBaseFee 0 := Answers.reports_ofMarket 101 0 8
  have hsecond : e.estimated (e.metricsAfter .empty [x]) y =
      (some (.ok ⟨0, "aevmos"⟩), e.metricsAfter .empty [x]) :=
    estimate_of_free hfree _ _ _
  refine ⟨congrArg Prod.fst hsecond, ?_, ?_⟩
  · calc (e.metricsAfter .empty [x, y]).feePerGas
        = (e.estimated (e.metricsAfter .empty [x]) y).2.feePerGas := rfl
      _ = (e.estimated .empty x).2.feePerGas := by rw [hsecond]; rfl
      _ = Binary64.ofNat 155 := by rw [estimated_of_prices hprices (by decide)]
  · rw [Binary64.ofNat_eq_zero.2 rfl]
    exact fun h => absurd (Binary64.ofNat_eq_zero.1 h) (by decide)

end FeeEstimator

end GasSponsor
