import GasSponsor.Proofs.Projection
import GasSponsor.Proofs.Quote

/-!
# Quotes on fixed answers

What a program comes to if each call has an answer of its own, or is left without one. An estimate
makes no call twice, so nothing is lost by that: in each of its states a node stands for such answers.
A fee is quoted exactly if the latest block has a base fee, and the policy a price for it. The price is
then shown, unless the base fee is zero.
-/

namespace GasSponsor

/-- An answer to each call, or none where the call is left. -/
abbrev Answers := (c : Call) → Option (Reply c)

namespace Answers

def node (a : Answers) : Node Unit := fun _ c => (a c, ())

def ReportsBaseFee (a : Answers) (base : Nat) : Prop :=
  ∃ height, a (.blockResults none) = some (.ok height) ∧
    a (.baseFee height) = some (.ok (some base))

def ofMarket (height : UInt64) (base : Nat) (denominator : UInt32) : Answers
  | .blockResults _ => some (.ok height)
  | .baseFee _ => some (.ok (some base))
  | .feeMarketParams => some (.ok denominator)
  | .account _ => none
  | .broadcast _ => none

theorem reports_ofMarket (height : UInt64) (base : Nat) (denominator : UInt32) :
    (ofMarket height base denominator).ReportsBaseFee base :=
  ⟨height, rfl, rfl⟩

/-- What a node answers to the calls of an estimate that is begun in this state. -/
def ofNode {σ : Type} (node : Node σ) (s : σ) : Answers
  | .blockResults _ => (node s (.blockResults none)).1
  | .baseFee height => (node (node s (.blockResults none)).2 (.baseFee height)).1
  | .feeMarketParams => do
    let block ← (node s (.blockResults none)).1
    let height ← block.toOption
    (node (node (node s (.blockResults none)).2 (.baseFee height)).2 .feeMarketParams).1
  | .account _ => none
  | .broadcast _ => none

theorem ofNode_feeMarketParams {σ : Type} {node : Node σ} {s : σ} {height : UInt64}
    (h : ofNode node s (.blockResults none) = some (.ok height)) : ofNode node s .feeMarketParams =
      (node (node (node s (.blockResults none)).2 (.baseFee height)).2 .feeMarketParams).1 := by
  change (node s (.blockResults none)).1 = some (.ok height) at h
  rw [ofNode, h]
  rfl

end Answers

namespace Program

variable {α β : Type} {a : Answers} {m : Metrics}

/-- The result on these answers, if every call that is made has one, and the metrics that are left. -/
def against (p : Program α) (a : Answers) (m : Metrics) : Option α × Metrics :=
  let r := p.run a.node () m
  (r.rest.result?, r.metrics)

theorem run_call {c : Call} (next : Reply c → Program α) :
    (call c next).run a.node () m = match a c with
      | none => ⟨(), m, [c], call c next⟩
      | some r =>
        let after := (next r).run a.node () m
        { after with calls := c :: after.calls } := by
  rw [run, Answers.node]
  cases a c <;> rfl

theorem against_call {c : Call} (next : Reply c → Program α) :
    (call c next).against a m = match a c with
      | none => (none, m)
      | some r => (next r).against a m := by
  rw [against, run_call]
  cases a c <;> rfl

theorem against_ask_bind_of {c : Call} {r : Reply c} (h : a c = some r) (f : Reply c → Program β) :
    (ask c >>= f).against a m = (f r).against a m := by
  change (call c f).against a m = _
  rw [against_call, h]

theorem against_ask_bind_none {c : Call} (h : a c = none) (f : Reply c → Program β) :
    (ask c >>= f).against a m = (none, m) := by
  change (call c f).against a m = _
  rw [against_call, h]

theorem against_bind (p : Program α) (f : α → Program β) :
    (p >>= f).against a m = match p.against a m with
      | (none, m') => (none, m')
      | (some x, m') => (f x).against a m' := by
  change (bind p f).against a m = _
  induction p generalizing m with
  | done x => rfl
  | record e next ih => exact ih
  | call c next ih =>
      rw [bind, against_call, against_call]
      cases a c with
      | none => rfl
      | some r => exact ih r

def Agrees {σ : Type} (node : Node σ) (a : Answers) : Program α → σ → Prop
  | done _, _ => True
  | record _ next, s => Agrees node a next s
  | call c next, s => (node s c).1 = a c ∧ ∀ r, a c = some r → Agrees node a (next r) (node s c).2

theorem Agrees.against_eq {σ : Type} {node : Node σ} {p : Program α} {s : σ} (h : p.Agrees node a s)
    (m : Metrics) :
    p.against a m = ((p.run node s m).rest.result?, (p.run node s m).metrics) := by
  induction p generalizing s m with
  | done x => rfl
  | record e next ih => exact ih h (m.record e)
  | call c next ih =>
      obtain ⟨hanswer, hnext⟩ := h
      rw [against_call, run]
      cases hnode : node s c with
      | mk reply t =>
          rw [hnode] at hanswer hnext
          rw [← hanswer]
          cases reply with
          | none => rfl
          | some r => exact ih r (hnext r hanswer.symm) m

end Program

namespace FeeEstimator

variable {e : FeeEstimator} {a : Answers} {base price : Nat}

inductive Prices (e : FeeEstimator) (a : Answers) : Nat → Nat → Prop
  | free (hbase : a.ReportsBaseFee 0) : Prices e a 0 0
  | current (base : Nat) (hne : base ≠ 0) (hbase : a.ReportsBaseFee base)
      (hpolicy : e.policy = .currentBaseFee) : Prices e a base base
  | projected (base price : Nat) (denominator : UInt32) (hne : base ≠ 0)
      (hbase : a.ReportsBaseFee base) (hpolicy : e.policy = .lookahead)
      (hparams : a .feeMarketParams = some (.ok denominator))
      (hprice : projectBaseFee base denominator e.lookahead = .ok price) : Prices e a base price

theorem Prices.reports (h : e.Prices a base price) : a.ReportsBaseFee base := by
  cases h with
  | free hbase => exact hbase
  | current _ _ hbase _ => exact hbase
  | projected _ _ _ _ hbase _ _ _ => exact hbase

theorem Prices.base_le (h : e.Prices a base price) : base ≤ price := by
  cases h with
  | free _ => exact Nat.le_refl 0
  | current _ _ _ _ => exact Nat.le_refl base
  | projected _ _ _ _ _ _ _ hprice => exact le_of_projectBaseFee hprice

theorem Prices.price_eq_zero (h : e.Prices a base price) (hbase : base = 0) : price = 0 := by
  cases h with
  | free _ => rfl
  | current _ hne _ _ => exact absurd hbase hne
  | projected _ _ _ hne _ _ _ _ => exact absurd hbase hne

def priceOn (e : FeeEstimator) (a : Answers) (base : Nat) : Option (Except RelayError Nat) :=
  match e.policy with
  | .currentBaseFee => some (.ok base)
  | .lookahead => (a .feeMarketParams).map fun reply =>
      reply.bind fun denominator => projectBaseFee base denominator e.lookahead

theorem price_against (e : FeeEstimator) (a : Answers) (m : Metrics) (base : Nat) :
    (e.price base).against a m = (e.priceOn a base, m) := by
  rw [price, priceOn]
  cases e.policy with
  | currentBaseFee => rfl
  | lookahead =>
      cases hparams : a .feeMarketParams with
      | none => rw [Program.against_ask_bind_none hparams, Option.map_none]
      | some reply =>
          rw [Program.against_ask_bind_of hparams]
          cases reply <;> rfl

theorem prices_iff (hbase : a.ReportsBaseFee base) (hne : base ≠ 0) :
    e.Prices a base price ↔ e.priceOn a base = some (.ok price) := by
  rw [priceOn]
  constructor
  · intro h
    cases h with
    | free _ => exact absurd rfl hne
    | current _ _ _ hpolicy => rw [hpolicy]
    | projected _ _ denominator _ _ hpolicy hparams hprice =>
        rw [hpolicy, hparams]
        exact congrArg some hprice
  · intro h
    cases hpolicy : e.policy with
    | currentBaseFee =>
        rw [hpolicy] at h
        obtain rfl := Except.ok.inj (Option.some.inj h)
        exact .current base hne hbase hpolicy
    | lookahead =>
        rw [hpolicy] at h
        obtain ⟨reply, hparams, hreply⟩ := Option.map_eq_some_iff.1 h
        cases reply with
        | error err => cases hreply
        | ok denominator =>
            exact .projected base price denominator hne hbase hpolicy hparams hreply

/-- Nothing else is asked for at a base fee of zero, and nothing shown. -/
theorem estimate_of_free (hbase : a.ReportsBaseFee 0) (gas : UInt64) (denom : String) (m : Metrics) :
    (e.estimate gas denom).against a m = (some (.ok ⟨0, denom⟩), m) := by
  obtain ⟨height, hblock, hfee⟩ := hbase
  rw [estimate, Program.against_ask_bind_of hblock]
  exact Program.against_ask_bind_of hfee _

theorem estimate_of_reports (hbase : a.ReportsBaseFee base) (hne : base ≠ 0) (gas : UInt64)
    (denom : String) (m : Metrics) : (e.estimate gas denom).against a m =
      match e.priceOn a base with
      | none => (none, m)
      | some (.error err) => (some (.error err), m)
      | some (.ok price) => (some (.ok ⟨price * gas.toNat, denom⟩), m.record (.feePerGas price)) := by
  obtain ⟨height, hblock, hfee⟩ := hbase
  obtain ⟨fee, rfl⟩ : ∃ fee, base = fee + 1 := Nat.exists_eq_succ_of_ne_zero hne
  rw [estimate, Program.against_ask_bind_of hblock]
  refine (Program.against_ask_bind_of hfee _).trans ?_
  refine (Program.against_bind _ _).trans ?_
  rw [price_against]
  match e.priceOn a (fee + 1) with
  | none => rfl
  | some (.error err) => rfl
  | some (.ok price) => rfl

theorem estimate_of_not_reports (h : ∀ base, ¬ a.ReportsBaseFee base) (gas : UInt64)
    (denom : String) (m : Metrics) :
    (∀ quote, ((e.estimate gas denom).against a m).1 ≠ some (.ok quote)) ∧
      ((e.estimate gas denom).against a m).2 = m := by
  rw [estimate]
  cases hblock : a (.blockResults none) with
  | none =>
      rw [Program.against_ask_bind_none hblock]
      exact ⟨nofun, rfl⟩
  | some block =>
      rw [Program.against_ask_bind_of hblock]
      cases block with
      | error err => exact ⟨nofun, rfl⟩
      | ok height =>
          cases hfee : a (.baseFee height) with
          | none =>
              simp only [Program.against_ask_bind_none hfee]
              exact ⟨nofun, trivial⟩
          | some fee =>
              simp only [Program.against_ask_bind_of hfee]
              match fee, hfee with
              | .error err, _ => exact ⟨nofun, rfl⟩
              | .ok none, _ => exact ⟨nofun, rfl⟩
              | .ok (some base), hfee => exact absurd ⟨height, hblock, hfee⟩ (h base)

/-- An estimate quotes the price of its gas, and shows it unless the base fee is zero. -/
theorem estimate_of_prices (h : e.Prices a base price) (gas : UInt64) (denom : String)
    (m : Metrics) : (e.estimate gas denom).against a m =
      (some (.ok ⟨price * gas.toNat, denom⟩),
        if base = 0 then m else m.record (.feePerGas price)) := by
  by_cases hne : base = 0
  · cases h with
    | free hbase => rw [estimate_of_free hbase, Nat.zero_mul, if_pos rfl]
    | current _ h _ _ => exact absurd hne h
    | projected _ _ _ h _ _ _ _ => exact absurd hne h
  · rw [estimate_of_reports h.reports hne, (prices_iff h.reports hne).1 h, if_neg hne]

/-- Where there is no price there is no quote, and nothing is shown. -/
theorem estimate_of_not_prices (h : ∀ base price, ¬ e.Prices a base price) (gas : UInt64)
    (denom : String) (m : Metrics) :
    (∀ quote, ((e.estimate gas denom).against a m).1 ≠ some (.ok quote)) ∧
      ((e.estimate gas denom).against a m).2 = m := by
  by_cases hreports : ∃ base, a.ReportsBaseFee base
  · obtain ⟨base, hbase⟩ := hreports
    have hne : base ≠ 0 := by
      rintro rfl
      exact h 0 0 (.free hbase)
    rw [estimate_of_reports hbase hne]
    match hprice : e.priceOn a base with
    | none => exact ⟨nofun, rfl⟩
    | some (.error err) => exact ⟨nofun, rfl⟩
    | some (.ok price) => exact absurd ((prices_iff hbase hne).2 hprice) (h base price)
  · exact estimate_of_not_reports (not_exists.1 hreports) gas denom m

theorem quote_eq_ok {gas : UInt64} {denom : String} {m : Metrics} {quote : FeeQuote} :
    ((e.estimate gas denom).against a m).1 = some (.ok quote) ↔
      ∃ base price, e.Prices a base price ∧ quote = ⟨price * gas.toNat, denom⟩ := by
  constructor
  · intro h
    by_contra hnone
    have hnever : ∀ base price, ¬ e.Prices a base price := by
      intro base price hprices
      rw [estimate_of_prices hprices] at h
      exact hnone ⟨base, price, hprices, (Except.ok.inj (Option.some.inj h)).symm⟩
    exact (estimate_of_not_prices hnever gas denom m).1 quote h
  · rintro ⟨base, price, hprices, rfl⟩
    rw [estimate_of_prices hprices]

theorem agrees_price {σ : Type} {node : Node σ} {s : σ} {α : Type}
    {f : Except RelayError Nat → Program α} (e : FeeEstimator) (base : Nat)
    (hparams : (node s .feeMarketParams).1 = a .feeMarketParams)
    (hf : ∀ reply t, (f reply).Agrees node a t) : (e.price base >>= f).Agrees node a s := by
  rw [price]
  cases e.policy with
  | currentBaseFee => exact hf (.ok base) s
  | lookahead =>
      refine ⟨hparams, fun params _ => ?_⟩
      cases params with
      | error err => exact hf (.error err) _
      | ok denominator => exact hf (projectBaseFee base denominator e.lookahead) _

theorem agrees_estimate {σ : Type} (e : FeeEstimator) (node : Node σ) (s : σ) (gas : UInt64)
    (denom : String) : (e.estimate gas denom).Agrees node (.ofNode node s) s := by
  refine ⟨rfl, fun block hblock => ?_⟩
  cases block with
  | error err => trivial
  | ok height =>
      refine ⟨rfl, fun fee _ => ?_⟩
      -- only a base fee other than zero goes on to a price
      match fee with
      | .error err => trivial
      | .ok none => trivial
      | .ok (some 0) => trivial
      | .ok (some (fee + 1)) =>
          have hparams := Answers.ofNode_feeMarketParams hblock
          refine e.agrees_price (fee + 1) hparams.symm fun reply t => ?_
          cases reply <;> trivial

/-- Whatever a node answers in this state, and whenever it leaves an estimate, the same comes of it on
fixed answers, for any estimator and any gas. -/
theorem against_ofNode {σ : Type} (e : FeeEstimator) (node : Node σ) (s : σ) (m : Metrics)
    (gas : UInt64) (denom : String) :
    (e.estimate gas denom).against (.ofNode node s) m =
      (((e.estimate gas denom).run node s m).rest.result?,
        ((e.estimate gas denom).run node s m).metrics) :=
  (e.agrees_estimate node s gas denom).against_eq m

end FeeEstimator

end GasSponsor
