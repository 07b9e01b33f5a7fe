import GasSponsor.Number.Binary64

/-!
# Metrics

Counters of outcomes and account refreshes, gauges of the next sequence and of the last price of
gas, and the text in which they are exposed. A counter has a line once it has been touched; a gauge
always has one. Families stand in the order of their names, and lines of a family in the order of
their labels.
-/

namespace GasSponsor

structure Metrics where
  outcomes : List (String × Nat)
  refreshes : List (String × Nat)
  sequence : Binary64
  feePerGas : Binary64
deriving DecidableEq, Repr

namespace Metrics

inductive Event
  | outcome (label : String)
  | refresh (success : Bool)
  | sequence (n : Nat)
  | feePerGas (n : Nat)
deriving DecidableEq, Repr

def empty : Metrics := ⟨[], [], .zero, .zero⟩

/-- Adds one to the counter of a label, in the order of the labels. -/
def count (label : String) : List (String × Nat) → List (String × Nat)
  | [] => [(label, 1)]
  | (l, n) :: rest =>
    if label = l then (l, n + 1) :: rest
    else if label < l then (label, 1) :: (l, n) :: rest
    else (l, n) :: count label rest

def refreshLabel (success : Bool) : String := if success then "success" else "failure"

def record (m : Metrics) : Event → Metrics
  | .outcome label => { m with outcomes := count label m.outcomes }
  | .refresh success => { m with refreshes := count (refreshLabel success) m.refreshes }
  | .sequence n => { m with sequence := Binary64.ofNat n }
  | .feePerGas n => { m with feePerGas := Binary64.ofNat n }

def escapeLabel (s : String) : String :=
  String.ofList (s.toList.flatMap fun c =>
    if c = '\\' then ['\\', '\\']
    else if c = '"' then ['\\', '"']
    else if c = '\n' then ['\\', 'n']
    else [c])

def counterLine (family label : String) (entry : String × Nat) : String :=
  family ++ "\x7b" ++ label ++ "=\"" ++ escapeLabel entry.1 ++ "\"\x7d " ++ Decimal.encode entry.2

def gaugeLine (family : String) (value : Binary64) : String := family ++ " " ++ value.text

def lines (m : Metrics) : List String :=
  m.refreshes.map (counterLine "feepayer_account_refreshes_total" "result") ++
    [gaugeLine "feepayer_account_sequence" m.sequence,
      gaugeLine "feepayer_fee_per_gas" m.feePerGas] ++
    m.outcomes.map (counterLine "feepayer_relay_outcomes_total" "outcome")

end Metrics

end GasSponsor
