import GasSponsor.Program

/-!
# The payer's account

The number and the next sequence of the payer's account, as of the last successful query and the
envelopes admitted since. A stale account is queried before it is used.
-/

namespace GasSponsor

structure AccountState where
  accountNumber : UInt64
  sequence : UInt64
  stale : Bool
deriving DecidableEq, Repr

inductive AccountPhase
  | needsRefresh
  | ready
deriving DecidableEq, Repr

namespace AccountState

def initial : AccountState := ⟨0, 0, true⟩

def phase (a : AccountState) : AccountPhase := if a.stale then .needsRefresh else .ready

/-- What the next envelope is signed with. -/
def snapshot (a : AccountState) : Option AccountInfo :=
  if a.stale then none else some ⟨a.accountNumber, a.sequence⟩

/-- Queries the account if it is stale. A failed query changes nothing. -/
def ensureFresh (a : AccountState) (address : String) :
    Program (AccountState × Except RelayError AccountInfo) :=
  match a.snapshot with
  | some info => return (a, .ok info)
  | none => do
    let reply ← Program.ask (.account address)
    match reply with
    | .error e => do
      Program.note (.refresh false)
      return (a, .error e)
    | .ok info => do
      Program.note (.refresh true)
      Program.note (.sequence info.sequence.toNat)
      return (⟨info.accountNumber, info.sequence, false⟩, .ok info)

def advance (a : AccountState) : Program AccountState := do
  let sequence := a.sequence + 1
  Program.note (.sequence sequence.toNat)
  return { a with sequence }

def invalidate (a : AccountState) : AccountState := { a with stale := true }

end AccountState

end GasSponsor
