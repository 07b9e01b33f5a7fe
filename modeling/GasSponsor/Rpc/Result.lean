import GasSponsor.Bytes.Base64
import GasSponsor.Json.Record
import GasSponsor.Ledger.Query
import GasSponsor.Node
import GasSponsor.Text.Quoted

/-!
# Results of remote procedures

The results of the three procedures that the relay calls, as records, and what the relay takes from
them. A query result carries the code of the application, and its response as a message in Base64.
-/

namespace GasSponsor.Rpc

open Json (Reader)
open Json.Reader

def code32 : Reader UInt32 := do return UInt32.ofNat (← integer 0 UInt32.size.pred).toNat

/-- The results of a block, of which only the height matters. -/
structure BlockResults where
  height : String

def BlockResults.reader : Reader BlockResults :=
  record
    (ofMembers (fun height key => if key = "height" then some (once height string) else none) none
      fun height => return ⟨← required height⟩)
    (ofFields do return ⟨← required (← field true string)⟩)

/-- The result of a query. Fields that are not there are empty. -/
structure QueryResult where
  code : UInt32
  log : String
  codespace : String
  value : Option String

namespace QueryResult

structure Members where
  code : Option UInt32 := none
  log : Option String := none
  codespace : Option String := none
  value : Option (Option String) := none

def finish (s : Members) : QueryResult :=
  ⟨s.code.getD 0, s.log.getD "", s.codespace.getD "", s.value.getD none⟩

def member (s : Members) : String → Option (Reader Members)
  | "code" => some do return { s with code := ← once s.code code32 }
  | "log" => some do return { s with log := ← once s.log string }
  | "codespace" => some do return { s with codespace := ← once s.codespace string }
  | "value" => some do return { s with value := ← once s.value (optional string) }
  | _ => none

def inner : Reader QueryResult :=
  record (ofMembers member {} fun s => return finish s)
    (ofFields do
      let code ← field true code32
      let log ← if code.isSome then field false string else pure none
      let codespace ← if log.isSome then field false string else pure none
      let value ← if codespace.isSome then field false (optional string) else pure none
      return finish ⟨code, log, codespace, value⟩)

def reader : Reader QueryResult :=
  record
    (ofMembers (fun r key => if key = "response" then some (once r inner) else none) none required)
    (ofFields do required (← field true inner))

end QueryResult

structure BroadcastMembers where
  code : Option UInt32 := none
  log : Option String := none
  codespace : Option String := none
  hash : Option String := none

namespace BroadcastMembers

def finish (s : BroadcastMembers) : BroadcastResponse :=
  ⟨s.code.getD 0, s.codespace.getD "", s.log.getD "", s.hash.getD ""⟩

def member (s : BroadcastMembers) : String → Option (Reader BroadcastMembers)
  | "code" => some do return { s with code := ← once s.code code32 }
  | "log" => some do return { s with log := ← once s.log string }
  | "codespace" => some do return { s with codespace := ← once s.codespace string }
  | "hash" => some do return { s with hash := ← once s.hash string }
  | _ => none

def reader : Reader BroadcastResponse :=
  record (ofMembers member {} fun s => return finish s)
    (ofFields do
      let code ← field true code32
      let log ← if code.isSome then field false string else pure none
      let codespace ← if log.isSome then field false string else pure none
      let hash ← if codespace.isSome then field false string else pure none
      return finish ⟨code, log, codespace, hash⟩)

end BroadcastMembers

def QueryResult.response {α : Type} [Wire.Message α] (name : String) (r : QueryResult) :
    Except RelayError α := do
  if r.code ≠ 0 then
    throw (.query name (r.codespace ++ "/" ++ Decimal.encode r.code.toNat ++ ": " ++ r.log))
  let value ← match r.value with
    | none => pure []
    | some text =>
      match Base64.decode (Bytes.ofText text) with
      | .ok bs => pure bs
      | .error e => throw (.query name ("invalid base64 response: " ++ e.message))
  match Wire.decode value with
  | .ok m => return m
  | .error e => throw (.query name ("invalid protobuf response: " ++ e.message))

/-- The height of a block. A plus sign may stand before the digits. -/
def BlockResults.blockHeight (r : BlockResults) : Except RelayError UInt64 :=
  let digits := match r.height.toList with
    | '+' :: cs => cs
    | cs => cs
  match (Decimal.decode digits).filter (· < UInt64.size) with
  | some n => .ok (UInt64.ofNat n)
  | none => .error (.query "block_results" ("invalid block height " ++ Quoted.text r.height))

namespace BaseFee

inductive Fault
  | empty
  | invalidDigit

def Fault.message : Fault → String
  | empty => "cannot parse integer from empty string"
  | invalidDigit => "invalid digit found in string"

/-- Digits without a plus sign before them and the underscores between them. A second plus sign is
left to be refused. -/
def digits? (cs : List Char) : Except Fault (List Char) :=
  let cs := match cs with
    | '+' :: '+' :: _ => cs
    | '+' :: rest => rest
    | _ => cs
  match cs with
  | [] => .error .empty
  | '_' :: _ => .error .invalidDigit
  | _ => .ok (cs.filter (· ≠ '_'))

def number? (cs : List Char) : Except Fault Nat := do
  match Decimal.decode (← digits? cs) with
  | some n => return n
  | none => throw .invalidDigit

/-- The base fee in a response. Blank text says that there is none. -/
def ofText (text : String) : Except RelayError (Option Nat) :=
  let trimmed := String.ofList (Printable.trim text.toList)
  if trimmed = "" then .ok none
  else
    match number? trimmed.toList with
    | .ok n => .ok (some n)
    | .error fault =>
      .error (.query "base_fee"
        ("invalid base fee " ++ Quoted.text trimmed ++ ": " ++ fault.message))

end BaseFee

def accountInfo (account : Ledger.Any) : Except RelayError AccountInfo := do
  let invalid := fun (e : Wire.DecodeError) =>
    RelayError.query "account" ("invalid " ++ account.typeUrl ++ ": " ++ e.message)
  let base : Ledger.BaseAccount ←
    if account.typeUrl = Ledger.BaseAccount.typeUrl then
      (Wire.decode account.value).mapError invalid
    else if account.typeUrl = Ledger.EthAccount.typeUrl then do
      let wrapped : Ledger.EthAccount ← (Wire.decode account.value).mapError invalid
      match wrapped.baseAccount with
      | some base => pure base
      | none => throw (.query "account" "EthAccount without base account")
    else throw (.query "account" ("unsupported account type " ++ account.typeUrl))
  return ⟨base.accountNumber, base.sequence⟩

end GasSponsor.Rpc
