import GasSponsor.Api.MediaType
import GasSponsor.Bytes
import GasSponsor.Json.Record

/-!
# Requests

A request to the service and the raw transaction in it. The body is a JSON record with the text
`raw`; what follows the record is not looked at.
-/

namespace GasSponsor.Api

structure Request where
  method : String
  target : String
  contentType : Option String
  body : String

namespace Request

def afterHost (target : List Char) : List Char :=
  match target.dropWhile (· ≠ ':') with
  | ':' :: '/' :: '/' :: cs => cs.dropWhile fun c => c ≠ '/' ∧ c ≠ '?' ∧ c ≠ '#'
  | _ => []

/-- The target without its query and fragment. A target may name the host before its path. -/
def path (r : Request) : String :=
  let cs := r.target.toList
  let cs := if cs.head? = some '/' then cs else afterHost cs
  String.ofList (cs.takeWhile fun c => c ≠ '?' ∧ c ≠ '#')

def maxBody : Nat := 2 * 1024 * 1024

inductive Refusal
  | contentType
  | tooLarge
  | malformed
  | mismatched
deriving DecidableEq, Repr

def Refusal.status : Refusal → Nat
  | contentType => 415
  | tooLarge => 413
  | malformed => 400
  | mismatched => 422

open Json Reader in
def rawRecord : Reader String :=
  record
    (ofMembers (fun raw key => if key = "raw" then some (once raw string) else none) none required)
    (ofFields do required (← field true string))

def raw (r : Request) : Except Refusal String :=
  if !(r.contentType.bind MediaType.ofText).any MediaType.isJson then .error .contentType
  else if maxBody < (Bytes.ofText r.body).length then .error .tooLarge
  else
    match rawRecord.run r.body.toList with
    | .ok (raw, _) => .ok raw
    | .error .malformed => .error .malformed
    | .error (.mismatched _) => .error .mismatched

end Request

end GasSponsor.Api
