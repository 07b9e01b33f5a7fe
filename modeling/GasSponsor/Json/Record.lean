import GasSponsor.Json.Reader

/-!
# JSON records

A record is written as an object, in any order and among members that are passed over, or as an
array of its fields in their order. A member that stands twice is refused.
-/

namespace GasSponsor.Json.Reader

variable {α σ : Type}

/-- Fills a field that is still empty with the value of a member. A key that comes back is refused
before its value is looked at. -/
def once (field : Option α) (value : Reader α) : Reader (Option α) := do
  if field.isSome then mismatched
  return some (← behindColon value)

def required (field : Option α) : Reader α :=
  match field with
  | some a => return a
  | none => mismatched

def record (ofObject ofArray : Reader α) : Reader α := do
  match ← peekToken with
  | some '{' => ofObject
  | some '[' => ofArray
  | _ => refuse

/-- A record read from an object: `member` takes in the value behind a key, or is none for a key
that the record does not have. -/
def ofMembers (member : σ → String → Option (Reader σ)) (s : σ) (finish : σ → Reader α) :
    Reader α := do
  finish (← members key (fun s k =>
    match member s k with
    | some r => r
    | none => do
      behindColon skipValue
      return s) s)

def field (first : Bool) (value : Reader α) : Reader (Option α) := do
  if ← hasElement first then return some (← value) else return none

def ofFields (fields : Reader α) : Reader α := do
  expect '['
  let a ← fields
  skipBlanks
  if (← next) ≠ ']' then malformed
  return a

end GasSponsor.Json.Reader
