import GasSponsor.Json.Record
import GasSponsor.Json.Value

/-!
# Responses of remote procedures

The body of a response holds either a result or an error object, under a version and a number. Other
members, members that stand twice and keys with escapes are refused. A result is kept as it stands,
to be read by whoever asked for it.
-/

namespace GasSponsor.Rpc

open Json (Reader)
open Json.Reader

structure ErrorObject where
  code : Int
  message : String
  data : Option Json.Value

namespace ErrorObject

def dataDescription : Option Json.Value → String
  | none => "None"
  | some v => "Some(" ++ v.description ++ ")"

def text (e : ErrorObject) : String :=
  "(code: " ++ (Json.Number.integer e.code).text ++ ", message: " ++ e.message ++ ", data: " ++
    dataDescription e.data ++ ")"

def code64 : Reader Int := integer Int64.minValue.toInt Int64.maxValue.toInt

def dataDepth : Nat := 125

def dataValue : Reader (Option Json.Value) := optional (value dataDepth)

structure Members where
  code : Option Int := none
  message : Option String := none
  data : Option (Option Json.Value) := none

def member (s : Members) : String → Option (Reader Members)
  | "code" => some do return { s with code := ← once s.code code64 }
  | "message" => some do return { s with message := ← once s.message string }
  | "data" => some do return { s with data := ← once s.data dataValue }
  | _ => none

def reader : Reader ErrorObject :=
  record
    (ofMembers member {} fun s => do
      return ⟨← required s.code, ← required s.message, s.data.getD none⟩)
    (ofFields do
      let code ← required (← field true code64)
      let message ← required (← field false string)
      let data ← required (← field false dataValue)
      return ⟨code, message, data⟩)

end ErrorObject

inductive Response
  | result (json : List Char)
  | error (e : ErrorObject)

namespace Response

structure Members where
  version : Option Unit := none
  id : Option Int := none
  result : Option (List Char) := none
  error : Option ErrorObject := none
  method : Option String := none
  params : Option Unit := none

def version : Reader Unit := do
  let text ← plainString
  if text ≠ "2.0" then unwanted text.toList

def params : Reader Unit := do
  match ← peekToken with
  | some '\x7b' => skipValue
  | some '[' => skipValue
  | _ => refuse

def member (s : Members) (key : Written) : Reader Members := do
  if !key.isPlain then unwanted key.text
  match String.ofList key.text with
  | "jsonrpc" => return { s with version := ← once s.version version }
  | "id" => return { s with id := ← once s.id (integer 0 UInt64.size.pred) }
  | "result" => return { s with result := ← once s.result rawValue }
  | "error" => return { s with error := ← once s.error ErrorObject.reader }
  | "method" => return { s with method := ← once s.method plainString }
  | "params" => return { s with params := ← once s.params params }
  | name => throw (.mismatched ("field " ++ name))

/-- Notifications are no responses. -/
def reader : Reader Response := do
  if (← peekToken) ≠ some '\x7b' then refuse
  let s ← members quoted member {}
  let _ ← required s.version
  let _ ← required s.id
  match s.result, s.error, s.method, s.params with
  | some json, none, none, none => return .result json
  | none, some e, none, none => return .error e
  | _, _, _, _ => mismatched

def ofBody (body : String) : Except Json.Fault Response := (whole reader).run' body.toList

end Response

end GasSponsor.Rpc
