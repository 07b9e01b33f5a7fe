import GasSponsor.Json.Reader
import GasSponsor.Text.Quoted

/-!
# JSON values

A value as a whole, for requests and responses that are built here and for the parts of a reply that
are only shown. The members of an object that was read stand in the order of their keys, and of two
with one key the later counts.
-/

namespace GasSponsor.Json

inductive Value
  | null
  | bool (b : Bool)
  | number (n : Number)
  | string (s : String)
  | array (items : List Value)
  | object (members : List (String × Value))

namespace Value

def ofNat (n : Nat) : Value := number (.integer n)

def insert (key : String) (v : Value) : List (String × Value) → List (String × Value)
  | [] => [(key, v)]
  | (k, w) :: rest =>
    if key = k then (key, v) :: rest
    else if key < k then (key, v) :: (k, w) :: rest
    else (k, w) :: insert key v rest

def enclose (opening closing : String) (items : List String) : String :=
  opening ++ ", ".intercalate items ++ closing

mutual

/-- Names the kind of every value in front of it. -/
def description : Value → String
  | null => "Null"
  | bool b => if b then "Bool(true)" else "Bool(false)"
  | number n => "Number(" ++ n.text ++ ")"
  | string s => "String(" ++ Quoted.text s ++ ")"
  | array items => "Array " ++ enclose "[" "]" (descriptions items)
  | object members => "Object " ++ enclose "\x7b" "\x7d" (memberDescriptions members)

def descriptions : List Value → List String
  | [] => []
  | v :: rest => description v :: descriptions rest

def memberDescriptions : List (String × Value) → List String
  | [] => []
  | (k, v) :: rest => (Quoted.text k ++ ": " ++ description v) :: memberDescriptions rest

end

end Value

namespace Reader

def scalar : Reader Value := do
  match ← peekToken with
  | some 'n' => do
    word "null".toList
    return .null
  | some 't' => do
    word "true".toList
    return .bool true
  | some 'f' => do
    word "false".toList
    return .bool false
  | some '"' => return .string (String.ofList (← quoted).text)
  | _ => return .number (← number)

def value : Nat → Reader Value
  | 0 => scalar
  | depth + 1 => do
    match ← peekToken with
    | some '[' =>
      let items ← elements (fun items => do return (← value depth) :: items) []
      return .array items.reverse
    | some '\x7b' =>
      return .object (← members key
        (fun ms k => do return Value.insert k (← behindColon (value depth)) ms) [])
    | _ => scalar

end Reader

end GasSponsor.Json
