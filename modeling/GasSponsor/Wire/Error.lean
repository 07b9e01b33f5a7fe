/-!
# Faults of the wire format

A record is refused for one cause; the path names the declared fields in which the cause was found,
the innermost first.
-/

namespace GasSponsor.Wire

inductive WireType
  | varint
  | fixed64
  | lengthDelimited
  | startGroup
  | endGroup
  | fixed32
deriving DecidableEq, Repr

namespace WireType

def code : WireType → Nat
  | varint => 0
  | fixed64 => 1
  | lengthDelimited => 2
  | startGroup => 3
  | endGroup => 4
  | fixed32 => 5

def ofCode? : Nat → Option WireType
  | 0 => some varint
  | 1 => some fixed64
  | 2 => some lengthDelimited
  | 3 => some startGroup
  | 4 => some endGroup
  | 5 => some fixed32
  | _ => none

theorem ofCode?_code (t : WireType) : ofCode? t.code = some t := by cases t <;> rfl

def name : WireType → String
  | varint => "Varint"
  | fixed64 => "SixtyFourBit"
  | lengthDelimited => "LengthDelimited"
  | startGroup => "StartGroup"
  | endGroup => "EndGroup"
  | fixed32 => "ThirtyTwoBit"

end WireType

inductive Fault
  | invalidVarint
  | underflow
  | lengthExceeded
  | keyTooLarge (key : Nat)
  | unknownWireType (code : Nat)
  | zeroTag
  | wrongWireType (found expected : WireType)
  | endOfOtherGroup
  | tooDeep
  | notUtf8
deriving DecidableEq, Repr

def Fault.message : Fault → String
  | .invalidVarint => "invalid varint"
  | .underflow => "buffer underflow"
  | .lengthExceeded => "delimited length exceeded"
  | .keyTooLarge key => "invalid key value: " ++ toString key
  | .unknownWireType code => "invalid wire type value: " ++ toString code
  | .zeroTag => "invalid tag value: 0"
  | .wrongWireType found expected =>
    "invalid wire type: " ++ found.name ++ " (expected " ++ expected.name ++ ")"
  | .endOfOtherGroup => "unexpected end group tag"
  | .tooDeep => "recursion limit reached"
  | .notUtf8 => "invalid string value: data is not UTF-8 encoded"

structure DecodeError where
  path : List String
  fault : Fault
deriving DecidableEq, Repr

namespace DecodeError

def message (e : DecodeError) : String :=
  "failed to decode Protobuf message: " ++ String.join (e.path.map (· ++ ": ")) ++ e.fault.message

def within (label : String) (e : DecodeError) : DecodeError :=
  { e with path := e.path ++ [label] }

end DecodeError

abbrev Result (α : Type) := Except DecodeError α

def fail {α : Type} (fault : Fault) : Result α := .error ⟨[], fault⟩

end GasSponsor.Wire
