import GasSponsor.Bytes
import GasSponsor.Wire.Error

/-!
# Message types

A message type is the list of its fields in the order of their tags. A plain field is absent on the
wire when it holds its default, a message field is present or absent by itself, and repeated fields
hold any number of elements. Every field carries the label under which its faults are reported.
-/

namespace GasSponsor.Wire

structure Double where
  bits : UInt64
deriving DecidableEq, Repr, Inhabited

inductive Scalar
  | uint64
  | uint32
  | int32
  | bool
  | double
  | string
  | bytes
deriving DecidableEq, Repr

namespace Scalar

@[reducible] def Value : Scalar → Type
  | uint64 => UInt64
  | uint32 => UInt32
  | int32 => Int32
  | bool => Bool
  | double => Double
  | string => String
  | bytes => Bytes

def default : (s : Scalar) → s.Value
  | uint64 => (0 : UInt64)
  | uint32 => (0 : UInt32)
  | int32 => (0 : Int32)
  | bool => false
  | double => ⟨0⟩
  | string => ""
  | bytes => []

/-- Both zeros of a floating-point field count as its default. -/
def isDefault : (s : Scalar) → s.Value → Bool
  | uint64, v => decide ((v : UInt64) = 0)
  | uint32, v => decide ((v : UInt32) = 0)
  | int32, v => decide ((v : Int32) = 0)
  | bool, v => !v
  | double, v => decide ((v : Double).bits = 0 ∨ (v : Double).bits = 0x8000000000000000)
  | string, v => decide ((v : String) = "")
  | bytes, v => List.isEmpty (v : Bytes)

def wireType : Scalar → WireType
  | uint64 => .varint
  | uint32 => .varint
  | int32 => .varint
  | bool => .varint
  | double => .fixed64
  | string => .lengthDelimited
  | bytes => .lengthDelimited

end Scalar

inductive Fields
  | nil
  | plain (tag : Nat) (label : String) (scalar : Scalar) (rest : Fields)
  | repeated (tag : Nat) (label : String) (scalar : Scalar) (rest : Fields)
  | message (tag : Nat) (label : String) (inner rest : Fields)
  | messages (tag : Nat) (label : String) (inner rest : Fields)
deriving DecidableEq, Repr

namespace Fields

/-- The values of a message type: a value for each field. -/
@[reducible] def Value : Fields → Type
  | nil => Unit
  | plain _ _ scalar rest => scalar.Value × rest.Value
  | repeated _ _ scalar rest => List scalar.Value × rest.Value
  | message _ _ inner rest => Option inner.Value × rest.Value
  | messages _ _ inner rest => List inner.Value × rest.Value

def default : (f : Fields) → f.Value
  | nil => ()
  | plain _ _ scalar rest => (scalar.default, rest.default)
  | repeated _ _ _ rest => ([], rest.default)
  | message _ _ _ rest => (none, rest.default)
  | messages _ _ _ rest => ([], rest.default)

def tags : Fields → List Nat
  | nil => []
  | plain tag _ _ rest => tag :: rest.tags
  | repeated tag _ _ rest => tag :: rest.tags
  | message tag _ _ rest => tag :: rest.tags
  | messages tag _ _ rest => tag :: rest.tags

end Fields

end GasSponsor.Wire
