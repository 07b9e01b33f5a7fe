import GasSponsor.Wire.Schema
import GasSponsor.Wire.Varint

/-!
# Writing messages

Fields are written in the order of their tags. The length of a message is computed apart from its
bytes, and is what stands before a nested message.
-/

namespace GasSponsor.Wire

def keyNumber (tag : Nat) (type : WireType) : Nat := 8 * tag + type.code

def key (tag : Nat) (type : WireType) : Bytes := Varint.encode (keyNumber tag type)

def keySize (tag : Nat) (type : WireType) : Nat := Varint.size (keyNumber tag type)

namespace Scalar

/-- A negative number of 32 bits is written as the number of 64 bits with the same value. -/
def signExtend (v : Int32) : Nat := v.toInt64.toUInt64.toNat

def encode : (s : Scalar) → s.Value → Bytes
  | uint64, v => Varint.encode (v : UInt64).toNat
  | uint32, v => Varint.encode (v : UInt32).toNat
  | int32, v => Varint.encode (signExtend v)
  | bool, v => Varint.encode (Bool.toNat v)
  | double, v => Bytes.littleEndian 8 (v : Double).bits.toNat
  | string, v =>
    let bs := Bytes.ofText v
    Varint.encode bs.length ++ bs
  | bytes, v => Varint.encode (List.length v) ++ v

def encodedLength : (s : Scalar) → s.Value → Nat
  | uint64, v => Varint.size (v : UInt64).toNat
  | uint32, v => Varint.size (v : UInt32).toNat
  | int32, v => Varint.size (signExtend v)
  | bool, _ => 1
  | double, _ => 8
  | string, v => Varint.size (v : String).utf8ByteSize + (v : String).utf8ByteSize
  | bytes, v => Varint.size (List.length v) + List.length v

end Scalar

namespace Fields

def encodedLength : (f : Fields) → f.Value → Nat
  | nil, _ => 0
  | plain tag _ s rest, (x, v) =>
    (if s.isDefault x then 0 else keySize tag s.wireType + s.encodedLength x) + rest.encodedLength v
  | repeated tag _ s rest, (xs, v) =>
    (xs.map fun x => keySize tag s.wireType + s.encodedLength x).sum + rest.encodedLength v
  | message tag _ inner rest, (x, v) =>
    (match x with
      | none => 0
      | some m =>
        let size := inner.encodedLength m
        keySize tag .lengthDelimited + Varint.size size + size) + rest.encodedLength v
  | messages tag _ inner rest, (xs, v) =>
    (xs.map fun m =>
      let size := inner.encodedLength m
      keySize tag .lengthDelimited + Varint.size size + size).sum + rest.encodedLength v

def encode : (f : Fields) → f.Value → Bytes
  | nil, _ => []
  | plain tag _ s rest, (x, v) =>
    (if s.isDefault x then [] else key tag s.wireType ++ s.encode x) ++ rest.encode v
  | repeated tag _ s rest, (xs, v) =>
    (xs.flatMap fun x => key tag s.wireType ++ s.encode x) ++ rest.encode v
  | message tag _ inner rest, (x, v) =>
    (match x with
      | none => []
      | some m =>
        key tag .lengthDelimited ++ Varint.encode (inner.encodedLength m) ++ inner.encode m) ++
      rest.encode v
  | messages tag _ inner rest, (xs, v) =>
    (xs.flatMap fun m =>
      key tag .lengthDelimited ++ Varint.encode (inner.encodedLength m) ++ inner.encode m) ++
      rest.encode v

end Fields

end GasSponsor.Wire
