import GasSponsor.Wire.Decode
import GasSponsor.Wire.Encode
import GasSponsor.Proofs.Wire.Varint

/-!
# Scalars read back

The bytes of a scalar are read back whatever follows them, and there are as many as its encoded
length says, as long as they are fewer than a machine can count. The one value that does not come
back from a plain field is the negative zero, which counts as default and is left out.
-/

namespace GasSponsor

namespace Bytes

theorem toText?_ofText (s : String) : toText? (ofText s) = some s := by
  have h : (⟨(ofText s).toArray⟩ : ByteArray) = s.toByteArray := by
    simp [ofText]
  rw [toText?, h, String.fromUTF8?, dif_pos s.isValidUTF8]
  rfl

theorem length_ofText (s : String) : (ofText s).length = s.utf8ByteSize := by
  unfold ofText
  rw [Array.length_toList]
  rfl

theorem toNatLE_littleEndian (width n : Nat) :
    toNatLE (littleEndian width n) = n % 256 ^ width := by
  induction width generalizing n with
  | zero => simp [littleEndian, toNatLE, Nat.mod_one]
  | succ width ih =>
      have hb : (UInt8.ofNat n).toNat = n % 256 := UInt8.toNat_ofNat'
      rw [littleEndian, toNatLE, ih, hb, Nat.pow_succ, Nat.mul_comm (256 ^ width), Nat.mod_mul]

end Bytes

namespace Wire

theorem readChunk_encode {bs : Bytes} (h : bs.length < UInt64.size) (rest : Bytes) :
    readChunk (Varint.encode bs.length ++ bs ++ rest) = .ok (bs, rest) := by
  rw [readChunk, List.append_assoc, Varint.read_encode h]
  simp only [bind, Except.bind]
  rw [if_neg (by simp), List.take_left, List.drop_left]

namespace Scalar

/-- What is read back: the default where the field was left out. -/
def normal (s : Scalar) (v : s.Value) : s.Value := if s.isDefault v then s.default else v

theorem normal_of_ne_double {s : Scalar} (h : s ≠ double) (v : s.Value) : s.normal v = v := by
  unfold normal
  split
  · next hv => cases s <;> simp_all [isDefault, default]
  · rfl

theorem ofNat_signExtend (v : Int32) : (UInt32.ofNat (signExtend v)).toInt32 = v := by
  apply Int32.toBitVec_inj.1
  change BitVec.ofNat 32 (v.toBitVec.signExtend 64).toNat = v.toBitVec
  apply BitVec.eq_of_getLsbD_eq
  intro i hi
  rw [BitVec.ofNat_toNat]
  simp only [BitVec.getLsbD_setWidth, BitVec.getLsbD_signExtend, hi, decide_true, Bool.true_and,
    if_true]
  simp only [show i < 64 by omega, decide_true, Bool.true_and]

theorem readValue_encode (s : Scalar) (v : s.Value) (rest : Bytes)
    (h : (s.encode v).length < UInt64.size) : s.readValue (s.encode v ++ rest) = .ok (v, rest) := by
  cases s with
  | uint64 =>
      rw [readValue, encode, Varint.read_encode (UInt64.toNat_lt v)]
      simp [bind, Except.bind]
  | uint32 =>
      have hv : (v : UInt32).toNat < UInt64.size := Nat.lt_trans (UInt32.toNat_lt v) (by decide)
      rw [readValue, encode, Varint.read_encode hv]
      simp [bind, Except.bind]
  | int32 =>
      have hv : signExtend v < UInt64.size := UInt64.toNat_lt _
      rw [readValue, encode, Varint.read_encode hv]
      simp only [bind, Except.bind, ofNat_signExtend]
  | bool =>
      have hv : Bool.toNat v < UInt64.size := Nat.lt_of_lt_of_le (Bool.toNat_lt v) (by decide)
      rw [readValue, encode, Varint.read_encode hv]
      cases v <;> rfl
  | double =>
      have hl := Bytes.length_littleEndian 8 (v : Double).bits.toNat
      have hn := Bytes.toNatLE_littleEndian 8 (v : Double).bits.toNat
      have hlt : (v : Double).bits.toNat < 256 ^ 8 :=
        Nat.lt_of_lt_of_le (UInt64.toNat_lt _) (by decide)
      rw [readValue, encode, if_neg (by simp), List.take_left' hl, List.drop_left' hl, hn,
        Nat.mod_eq_of_lt hlt]
      simp
  | string =>
      have hlen : (Bytes.ofText v).length < UInt64.size := by
        simp only [encode, List.length_append] at h
        omega
      rw [readValue, encode, readChunk_encode hlen]
      simp only [bind, Except.bind, Bytes.toText?_ofText]
  | bytes =>
      have hlen : List.length v < UInt64.size := by
        simp only [encode, List.length_append] at h
        omega
      rw [readValue, encode, readChunk_encode hlen]

/-- The declared length is the written one as soon as one of them can be counted. -/
theorem encodedLength_eq_of_lt (s : Scalar) (v : s.Value)
    (h : s.encodedLength v < UInt64.size ∨ (s.encode v).length < UInt64.size) :
    s.encodedLength v = (s.encode v).length := by
  cases s with
  | uint64 => exact Varint.size_eq_length (UInt64.toNat_lt v)
  | uint32 => exact Varint.size_eq_length (Nat.lt_trans (UInt32.toNat_lt v) (by decide))
  | int32 => exact Varint.size_eq_length (UInt64.toNat_lt _)
  | bool =>
      have hv : Bool.toNat v < 128 := Nat.lt_of_lt_of_le (Bool.toNat_lt v) (by decide)
      rw [encodedLength, encode, Varint.encode_of_lt hv, List.length_singleton]
  | double => simp [encodedLength, encode]
  | string =>
      simp only [encodedLength, ← Bytes.length_ofText, encode, List.length_append] at h ⊢
      rw [Varint.size_eq_length (by omega)]
  | bytes =>
      simp only [encodedLength, encode, List.length_append] at h ⊢
      rw [Varint.size_eq_length (by omega)]

end Scalar

end Wire

end GasSponsor
