import GasSponsor.Proofs.Wire.Growth

/-!
# Bytes at rest

What is read back of a message has the bytes of the message, so that a second round of writing and
reading changes nothing more. The bytes of two messages are the same just when the same is read back
of both. A byte string that is accepted need not be what its message is written as, but what the
message is written as is accepted, and stands for itself.
-/

namespace GasSponsor.Wire

namespace Scalar

theorem isDefault_normal (s : Scalar) (x : s.Value) : s.isDefault (s.normal x) = s.isDefault x := by
  unfold normal
  split
  · next hx =>
      rw [hx]
      cases s <;> rfl
  · rfl

theorem normal_of_not_isDefault {s : Scalar} {x : s.Value} (h : ¬ s.isDefault x = true) :
    s.normal x = x := if_neg h

end Scalar

namespace Fields

theorem encodedLength_normal (f : Fields) (v : f.Value) :
    f.encodedLength (f.normal v) = f.encodedLength v := by
  induction f with
  | nil => rfl
  | plain tag label s rest ih =>
      obtain ⟨x, v⟩ := v
      rw [normal, encodedLength_plain, encodedLength_plain, Scalar.isDefault_normal, ih]
      congr 1
      split
      · rfl
      · next hx => rw [Scalar.normal_of_not_isDefault hx]
  | repeated tag label s rest ih =>
      obtain ⟨xs, v⟩ := v
      rw [normal, encodedLength_repeated, encodedLength_repeated, ih]
  | message tag label inner rest ihInner ih =>
      obtain ⟨x, v⟩ := v
      rw [normal, encodedLength_message, encodedLength_message, ih]
      cases x with
      | none => rfl
      | some m =>
          rw [Option.map_some, Option.toList_some, Option.toList_some]
          simp only [total, nestedLength, List.map_cons, ihInner]
  | messages tag label inner rest ihInner ih =>
      obtain ⟨xs, v⟩ := v
      rw [normal, encodedLength_messages, encodedLength_messages, ih]
      have hsize : nestedLength tag inner ∘ inner.normal = nestedLength tag inner := by
        funext m
        simp only [Function.comp_apply, nestedLength, ihInner]
      rw [total, total, List.map_map, hsize]

/-- What is read back has the same bytes. -/
theorem encode_normal (f : Fields) (v : f.Value) : f.encode (f.normal v) = f.encode v := by
  induction f with
  | nil => rfl
  | plain tag label s rest ih =>
      obtain ⟨x, v⟩ := v
      rw [normal, encode, encode, Scalar.isDefault_normal, ih]
      congr 1
      split
      · rfl
      · next hx => rw [Scalar.normal_of_not_isDefault hx]
  | repeated tag label s rest ih =>
      obtain ⟨xs, v⟩ := v
      rw [normal, encode, encode, ih]
  | message tag label inner rest ihInner ih =>
      obtain ⟨x, v⟩ := v
      rw [normal, encode_message, encode_message, ih]
      cases x with
      | none => rfl
      | some m =>
          simp only [Option.map_some, Option.toList_some, List.flatMap_singleton, nested,
            encodedLength_normal, ihInner]
  | messages tag label inner rest ihInner ih =>
      obtain ⟨xs, v⟩ := v
      rw [normal, encode_messages, encode_messages, ih, List.flatMap_map]
      have hnested : (fun m => nested tag inner (inner.normal m)) = nested tag inner := by
        funext m
        simp only [nested, encodedLength_normal, ihInner]
      rw [hnested]

end Fields

section

variable {α : Type} [Message α]

def readBack (a : α) : α := Message.ofValue ((Message.fields α).normal (Message.toValue a))

theorem readBack_eq [Exact α] (a : α) : readBack a = a := by
  rw [readBack, isNormal a, Message.ofValue_toValue]

theorem encode_readBack (a : α) : encode (readBack a) = encode a := by
  rw [readBack, encode, Message.toValue_ofValue, Fields.encode_normal, encode]

variable [Regular α]

theorem decode_encode_eq (a : α) (hlen : (encode a).length < UInt64.size) :
    decode (encode a) = .ok (readBack a) := by
  rw [decode, encode, Fields.decode_encode _ Regular.wellFormed Regular.height_le _ hlen]
  rfl

theorem encode_eq_iff {a b : α} (hlen : (encode a).length < UInt64.size) :
    encode a = encode b ↔ readBack a = readBack b := by
  constructor
  · intro h
    have hread : decode (encode a) = .ok (readBack a) := decode_encode_eq a hlen
    rw [h] at hread hlen
    exact Except.ok.inj (hread.symm.trans (decode_encode_eq b hlen))
  · intro h
    rw [← encode_readBack a, h, encode_readBack]

/-- A machine that holds the bytes of a message can count the bytes that it is written as. -/
theorem length_encode_lt {bs : Bytes} {a : α} (hlen : bs.length < 2 ^ 63)
    (h : decode bs = .ok a) : (encode a).length < UInt64.size := by
  obtain ⟨v, hread, hend⟩ := bind_eq_ok.1 h
  cases hend
  have hsize : UInt64.size = 2 * 2 ^ 63 := rfl
  have hle := Fields.length_encode_of_decode Regular.wellFormed hread (by omega)
  rw [encode, Message.toValue_ofValue]
  omega

end

end GasSponsor.Wire
