import GasSponsor.Wire.Encode
import GasSponsor.Wire.Decode

/-!
# Structures with a wire form

A structure is a message when its values correspond one to one to those of a message type.
-/

namespace GasSponsor.Wire

class Message (α : Type) where
  fields : Fields
  toValue : α → fields.Value
  ofValue : fields.Value → α
  ofValue_toValue : ∀ a, ofValue (toValue a) = a
  toValue_ofValue : ∀ v, toValue (ofValue v) = v

theorem Fields.value_nil_eq (v : Fields.Value .nil) : () = v := rfl

variable {α : Type} [Message α]

@[simp] theorem Message.option_map_ofValue (o : Option α) :
    (o.map Message.toValue).map Message.ofValue = o := by
  cases o <;> simp [Message.ofValue_toValue]

@[simp] theorem Message.option_map_toValue (o : Option (Message.fields α).Value) :
    (o.map (Message.ofValue (α := α))).map Message.toValue = o := by
  cases o <;> simp [Message.toValue_ofValue]

@[simp] theorem Message.list_map_ofValue (l : List α) :
    (l.map Message.toValue).map Message.ofValue = l := by
  induction l <;> simp_all [Message.ofValue_toValue]

@[simp] theorem Message.list_map_toValue (l : List (Message.fields α).Value) :
    (l.map (Message.ofValue (α := α))).map Message.toValue = l := by
  induction l <;> simp_all [Message.toValue_ofValue]

def encode (a : α) : Bytes := (Message.fields α).encode (Message.toValue a)

def encodedLength (a : α) : Nat := (Message.fields α).encodedLength (Message.toValue a)

def decode (bs : Bytes) : Result α := do
  let v ← (Message.fields α).decode bs
  .ok (Message.ofValue v)

end GasSponsor.Wire
