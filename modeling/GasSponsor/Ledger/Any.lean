import GasSponsor.Wire.Message

/-!
# Values of any type

A message in its wire form together with the name of its type.
-/

namespace GasSponsor.Ledger

/-- A value of any message type, with the name of that type. -/
structure Any where
  typeUrl : String
  value : Bytes
deriving DecidableEq, Repr

instance : Wire.Message Any where
  fields :=
    .plain 1 "Any.type_url" .string <|
      .plain 2 "Any.value" .bytes <|
      .nil
  toValue m := (m.typeUrl, m.value, ())
  ofValue | (typeUrl, value, _) => ⟨typeUrl, value⟩
  ofValue_toValue _ := rfl
  toValue_ofValue _ := rfl

def Any.pack {α : Type} [Wire.Message α] (typeUrl : String) (m : α) : Any :=
  ⟨typeUrl, Wire.encode m⟩

end GasSponsor.Ledger
