import GasSponsor.Text.Decimal
import GasSponsor.Wire.Message

/-!
# Writing into a buffer

A message is written behind what a buffer holds, unless the buffer has less room than the message
declares. Room is counted up to the most that any buffer may hold, and a buffer that would have to
hold more is never made.
-/

namespace GasSponsor.Wire

def bufferLimit : Nat := Nat.pow 2 63 - 1

structure CapacityError where
  required : Nat
  remaining : Nat
deriving DecidableEq, Repr

def CapacityError.message (e : CapacityError) : String :=
  "failed to encode Protobuf message; insufficient buffer capacity (required: " ++
    Decimal.encode e.required ++ ", remaining: " ++ Decimal.encode e.remaining ++ ")"

/-- An empty buffer of a capacity. There is none above the limit. -/
def reserve (capacity : Nat) : Option Bytes := if capacity ≤ bufferLimit then some [] else none

variable {α : Type} [Message α]

def encodeInto (a : α) (buffer : Bytes) : Except CapacityError Bytes :=
  let required := encodedLength a
  let remaining := bufferLimit - buffer.length
  if remaining < required then .error ⟨required, remaining⟩ else .ok (buffer ++ encode a)

end GasSponsor.Wire
