import GasSponsor.Proofs.Wire.RoundTrip

/-!
# Parts of a message

A byte string that a message holds, at any depth, is no longer than the bytes of the message, so that
what is packed into a message can be counted where the message can.
-/

namespace GasSponsor.Wire

namespace Scalar

def parts : (s : Scalar) → s.Value → List Bytes
  | bytes, v => [v]
  | _, _ => []

theorem length_le_of_mem_parts {s : Scalar} {x : s.Value} {part : Bytes} (h : part ∈ s.parts x) :
    part.length ≤ (s.encode x).length := by
  cases s with
  | bytes =>
      obtain rfl : part = x := List.mem_singleton.1 h
      rw [encode, List.length_append]
      exact Nat.le_add_left _ _
  | _ => exact absurd h List.not_mem_nil

/-- A byte string that a plain field leaves out is empty. -/
theorem eq_nil_of_mem_parts {s : Scalar} {x : s.Value} {part : Bytes} (h : part ∈ s.parts x)
    (hx : s.isDefault x = true) : part = [] := by
  cases s with
  | bytes =>
      obtain rfl : part = x := List.mem_singleton.1 h
      exact List.isEmpty_iff.1 hx
  | _ => exact absurd h List.not_mem_nil

end Scalar

namespace Fields

theorem length_le_nested (tag : Nat) (inner : Fields) (m : inner.Value) :
    (inner.encode m).length ≤ (nested tag inner m).length := by
  rw [nested, List.length_append]
  exact Nat.le_add_left _ _

def parts : (f : Fields) → f.Value → List Bytes
  | nil, _ => []
  | plain _ _ s rest, (x, v) => s.parts x ++ rest.parts v
  | repeated _ _ s rest, (xs, v) => xs.flatMap s.parts ++ rest.parts v
  | message _ _ inner rest, (x, v) => x.toList.flatMap inner.parts ++ rest.parts v
  | messages _ _ inner rest, (xs, v) => xs.flatMap inner.parts ++ rest.parts v

/-- A part of one of the values of a field is no longer than what is written of the field and more. -/
theorem length_le_of_mem_flatMap {β : Type} {partsOf : β → List Bytes} {write : β → Bytes}
    (hwrite : ∀ x, ∀ part ∈ partsOf x, part.length ≤ (write x).length) {xs : List β} {part : Bytes}
    (h : part ∈ xs.flatMap partsOf) (more : Bytes) :
    part.length ≤ (xs.flatMap write ++ more).length := by
  obtain ⟨x, hx, hpart⟩ := List.mem_flatMap.1 h
  have hvalue : part.length ≤ (write x).length := hwrite x part hpart
  have hfield : (write x).length ≤ (xs.flatMap write).length := length_le_length_flatMap write hx
  rw [List.length_append]
  omega

theorem length_le_of_mem_parts (f : Fields) (v : f.Value) {part : Bytes} (h : part ∈ f.parts v) :
    part.length ≤ (f.encode v).length := by
  induction f generalizing part with
  | nil => exact absurd h List.not_mem_nil
  | plain tag label s rest ih =>
      obtain ⟨x, v⟩ := v
      rw [encode, List.length_append]
      rcases List.mem_append.1 h with hfirst | hrest
      · have hscalar : part.length ≤ (s.encode x).length := Scalar.length_le_of_mem_parts hfirst
        by_cases hx : s.isDefault x = true
        · rw [Scalar.eq_nil_of_mem_parts hfirst hx]
          exact Nat.zero_le _
        · rw [if_neg hx, List.length_append]
          omega
      · exact Nat.le_trans (ih v hrest) (Nat.le_add_left _ _)
  | repeated tag label s rest ih =>
      obtain ⟨xs, v⟩ := v
      rcases List.mem_append.1 h with hfirst | hrest
      · apply length_le_of_mem_flatMap (fun x part hpart => ?_) hfirst
        have hscalar : part.length ≤ (s.encode x).length := Scalar.length_le_of_mem_parts hpart
        rw [List.length_append]
        omega
      · rw [encode, List.length_append]
        exact Nat.le_trans (ih v hrest) (Nat.le_add_left _ _)
  | message tag label inner rest ihInner ih =>
      obtain ⟨x, v⟩ := v
      rw [encode_message]
      rcases List.mem_append.1 h with hfirst | hrest
      · apply length_le_of_mem_flatMap (fun m part hpart => ?_) hfirst
        exact Nat.le_trans (ihInner m hpart) (length_le_nested tag inner m)
      · rw [List.length_append]
        exact Nat.le_trans (ih v hrest) (Nat.le_add_left _ _)
  | messages tag label inner rest ihInner ih =>
      obtain ⟨xs, v⟩ := v
      rw [encode_messages]
      rcases List.mem_append.1 h with hfirst | hrest
      · apply length_le_of_mem_flatMap (fun m part hpart => ?_) hfirst
        exact Nat.le_trans (ihInner m hpart) (length_le_nested tag inner m)
      · rw [List.length_append]
        exact Nat.le_trans (ih v hrest) (Nat.le_add_left _ _)

end Fields

variable {α : Type} [Message α]

def parts (a : α) : List Bytes := (Message.fields α).parts (Message.toValue a)

theorem length_le_of_mem_parts {a : α} {part : Bytes} (h : part ∈ parts a) :
    part.length ≤ (encode a).length :=
  Fields.length_le_of_mem_parts (Message.fields α) (Message.toValue a) h

end GasSponsor.Wire
