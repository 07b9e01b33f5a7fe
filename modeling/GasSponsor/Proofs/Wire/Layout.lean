import Mathlib.Data.List.Basic
import GasSponsor.Proofs.Wire.RoundTrip

/-!
# Declared and written lengths

The length of a message is declared before its bytes are there, by a recursion of its own over the
fields, and written before the bytes of every message that is nested in another. Declared and written
lengths are the same throughout a message, so that the bytes are those of a writer that counts what it
has written, as long as no sum of lengths exceeds 64 bits.
-/

namespace GasSponsor.Wire

def frame (bs : Bytes) : Bytes := Varint.encode bs.length ++ bs

namespace Fields

/-- The bytes of a message in which every nested message stands behind the number of its bytes. -/
def layout : (f : Fields) → f.Value → Bytes
  | nil, _ => []
  | plain tag _ s rest, (x, v) =>
    (if s.isDefault x then [] else key tag s.wireType ++ s.encode x) ++ rest.layout v
  | repeated tag _ s rest, (xs, v) =>
    (xs.flatMap fun x => key tag s.wireType ++ s.encode x) ++ rest.layout v
  | message tag _ inner rest, (x, v) =>
    (x.toList.flatMap fun m => key tag .lengthDelimited ++ frame (inner.layout m)) ++ rest.layout v
  | messages tag _ inner rest, (xs, v) =>
    (xs.flatMap fun m => key tag .lengthDelimited ++ frame (inner.layout m)) ++ rest.layout v

def messagesIn : (f : Fields) → f.Value → List (Σ g : Fields, g.Value)
  | nil, _ => []
  | plain _ _ _ rest, (_, v) => rest.messagesIn v
  | repeated _ _ _ rest, (_, v) => rest.messagesIn v
  | message _ _ inner rest, (x, v) =>
    (x.toList.flatMap fun m => ⟨inner, m⟩ :: inner.messagesIn m) ++ rest.messagesIn v
  | messages _ _ inner rest, (xs, v) =>
    (xs.flatMap fun m => ⟨inner, m⟩ :: inner.messagesIn m) ++ rest.messagesIn v

theorem encodedLength_le_nestedLength (tag : Nat) (inner : Fields) (m : inner.Value) :
    inner.encodedLength m ≤ nestedLength tag inner m := Nat.le_add_left _ _

/-- A message nested in one of the values of a field is declared no longer than the field. -/
theorem encodedLength_le_total (tag : Nat) {inner : Fields} {xs : List inner.Value}
    {p : Σ g : Fields, g.Value}
    (hinner : ∀ m, p ∈ inner.messagesIn m → p.1.encodedLength p.2 ≤ inner.encodedLength m)
    (h : p ∈ xs.flatMap fun m => ⟨inner, m⟩ :: inner.messagesIn m) :
    p.1.encodedLength p.2 ≤ total (nestedLength tag inner) xs := by
  obtain ⟨m, hm, hp⟩ := List.mem_flatMap.1 h
  have hle : p.1.encodedLength p.2 ≤ inner.encodedLength m := by
    rcases List.mem_cons.1 hp with rfl | hdeeper
    · exact Nat.le_refl _
    · exact hinner m hdeeper
  calc p.1.encodedLength p.2 ≤ inner.encodedLength m := hle
    _ ≤ nestedLength tag inner m := encodedLength_le_nestedLength tag inner m
    _ ≤ total (nestedLength tag inner) xs := le_total (nestedLength tag inner) hm

theorem encodedLength_le_of_mem_messagesIn {f : Fields} {v : f.Value} {p : Σ g : Fields, g.Value}
    (h : p ∈ f.messagesIn v) : p.1.encodedLength p.2 ≤ f.encodedLength v := by
  induction f with
  | nil => exact absurd h List.not_mem_nil
  | plain tag label s rest ih => exact Nat.le_trans (ih h) (Nat.le_add_left _ _)
  | repeated tag label s rest ih => exact Nat.le_trans (ih h) (Nat.le_add_left _ _)
  | message tag label inner rest ihInner ih =>
      obtain ⟨x, v⟩ := v
      rw [encodedLength_message]
      rcases List.mem_append.1 h with hfirst | hrest
      · have hle := encodedLength_le_total tag (fun m => ihInner (v := m)) hfirst
        omega
      · exact Nat.le_trans (ih hrest) (Nat.le_add_left _ _)
  | messages tag label inner rest ihInner ih =>
      obtain ⟨xs, v⟩ := v
      rw [encodedLength_messages]
      rcases List.mem_append.1 h with hfirst | hrest
      · have hle := encodedLength_le_total tag (fun m => ihInner (v := m)) hfirst
        omega
      · exact Nat.le_trans (ih hrest) (Nat.le_add_left _ _)

theorem wellFormed_of_mem_flatMap {inner : Fields} {xs : List inner.Value}
    {p : Σ g : Fields, g.Value} (hf : inner.wellFormed = true)
    (hinner : ∀ m, p ∈ inner.messagesIn m → p.1.wellFormed = true)
    (h : p ∈ xs.flatMap fun m => ⟨inner, m⟩ :: inner.messagesIn m) : p.1.wellFormed = true := by
  obtain ⟨m, -, hp⟩ := List.mem_flatMap.1 h
  rcases List.mem_cons.1 hp with rfl | hdeeper
  · exact hf
  · exact hinner m hdeeper

theorem wellFormed_of_mem_messagesIn {f : Fields} (hf : f.wellFormed = true) {v : f.Value}
    {p : Σ g : Fields, g.Value} (h : p ∈ f.messagesIn v) : p.1.wellFormed = true := by
  induction f with
  | nil => exact absurd h List.not_mem_nil
  | plain tag label s rest ih => exact ih (Bool.and_eq_true_iff.1 hf).2 h
  | repeated tag label s rest ih => exact ih (Bool.and_eq_true_iff.1 hf).2 h
  | message tag label inner rest ihInner ih =>
      obtain ⟨hfront, hrest⟩ := Bool.and_eq_true_iff.1 hf
      obtain ⟨-, hinner⟩ := Bool.and_eq_true_iff.1 hfront
      rcases List.mem_append.1 h with hfirst | hlater
      · exact wellFormed_of_mem_flatMap hinner (fun m => ihInner hinner (v := m)) hfirst
      · exact ih hrest hlater
  | messages tag label inner rest ihInner ih =>
      obtain ⟨hfront, hrest⟩ := Bool.and_eq_true_iff.1 hf
      obtain ⟨-, hinner⟩ := Bool.and_eq_true_iff.1 hfront
      rcases List.mem_append.1 h with hfirst | hlater
      · exact wellFormed_of_mem_flatMap hinner (fun m => ihInner hinner (v := m)) hfirst
      · exact ih hrest hlater

theorem nested_eq_frame {tag : Nat} {inner : Fields} {m : inner.Value}
    (hinner : inner.wellFormed = true) (h : inner.encodedLength m < UInt64.size) :
    nested tag inner m = key tag .lengthDelimited ++ frame (inner.encode m) := by
  rw [nested, frame, inner.encodedLength_eq_of_lt m hinner (.inl h), List.append_assoc]

theorem flatMap_nested {tag : Nat} {inner : Fields} {xs : List inner.Value}
    (hf : inner.wellFormed = true) (hinner : ∀ m, inner.encodedLength m < UInt64.size →
      inner.encode m = inner.layout m)
    (h : total (nestedLength tag inner) xs < UInt64.size) :
    xs.flatMap (nested tag inner) =
      xs.flatMap fun m => key tag .lengthDelimited ++ frame (inner.layout m) := by
  apply List.flatMap_congr
  intro m hm
  have hsize : nestedLength tag inner m ≤ total (nestedLength tag inner) xs :=
    le_total (nestedLength tag inner) hm
  have hlen : inner.encodedLength m < UInt64.size :=
    Nat.lt_of_le_of_lt (Nat.le_trans (encodedLength_le_nestedLength tag inner m) hsize) h
  rw [nested_eq_frame hf hlen, hinner m hlen]

theorem encode_eq_layout (f : Fields) (hf : f.wellFormed = true) (v : f.Value)
    (h : f.encodedLength v < UInt64.size) : f.encode v = f.layout v := by
  induction f with
  | nil => rfl
  | plain tag label s rest ih =>
      obtain ⟨x, v⟩ := v
      rw [encodedLength_plain] at h
      rw [encode, layout, ih (Bool.and_eq_true_iff.1 hf).2 v (by omega)]
  | repeated tag label s rest ih =>
      obtain ⟨xs, v⟩ := v
      rw [encodedLength_repeated] at h
      rw [encode, layout, ih (Bool.and_eq_true_iff.1 hf).2 v (by omega)]
  | message tag label inner rest ihInner ih =>
      obtain ⟨x, v⟩ := v
      obtain ⟨hfront, hrest⟩ := Bool.and_eq_true_iff.1 hf
      obtain ⟨-, hinner⟩ := Bool.and_eq_true_iff.1 hfront
      rw [encodedLength_message] at h
      rw [encode_message, layout, ih hrest v (by omega),
        flatMap_nested hinner (ihInner hinner) (by omega)]
  | messages tag label inner rest ihInner ih =>
      obtain ⟨xs, v⟩ := v
      obtain ⟨hfront, hrest⟩ := Bool.and_eq_true_iff.1 hf
      obtain ⟨-, hinner⟩ := Bool.and_eq_true_iff.1 hfront
      rw [encodedLength_messages] at h
      rw [encode_messages, layout, ih hrest v (by omega),
        flatMap_nested hinner (ihInner hinner) (by omega)]

end Fields

section

variable {α : Type} [Message α]

def layout (a : α) : Bytes := (Message.fields α).layout (Message.toValue a)

def messagesIn (a : α) : List (Σ g : Fields, g.Value) :=
  (Message.fields α).messagesIn (Message.toValue a)

variable [Regular α] {a : α}

theorem encodedLength_eq_length (h : encodedLength a < UInt64.size) :
    encodedLength a = (encode a).length :=
  Fields.encodedLength_eq_of_lt _ _ Regular.wellFormed (.inl h)

theorem encodedLength_lt (h : (encode a).length < UInt64.size) : encodedLength a < UInt64.size := by
  rw [encodedLength, Fields.encodedLength_eq _ _ Regular.wellFormed h]
  exact h

theorem encode_eq_layout (h : encodedLength a < UInt64.size) : encode a = layout a :=
  Fields.encode_eq_layout _ Regular.wellFormed _ h

theorem encodedLength_eq_of_mem_messagesIn (h : encodedLength a < UInt64.size)
    {p : Σ g : Fields, g.Value} (hp : p ∈ messagesIn a) :
    p.1.encodedLength p.2 = (p.1.encode p.2).length := by
  have hle : p.1.encodedLength p.2 ≤ encodedLength a := Fields.encodedLength_le_of_mem_messagesIn hp
  apply p.1.encodedLength_eq_of_lt p.2
  · exact Fields.wellFormed_of_mem_messagesIn Regular.wellFormed hp
  · exact .inl (Nat.lt_of_le_of_lt hle h)

end

end GasSponsor.Wire
