import GasSponsor.Bytes.Hex
import GasSponsor.Ethereum.Checksum

/-!
# Hexadecimal text read back

A text spells a byte string when it has two digits for each byte, in letters of either case. What
it spells is what is read from it, and both the plain digits and those with a checksum spell the
bytes that they were made from.
-/

namespace GasSponsor

theorem Bytes.ofText_ofList (cs : List Char) :
    ofText (String.ofList cs) = cs.flatMap String.utf8EncodeChar := by
  rw [ofText, String.toByteArray_ofList, List.utf8Encode]
  simp

theorem Bytes.ofText_append (s t : String) : ofText (s ++ t) = ofText s ++ ofText t := by
  simp [ofText]

namespace Hex

def IsDigit (c : Char) (value : Nat) : Prop :=
  (String.utf8EncodeChar c).map digitValue? = [some value]

instance (c : Char) (value : Nat) : Decidable (IsDigit c value) :=
  inferInstanceAs (Decidable (_ = _))

theorem isDigit_digit {n : Nat} (h : n < 16) : IsDigit (digit n) n := by
  have hall : ∀ d < 16, IsDigit (digit d) d := by decide
  exact hall n h

theorem isDigit_capitalise {n : Nat} (h : n < 16) (nibble : Nat) :
    IsDigit (Ethereum.capitalise (digit n) nibble) n := by
  have hall : ∀ d < 16, IsDigit (digit d).toUpper d := by decide
  rw [Ethereum.capitalise]
  split
  · exact hall n h
  · exact isDigit_digit h

theorem IsDigit.exists_byte {c : Char} {n : Nat} (h : IsDigit c n) :
    ∃ b, String.utf8EncodeChar c = [b] ∧ digitValue? b = some n := by
  obtain ⟨b, hchar, hvalue⟩ := List.map_eq_singleton_iff.1 h
  exact ⟨b, hchar, hvalue⟩

inductive Spells : List Char → Bytes → Prop
  | nil : Spells [] []
  | cons {high low : Char} {b : UInt8} {cs : List Char} {bs : Bytes}
      (hhigh : IsDigit high (b.toNat / 16)) (hlow : IsDigit low (b.toNat % 16))
      (hrest : Spells cs bs) : Spells (high :: low :: cs) (b :: bs)

theorem spells_digits (bs : Bytes) : Spells (digits bs) bs := by
  induction bs with
  | nil => exact .nil
  | cons b bs ih =>
      have hb : b.toNat < 256 := b.toNat_lt
      have hhigh : IsDigit (digit (b.toNat / 16)) (b.toNat / 16) := isDigit_digit (by omega)
      have hlow : IsDigit (digit (b.toNat % 16)) (b.toNat % 16) := isDigit_digit (by omega)
      exact .cons hhigh hlow ih

/-- The case of the letters does not matter. -/
theorem spells_capitalised (bs : Bytes) (nibbles : List Nat)
    (h : 2 * bs.length ≤ nibbles.length) :
    Spells (List.zipWith Ethereum.capitalise (digits bs) nibbles) bs := by
  induction bs generalizing nibbles with
  | nil => exact .nil
  | cons b bs ih =>
      rw [List.length_cons] at h
      match nibbles with
      | [] | [_] => simp only [List.length_nil, List.length_singleton] at h; omega
      | first :: second :: nibbles =>
          simp only [List.length_cons] at h
          have hb : b.toNat < 256 := b.toNat_lt
          have hhigh := isDigit_capitalise (n := b.toNat / 16) (by omega) first
          have hlow := isDigit_capitalise (n := b.toNat % 16) (by omega) second
          exact .cons hhigh hlow (ih nibbles (by omega))

theorem Spells.decodePairs {cs : List Char} {bs : Bytes} (h : Spells cs bs) (position : Nat) :
    decodePairs position (cs.flatMap String.utf8EncodeChar) = .ok bs := by
  induction h generalizing position with
  | nil => rfl
  | @cons high low b cs bs hhigh hlow _ ih =>
      obtain ⟨x, hx, hxvalue⟩ := hhigh.exists_byte
      obtain ⟨y, hy, hyvalue⟩ := hlow.exists_byte
      have hb : 16 * (b.toNat / 16) + b.toNat % 16 = b.toNat := Nat.div_add_mod _ _
      rw [List.flatMap_cons, List.flatMap_cons, hx, hy, List.singleton_append, List.singleton_append,
        Hex.decodePairs, hxvalue, hyvalue]
      simp only [ih, bind, Except.bind, pure, Except.pure, hb, UInt8.ofNat_toNat]

theorem Spells.length {cs : List Char} {bs : Bytes} (h : Spells cs bs) :
    (cs.flatMap String.utf8EncodeChar).length = 2 * bs.length := by
  induction h with
  | nil => rfl
  | cons hhigh hlow _ ih =>
      obtain ⟨x, hx, -⟩ := hhigh.exists_byte
      obtain ⟨y, hy, -⟩ := hlow.exists_byte
      rw [List.flatMap_cons, List.flatMap_cons, hx, hy, List.singleton_append,
        List.singleton_append, List.length_cons, List.length_cons, List.length_cons, ih]
      omega

theorem dropMark_append (s : String) : dropMark ("0x" ++ s) = Bytes.ofText s := by
  have hmark : Bytes.ofText "0x" = [0x30, 0x78] := by decide
  rw [dropMark, Bytes.ofText_append, hmark]
  rfl

/-- What a text spells is read from it, also behind `0x`. -/
theorem Spells.decode {cs : List Char} {bs : Bytes} (h : Spells cs bs) :
    Hex.decode (dropMark ("0x" ++ String.ofList cs)) = .ok bs := by
  have heven : ¬ (cs.flatMap String.utf8EncodeChar).length % 2 = 1 := by
    rw [h.length]
    omega
  rw [dropMark_append, Bytes.ofText_ofList, Hex.decode, if_neg heven, h.decodePairs]

theorem decode_encodePrefixed (bs : Bytes) : decode (dropMark (encodePrefixed bs)) = .ok bs :=
  (spells_digits bs).decode

theorem encodePrefixed_inj {bs cs : Bytes} (h : encodePrefixed bs = encodePrefixed cs) : bs = cs := by
  have hread := congrArg (fun text => decode (dropMark text)) h
  rw [decode_encodePrefixed, decode_encodePrefixed] at hread
  exact Except.ok.inj hread

end Hex

namespace Ethereum

theorem length_nibbles (bs : Bytes) : (nibbles bs).length = 2 * bs.length := by
  induction bs with
  | nil => rfl
  | cons b bs ih =>
      rw [nibbles, List.flatMap_cons, List.length_append, ← nibbles, ih]
      simp
      omega

theorem decode_checksummed (address : Address) :
    Hex.decode (Hex.dropMark (checksummed address)) = .ok address.bytes := by
  refine (Hex.spells_capitalised address.bytes _ ?_).decode
  rw [length_nibbles, address.length_eq, FixedBytes.length_eq]
  decide

end Ethereum

end GasSponsor
