import Mathlib.Data.List.Basic
import GasSponsor.Proofs.Bech32.Checksum
import GasSponsor.Proofs.Bytes.Hex

/-!
# Bech32 text

Text is written for exactly the human-readable parts that are admissible. It is the human-readable part
in lower case, the separator, the units of the data and the checksum, and the verifier reads from it
what it was written for. The separator is the last digit one, so that there may be others before it.
-/

namespace GasSponsor

namespace Bytes

def IsAscii (s : String) : Prop := ∀ c ∈ s.toList, c.toNat < 128

theorem utf8_of_ascii {c : Char} (h : c.toNat < 128) :
    String.utf8EncodeChar c = [UInt8.ofNat c.toNat] :=
  if_pos (Nat.le_of_lt_succ h)

/-- Every character beyond ASCII has a byte beyond ASCII, its last. -/
theorem ascii_of_utf8 {c : Char} (h : ∀ b ∈ String.utf8EncodeChar c, b.toNat < 128) :
    c.toNat < 128 := by
  by_contra hwide
  have hlast : UInt8.ofNat (c.toNat % 64 + 128) ∈ String.utf8EncodeChar c := by
    change _ ∈ ite (c.toNat ≤ 127) _ (ite (c.toNat ≤ 2047) _ (ite (c.toNat ≤ 65535) _ _))
    rw [if_neg fun hnarrow => hwide (Nat.lt_succ_of_le hnarrow)]
    split
    · exact .tail _ (.head _)
    · split
      · exact .tail _ (.tail _ (.head _))
      · exact .tail _ (.tail _ (.tail _ (.head _)))
  have hlow := h _ hlast
  rw [UInt8.toNat_ofNat'] at hlow
  omega

theorem ofText_eq_flatMap (s : String) : ofText s = s.toList.flatMap String.utf8EncodeChar := by
  rw [← ofText_ofList, String.ofList_toList]

theorem isAscii_of_bytes {s : String} (h : ∀ b ∈ ofText s, b.toNat < 128) : IsAscii s := by
  rw [ofText_eq_flatMap] at h
  intro c hc
  exact ascii_of_utf8 fun b hb => h b (List.mem_flatMap.2 ⟨c, hc, hb⟩)

theorem ofText_of_isAscii {s : String} (h : IsAscii s) :
    ofText s = s.toList.map fun c => UInt8.ofNat c.toNat := by
  rw [ofText_eq_flatMap, List.map_eq_flatMap]
  exact List.flatMap_congr fun c hc => utf8_of_ascii (h c hc)

/-- What holds of the first 128 characters holds of all in such a text. -/
theorem IsAscii.forall_mem {s : String} (h : IsAscii s) {P : Char → Prop}
    (hall : ∀ n < 128, P (Char.ofNat n)) : ∀ c ∈ s.toList, P c := by
  intro c hc
  rw [← Char.ofNat_toNat c]
  exact hall c.toNat (h c hc)

theorem toList_toLower (s : String) : s.toLower.toList = s.toList.map Char.toLower :=
  String.toList_map

theorem IsAscii.toLower {s : String} (h : IsAscii s) : IsAscii s.toLower := by
  have hall : ∀ n < 128, (Char.ofNat n).toLower.toNat < 128 := by decide
  intro c hc
  rw [toList_toLower] at hc
  obtain ⟨d, hd, rfl⟩ := List.mem_map.1 hc
  exact h.forall_mem (P := fun c => c.toLower.toNat < 128) hall d hd

/-- The characters of the bytes are those of the text. -/
theorem IsAscii.map_ofNat {s : String} (h : IsAscii s) :
    (ofText s).map (fun b => Char.ofNat b.toNat) = s.toList := by
  have hall : ∀ n < 128,
      Char.ofNat (UInt8.ofNat (Char.ofNat n).toNat).toNat = Char.ofNat n := by decide
  rw [ofText_of_isAscii h, List.map_map]
  exact (List.map_congr_left (h.forall_mem hall)).trans (List.map_id _)

end Bytes

namespace Bech32

structure Admissible (hrp : Bytes) : Prop where
  ne_nil : hrp ≠ []
  length_le : hrp.length ≤ 83
  visible : ∀ b ∈ hrp, 33 ≤ b.toNat ∧ b.toNat ≤ 126
  oneCase : hrp.any isLower = false ∨ hrp.any isUpper = false

theorem checkFrom_eq_ok {lower upper : Bool} {hrp : Bytes} (h : (lower && upper) = false) :
    checkFrom lower upper hrp = .ok () ↔ (∀ b ∈ hrp, 33 ≤ b.toNat ∧ b.toNat ≤ 126) ∧
      ((lower || hrp.any isLower) && (upper || hrp.any isUpper)) = false := by
  induction hrp generalizing lower upper with
  | nil => simp [checkFrom, h]
  | cons b hrp ih =>
      rw [checkFrom, List.forall_mem_cons, List.any_cons, List.any_cons, ← Bool.or_assoc,
        ← Bool.or_assoc]
      split
      · next hinvisible =>
          constructor
          · exact nofun
          · rintro ⟨⟨hvisible, -⟩, -⟩
            omega
      · next hvisible =>
          dsimp only
          split
          · next hmixed =>
              rw [Bool.and_eq_true] at hmixed
              simp [hmixed]
          · next hpure =>
              have hb : 33 ≤ b.toNat ∧ b.toNat ≤ 126 := by omega
              rw [ih (Bool.eq_false_iff.2 hpure)]
              simp only [hb, true_and, and_self]

theorem checkHrp_eq_ok {hrp : Bytes} : checkHrp hrp = .ok () ↔ Admissible hrp := by
  rw [checkHrp]
  split
  · next hlength =>
      constructor
      · exact nofun
      · intro h
        rcases hlength with hempty | hlong
        · exact absurd (List.isEmpty_iff.1 hempty) h.ne_nil
        · exact absurd h.length_le (Nat.not_le_of_lt hlong)
  · next hlength =>
      obtain ⟨hempty, hlong⟩ := not_or.1 hlength
      rw [checkFrom_eq_ok rfl, Bool.false_or, Bool.false_or, Bool.and_eq_false_iff]
      constructor
      · rintro ⟨hvisible, hcase⟩
        exact ⟨mt List.isEmpty_iff.2 hempty, Nat.le_of_not_lt hlong, hvisible, hcase⟩
      · exact fun h => ⟨h.visible, h.oneCase⟩

theorem Admissible.isAscii {hrp : String} (h : Admissible (Bytes.ofText hrp)) :
    Bytes.IsAscii hrp :=
  Bytes.isAscii_of_bytes fun b hb => Nat.lt_of_le_of_lt (h.visible b hb).2 (by decide)

def lowerByte (b : UInt8) : UInt8 := if isUpper b then b + 32 else b

theorem lowercase_eq_map (hrp : Bytes) : lowercase hrp = hrp.map lowerByte := rfl

theorem lowercase_ofText {hrp : String} (h : Bytes.IsAscii hrp) :
    lowercase (Bytes.ofText hrp) = Bytes.ofText hrp.toLower := by
  have hall : ∀ n < 128, lowerByte (UInt8.ofNat (Char.ofNat n).toNat) =
      UInt8.ofNat (Char.ofNat n).toLower.toNat := by decide
  rw [Bytes.ofText_of_isAscii h.toLower, Bytes.ofText_of_isAscii h, Bytes.toList_toLower,
    lowercase_eq_map, List.map_map, List.map_map]
  exact List.map_congr_left (h.forall_mem hall)

theorem isUpper_iff {b : UInt8} : isUpper b = true ↔ 65 ≤ b.toNat ∧ b.toNat ≤ 90 := by
  rw [isUpper, Bool.and_eq_true, decide_eq_true_iff, decide_eq_true_iff]

theorem toNat_lowerByte (b : UInt8) : (lowerByte b).toNat =
    if 65 ≤ b.toNat ∧ b.toNat ≤ 90 then b.toNat + 32 else b.toNat := by
  rw [lowerByte]
  split
  · next hupper =>
      have hrange := isUpper_iff.1 hupper
      have hword : (32 : UInt8).toNat = 32 := rfl
      rw [if_pos hrange, UInt8.toNat_add, hword]
      omega
  · next hother => rw [if_neg (mt isUpper_iff.2 hother)]

theorem isUpper_lowerByte (b : UInt8) : isUpper (lowerByte b) = false := by
  rw [Bool.eq_false_iff, ne_eq, isUpper_iff, toNat_lowerByte]
  split <;> omega

/-- Lower case leaves a human-readable part admissible, without capitals. -/
theorem Admissible.lowercase {hrp : Bytes} (h : Admissible hrp) :
    Admissible (lowercase hrp) ∧ (Bech32.lowercase hrp).any isUpper = false := by
  have hlower : (Bech32.lowercase hrp).any isUpper = false := by
    rw [lowercase_eq_map, List.any_map, List.any_eq_false]
    exact fun b _ => Bool.eq_false_iff.1 (isUpper_lowerByte b)
  refine ⟨⟨?_, ?_, ?_, .inr hlower⟩, hlower⟩
  · exact mt List.map_eq_nil_iff.1 h.ne_nil
  · rw [lowercase_eq_map, List.length_map]
    exact h.length_le
  · rw [lowercase_eq_map, List.forall_mem_map]
    intro b hb
    have hvisible := h.visible b hb
    rw [toNat_lowerByte]
    split <;> omega

theorem unit?_symbol {u : Nat} (h : u < 32) : unit? (symbol u) = some u := by
  have hall : ∀ u < 32, unit? (symbol u) = some u := by decide
  exact hall u h

theorem symbol_ne_separator {u : Nat} (h : u < 32) : symbol u ≠ '1' := by
  have hall : ∀ u < 32, symbol u ≠ '1' := by decide
  exact hall u h

/-- Symbols are read as the units that they stand for. -/
theorem mapM_unit? {units : List Nat} (h : ∀ u ∈ units, u < 32) :
    (units.map symbol).mapM unit? = some units := by
  induction units with
  | nil => rfl
  | cons u units ih =>
      rw [List.map_cons, List.mapM_cons, unit?_symbol (h u List.mem_cons_self),
        ih fun v hv => h v (List.mem_cons_of_mem u hv)]
      rfl

/-- A Bech32 text in lower case: an admissible human-readable part, the separator, units of data, and six
units of a checksum that is right. -/
structure IsText (text hrp : String) (units : List Nat) : Prop where
  admissible : Admissible (Bytes.ofText hrp)
  lower : (Bytes.ofText hrp).any isUpper = false
  parts : ∃ check : List Nat, check.length = 6 ∧ (∀ u ∈ units ++ check, u < 32) ∧
    text = hrp ++ "1" ++ String.ofList ((units ++ check).map symbol) ∧
    polymod (expand (Bytes.ofText hrp) ++ units ++ check) = 1

theorem admissible_of_encode {hrp data : Bytes} {text : String} (h : encode hrp data = .ok text) :
    Admissible hrp := by
  rw [encode] at h
  cases hcheck : checkHrp hrp with
  | error e =>
      rw [hcheck] at h
      cases h
  | ok _ => exact checkHrp_eq_ok.1 hcheck

theorem encode_of_admissible {hrp : Bytes} (h : Admissible hrp) (data : Bytes) :
    encode hrp data = .ok (String.ofList ((lowercase hrp).map (fun b => Char.ofNat b.toNat) ++
      '1' :: (regroup data ++ checksum (lowercase hrp) (regroup data)).map symbol)) := by
  rw [encode, checkHrp_eq_ok.2 h]
  rfl

/-- What is written is the text for the human-readable part in lower case. -/
theorem isText_of_encode {hrp text : String} {data : Bytes}
    (h : encode (Bytes.ofText hrp) data = .ok text) : IsText text hrp.toLower (regroup data) := by
  have hadmissible := admissible_of_encode h
  have hascii := hadmissible.isAscii
  obtain ⟨hlowered, hlower⟩ := hadmissible.lowercase
  rw [encode_of_admissible hadmissible, lowercase_ofText hascii, hascii.toLower.map_ofNat] at h
  rw [lowercase_ofText hascii] at hlowered hlower
  refine ⟨hlowered, hlower, checksum (Bytes.ofText hrp.toLower) (regroup data), length_checksum _ _,
    ?_, ?_, ?_⟩
  · exact List.forall_mem_append.2 ⟨regroup_lt data, checksum_lt _ _⟩
  · rw [← Except.ok.inj h]
    apply String.toList_inj.1
    simp
  · exact polymod_checksum _ _

/-- The verifier takes the text apart where it was put together. -/
theorem IsText.verify {text hrp : String} {units : List Nat} (h : IsText text hrp units) :
    verify? text = some (Bytes.ofText hrp, ungroup units) := by
  obtain ⟨check, hlength, hunits, rfl, hcheck⟩ := h.parts
  have hreverse : (hrp ++ "1" ++ String.ofList ((units ++ check).map symbol)).toList.reverse =
      ((units ++ check).map symbol).reverse ++ '1' :: hrp.toList.reverse := by
    simp
  have hsymbols : ∀ c ∈ ((units ++ check).map symbol).reverse, (c != '1') = true := by
    intro c hc
    obtain ⟨u, hu, rfl⟩ := List.mem_map.1 (List.mem_reverse.1 hc)
    exact bne_iff_ne.2 (symbol_ne_separator (hunits u hu))
  rw [verify?, hreverse, List.takeWhile_append_of_pos hsymbols,
    List.dropWhile_append_of_pos hsymbols, List.takeWhile_cons_of_neg (by decide),
    List.dropWhile_cons_of_neg (by decide), List.append_nil, List.reverse_reverse, List.tail_cons,
    List.reverse_reverse, String.ofList_toList, mapM_unit? hunits]
  have hright : ¬ ((units ++ check).length < 6 ∨ (Bytes.ofText hrp).isEmpty = true ∨
      polymod (expand (Bytes.ofText hrp) ++ (units ++ check)) ≠ 1) := by
    rw [List.length_append, hlength, ← List.append_assoc]
    rintro (hshort | hempty | hwrong)
    · omega
    · exact h.admissible.ne_nil (List.isEmpty_iff.1 hempty)
    · exact hwrong hcheck
  have htake : (units ++ check).take ((units ++ check).length - 6) = units := by
    rw [List.length_append, hlength, Nat.add_sub_cancel, List.take_left']
    rfl
  refine (if_neg hright).trans ?_
  rw [htake]

end Bech32

end GasSponsor
