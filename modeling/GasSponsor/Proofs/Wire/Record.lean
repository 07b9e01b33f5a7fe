import GasSponsor.Proofs.Wire.Growth

/-!
# Records

What a record of the wire is, told apart from how it is read: a key and a payload, the payload being a
number, a fixed count of bytes, bytes behind their count, or a group of further records up to its
closing key. Numbers may be spelled in more bytes than they take. The reader of each part takes
exactly what is one and leaves what follows, so that where a record ends depends on the record alone.
-/

namespace GasSponsor.Wire

namespace Varint

/-- Bytes that spell a number: seven bits in each, the lowest first, and the high bit on all but the
last. -/
inductive Spells : Nat → Bytes → Prop
  | last {b : UInt8} (hb : b.toNat < 128) : Spells b.toNat [b]
  | more {b : UInt8} {n : Nat} {bs : Bytes} (hb : 128 ≤ b.toNat) (hbs : Spells n bs) :
      Spells (b.toNat - 128 + 128 * n) (b :: bs)

structure IsWord (n : Nat) (bs : Bytes) : Prop where
  spells : Spells n bs
  length_le : bs.length ≤ 10
  lt : n < UInt64.size

theorem Spells.ne_nil {n : Nat} {bs : Bytes} (h : Spells n bs) : bs ≠ [] := by
  cases h <;> exact List.cons_ne_nil _ _

theorem Spells.readUpTo {n : Nat} {bs : Bytes} (h : Spells n bs) {width : Nat}
    (hlen : bs.length ≤ width + 1) (hn : n < 2 * 128 ^ width) (rest : Bytes) :
    readUpTo (width + 1) (bs ++ rest) = .ok (n, rest) := by
  induction h generalizing width with
  | @last b hb =>
      rw [List.singleton_append, Varint.readUpTo, if_pos hb, if_neg]
      rintro ⟨rfl, htwo⟩
      exact absurd hn (Nat.not_lt_of_le (by simpa using htwo))
  | @more b n bs hb hbs ih =>
      obtain ⟨width, rfl⟩ : ∃ k, width = k + 1 := by
        have hpos : 0 < bs.length := List.length_pos_iff.2 hbs.ne_nil
        rw [List.length_cons] at hlen
        exact Nat.exists_eq_succ_of_ne_zero (by omega)
      rw [List.length_cons, Nat.add_le_add_iff_right] at hlen
      rw [Nat.pow_succ] at hn
      rw [List.cons_append, Varint.readUpTo, if_neg (Nat.not_lt_of_le hb), ih hlen (by omega)]
      rfl

theorem exists_spells_of_readUpTo {width n : Nat} {bs rest : Bytes}
    (h : readUpTo (width + 1) bs = .ok (n, rest)) :
    ∃ p, Spells n p ∧ p.length ≤ width + 1 ∧ n < 2 * 128 ^ width ∧ bs = p ++ rest := by
  induction width generalizing n bs with
  | zero =>
      cases bs with
      | nil => cases h
      | cons b bs =>
          rw [readUpTo] at h
          split at h
          · next hb =>
              split at h
              · cases h
              · next htwo =>
                  cases h
                  exact ⟨[b], .last hb, Nat.le_refl _, by omega, rfl⟩
          · cases h
  | succ width ih =>
      cases bs with
      | nil => cases h
      | cons b bs =>
          rw [readUpTo] at h
          split at h
          · next hb =>
              rw [if_neg (fun hlast => Nat.succ_ne_zero _ hlast.1)] at h
              cases h
              have hpos : 0 < 128 ^ width := Nat.pow_pos (by decide)
              exact ⟨[b], .last hb, by simp, by rw [Nat.pow_succ]; omega, rfl⟩
          · next hb =>
              obtain ⟨⟨high, left⟩, hhigh, hend⟩ := bind_eq_ok.1 h
              cases hend
              obtain ⟨p, hp, hlen, hlt, rfl⟩ := ih hhigh
              have hbyte := b.toNat_lt
              refine ⟨b :: p, .more (Nat.le_of_not_lt hb) hp, Nat.succ_le_succ hlen, ?_, rfl⟩
              rw [Nat.pow_succ]
              omega

theorem read_eq_ok {n : Nat} {bs rest : Bytes} :
    read bs = .ok (n, rest) ↔ ∃ p, IsWord n p ∧ bs = p ++ rest := by
  have hsize : UInt64.size = 2 * 128 ^ 9 := by decide
  constructor
  · intro h
    obtain ⟨p, hspells, hlen, hlt, rfl⟩ := exists_spells_of_readUpTo h
    exact ⟨p, ⟨hspells, hlen, hsize ▸ hlt⟩, rfl⟩
  · rintro ⟨p, ⟨hspells, hlen, hlt⟩, rfl⟩
    exact hspells.readUpTo hlen (hsize ▸ hlt) rest

/-- A number below 128 may be spelled by the byte that it is. -/
theorem isWord_singleton {b : UInt8} (hb : b.toNat < 128) : IsWord b.toNat [b] :=
  ⟨.last hb, by simp, Nat.lt_trans hb (by decide)⟩

end Varint

open Varint (IsWord)

structure IsKey (tag : Nat) (type : WireType) (bs : Bytes) : Prop where
  pos : 0 < tag
  lt : keyNumber tag type < UInt32.size
  isWord : IsWord (keyNumber tag type) bs

theorem IsKey.length_pos {tag : Nat} {type : WireType} {bs : Bytes} (h : IsKey tag type bs) :
    0 < bs.length :=
  List.length_pos_iff.2 h.isWord.spells.ne_nil

theorem readKey_eq_ok {tag : Nat} {type : WireType} {bs rest : Bytes} :
    readKey bs = .ok (tag, type, rest) ↔ ∃ k, IsKey tag type k ∧ bs = k ++ rest := by
  constructor
  · intro h
    obtain ⟨⟨number, left⟩, hread, hend⟩ := bind_eq_ok.1 h
    obtain ⟨k, hk, rfl⟩ := Varint.read_eq_ok.1 hread
    dsimp only at hend
    split at hend
    · cases hend
    · next hlt =>
        split at hend
        · cases hend
        · next type' hcode =>
            split at hend
            · cases hend
            · next hpos =>
                cases hend
                have hnumber : keyNumber (number / 8) type = number := by
                  rw [keyNumber, WireType.code_of_ofCode? hcode]
                  omega
                exact ⟨k, ⟨Nat.pos_of_ne_zero hpos, by omega, hnumber.symm ▸ hk⟩, rfl⟩
  · rintro ⟨k, ⟨hpos, hlt, hk⟩, rfl⟩
    have hcode : type.code < 8 := by cases type <;> decide
    have hmod : keyNumber tag type % 8 = type.code := by simp only [keyNumber]; omega
    have hdiv : keyNumber tag type / 8 = tag := by simp only [keyNumber]; omega
    rw [readKey, Varint.read_eq_ok.2 ⟨k, hk, rfl⟩]
    simp only [bind, Except.bind]
    rw [if_neg (Nat.not_le_of_lt hlt), hmod, WireType.ofCode?_code]
    dsimp only
    rw [hdiv, if_neg (Nat.ne_of_gt hpos)]

theorem dropExactly_eq_ok {count : Nat} {bs rest : Bytes} :
    dropExactly count bs = .ok rest ↔ ∃ c, c.length = count ∧ bs = c ++ rest := by
  unfold dropExactly
  constructor
  · intro h
    split at h
    · cases h
    · cases h
      refine ⟨bs.take count, ?_, (List.take_append_drop count bs).symm⟩
      rw [List.length_take]
      omega
  · rintro ⟨c, rfl, rfl⟩
    rw [if_neg (by simp), List.drop_left]

theorem readChunk_eq_ok {bs content rest : Bytes} : readChunk bs = .ok (content, rest) ↔
    ∃ size, IsWord content.length size ∧ bs = (size ++ content) ++ rest := by
  constructor
  · intro h
    obtain ⟨⟨length, left⟩, hread, hend⟩ := bind_eq_ok.1 h
    obtain ⟨size, hsize, rfl⟩ := Varint.read_eq_ok.1 hread
    dsimp only at hend
    split at hend
    · cases hend
    · cases hend
      have hlen : (left.take length).length = length := by
        rw [List.length_take]
        omega
      refine ⟨size, hlen.symm ▸ hsize, ?_⟩
      rw [List.append_assoc, List.take_append_drop]
  · rintro ⟨size, hsize, rfl⟩
    rw [readChunk, List.append_assoc, Varint.read_eq_ok.2 ⟨size, hsize, rfl⟩]
    simp only [bind, Except.bind]
    rw [if_neg (by simp), List.take_left, List.drop_left]

inductive IsPlain : WireType → Bytes → Prop
  | varint {n : Nat} {bs : Bytes} (h : IsWord n bs) : IsPlain .varint bs
  | fixed64 {bs : Bytes} (h : bs.length = 8) : IsPlain .fixed64 bs
  | fixed32 {bs : Bytes} (h : bs.length = 4) : IsPlain .fixed32 bs
  | chunk {size content : Bytes} (h : IsWord content.length size) :
      IsPlain .lengthDelimited (size ++ content)

theorem isPlain_varint {p : Bytes} : IsPlain .varint p ↔ ∃ n, IsWord n p :=
  ⟨fun h => match h with | .varint hn => ⟨_, hn⟩, fun ⟨_, hn⟩ => .varint hn⟩

theorem isPlain_fixed64 {p : Bytes} : IsPlain .fixed64 p ↔ p.length = 8 :=
  ⟨fun h => match h with | .fixed64 hp => hp, .fixed64⟩

theorem isPlain_fixed32 {p : Bytes} : IsPlain .fixed32 p ↔ p.length = 4 :=
  ⟨fun h => match h with | .fixed32 hp => hp, .fixed32⟩

theorem isPlain_lengthDelimited {p : Bytes} : IsPlain .lengthDelimited p ↔
    ∃ size content, IsWord content.length size ∧ p = size ++ content := by
  constructor
  · rintro ⟨⟩
    exact ⟨_, _, ‹_›, rfl⟩
  · rintro ⟨size, content, hsize, rfl⟩
    exact .chunk hsize

inductive Sequence (payload : Nat → WireType → Bytes → Prop) : Bytes → Prop
  | nil : Sequence payload []
  | record {tag : Nat} {type : WireType} {k p bs : Bytes} (hkey : IsKey tag type k)
      (hpayload : payload tag type p) (hrest : Sequence payload bs) :
      Sequence payload (k ++ (p ++ bs))

/-- The payload of any record, with groups within one another to a depth. A group holds records up to
a closing key with its own tag. -/
def IsPayload : Nat → Nat → WireType → Bytes → Prop
  | 0, _, _, _ => False
  | depth + 1, tag, type, p => IsPlain type p ∨
    type = .startGroup ∧ ∃ body close, IsKey tag .endGroup close ∧
      Sequence (IsPayload depth) body ∧ p = body ++ close

theorem IsPlain.isPayload {type : WireType} {p : Bytes} (h : IsPlain type p) (depth tag : Nat) :
    IsPayload (depth + 1) tag type p := .inl h

theorem isPayload_iff_isPlain {depth tag : Nat} {type : WireType} {p : Bytes}
    (h : type ≠ .startGroup) : IsPayload (depth + 1) tag type p ↔ IsPlain type p :=
  or_iff_left fun hgroup => h hgroup.1

theorem Sequence.mono {payload payload' : Nat → WireType → Bytes → Prop}
    (hmono : ∀ tag type p, payload tag type p → payload' tag type p) {bs : Bytes}
    (h : Sequence payload bs) : Sequence payload' bs := by
  induction h with
  | nil => exact .nil
  | record hkey hpayload _ ih => exact .record hkey (hmono _ _ _ hpayload) ih

theorem IsPayload.succ {depth tag : Nat} {type : WireType} {p : Bytes}
    (h : IsPayload depth tag type p) : IsPayload (depth + 1) tag type p := by
  induction depth generalizing tag type p with
  | zero => exact h.elim
  | succ depth ih =>
      rcases h with hplain | ⟨htype, body, close, hclose, hbody, rfl⟩
      · exact .inl hplain
      · exact .inr ⟨htype, body, close, hclose, hbody.mono fun _ _ _ => ih, rfl⟩

theorem IsPayload.mono {depth depth' tag : Nat} {type : WireType} {p : Bytes}
    (h : IsPayload depth tag type p) (hle : depth ≤ depth') : IsPayload depth' tag type p := by
  induction hle with
  | refl => exact h
  | step _ ih => exact ih.succ

theorem IsPayload.ne_endGroup {depth tag : Nat} {type : WireType} {p : Bytes}
    (h : IsPayload depth tag type p) : type ≠ .endGroup := by
  rintro rfl
  cases depth with
  | zero => exact h
  | succ depth =>
      rcases h with hplain | ⟨htype, -⟩
      · cases hplain
      · cases htype

def Skips (skip : WireType → Nat → Bytes → Result Bytes)
    (payload : Nat → WireType → Bytes → Prop) : Prop :=
  ∀ type tag bs rest, skip type tag bs = .ok rest ↔ ∃ p, payload tag type p ∧ bs = p ++ rest

section

variable {skip : WireType → Nat → Bytes → Result Bytes} {payload : Nat → WireType → Bytes → Prop}
  {tag : Nat}

theorem Skips.exists_group (hskip : Skips skip payload) {records : Nat} {bs rest : Bytes}
    (h : skipGroup skip tag records bs = .ok rest) : ∃ body close, IsKey tag .endGroup close ∧
      Sequence payload body ∧ bs = (body ++ close) ++ rest := by
  induction records generalizing bs with
  | zero => cases h
  | succ records ih =>
      obtain ⟨⟨inner, type, left⟩, hkey, hrest⟩ := bind_eq_ok.1 h
      obtain ⟨k, hk, rfl⟩ := readKey_eq_ok.1 hkey
      dsimp only at hrest
      split at hrest
      · next htype =>
          subst htype
          split at hrest
          · next hinner =>
              cases hrest
              exact ⟨[], k, hinner ▸ hk, .nil, rfl⟩
          · cases hrest
      · obtain ⟨later, hlater, hend⟩ := bind_eq_ok.1 hrest
        obtain ⟨p, hp, rfl⟩ := (hskip _ _ _ _).1 hlater
        obtain ⟨body, close, hclose, hbody, rfl⟩ := ih hend
        exact ⟨_, close, hclose, .record hk hp hbody, by simp only [List.append_assoc]⟩

theorem Skips.group (hskip : Skips skip payload)
    (hopen : ∀ tag type p, payload tag type p → type ≠ .endGroup) {body close : Bytes}
    (hclose : IsKey tag .endGroup close) (hbody : Sequence payload body) {records : Nat}
    {rest : Bytes} (hlen : ((body ++ close) ++ rest).length < records) :
    skipGroup skip tag records ((body ++ close) ++ rest) = .ok rest := by
  induction hbody generalizing records with
  | nil =>
      obtain ⟨records, rfl⟩ := Nat.exists_eq_succ_of_ne_zero (Nat.ne_of_gt (Nat.zero_lt_of_lt hlen))
      rw [List.nil_append, skipGroup, readKey_eq_ok.2 ⟨close, hclose, rfl⟩]
      simp only [bind, Except.bind, if_true]
  | @record inner type k p body hkey hpayload _ ih =>
      obtain ⟨records, rfl⟩ := Nat.exists_eq_succ_of_ne_zero (Nat.ne_of_gt (Nat.zero_lt_of_lt hlen))
      have hpos := hkey.length_pos
      simp only [List.append_assoc, List.length_append] at hlen ih ⊢
      rw [skipGroup, readKey_eq_ok.2 ⟨k, hkey, rfl⟩]
      simp only [bind, Except.bind]
      rw [if_neg (hopen _ _ _ hpayload), (hskip _ _ _ _).2 ⟨p, hpayload, rfl⟩]
      exact ih (by omega)

end

theorem skipValue_eq_ok {depth tag : Nat} {type : WireType} {bs rest : Bytes}
    (h : type ≠ .startGroup) : skipValue (depth + 1) type tag bs = .ok rest ↔
      ∃ p, IsPlain type p ∧ bs = p ++ rest := by
  cases type with
  | varint =>
      simp only [isPlain_varint]
      constructor
      · intro h
        obtain ⟨⟨n, left⟩, hread, hend⟩ := bind_eq_ok.1 h
        cases hend
        obtain ⟨p, hp, rfl⟩ := Varint.read_eq_ok.1 hread
        exact ⟨p, ⟨n, hp⟩, rfl⟩
      · rintro ⟨p, ⟨n, hp⟩, rfl⟩
        exact bind_eq_ok.2 ⟨_, Varint.read_eq_ok.2 ⟨p, hp, rfl⟩, rfl⟩
  | fixed64 =>
      simp only [isPlain_fixed64]
      exact dropExactly_eq_ok
  | fixed32 =>
      simp only [isPlain_fixed32]
      exact dropExactly_eq_ok
  | lengthDelimited =>
      simp only [isPlain_lengthDelimited]
      constructor
      · intro h
        obtain ⟨⟨n, left⟩, hread, hend⟩ := bind_eq_ok.1 h
        obtain ⟨size, hsize, rfl⟩ := Varint.read_eq_ok.1 hread
        obtain ⟨content, rfl, rfl⟩ := dropExactly_eq_ok.1 hend
        exact ⟨size ++ content, ⟨size, content, hsize, rfl⟩, (List.append_assoc _ _ _).symm⟩
      · rintro ⟨_, ⟨size, content, hsize, rfl⟩, rfl⟩
        rw [List.append_assoc]
        exact bind_eq_ok.2 ⟨_, Varint.read_eq_ok.2 ⟨size, hsize, rfl⟩,
          dropExactly_eq_ok.2 ⟨content, rfl, rfl⟩⟩
  | startGroup => exact absurd rfl h
  | endGroup => exact iff_of_false nofun nofun

/-- Skipping takes the payload of a record, and nothing that is none. -/
theorem skips_skipValue (depth : Nat) : Skips (skipValue depth) (IsPayload depth) := by
  induction depth with
  | zero => exact fun type tag bs rest => iff_of_false nofun nofun
  | succ depth ih =>
      intro type tag bs rest
      by_cases htype : type = .startGroup
      · subst htype
        constructor
        · intro h
          obtain ⟨body, close, hclose, hbody, rfl⟩ := ih.exists_group h
          exact ⟨body ++ close, .inr ⟨rfl, body, close, hclose, hbody, rfl⟩, rfl⟩
        · rintro ⟨p, hplain | ⟨-, body, close, hclose, hbody, rfl⟩, rfl⟩
          · cases hplain
          · exact ih.group (fun _ _ _ => IsPayload.ne_endGroup) hclose hbody (Nat.lt_succ_self _)
      · simp only [isPayload_iff_isPlain htype]
        exact skipValue_eq_ok htype

/-- Where a payload ends depends on the payload alone. -/
theorem IsPayload.unique {depth depth' tag : Nat} {type : WireType} {p p' rest rest' : Bytes}
    (h : IsPayload depth tag type p) (h' : IsPayload depth' tag type p')
    (heq : p ++ rest = p' ++ rest') : p = p' ∧ rest = rest' := by
  have hread : skipValue (max depth depth') type tag (p ++ rest) = .ok rest :=
    (skips_skipValue _ _ _ _ _).2 ⟨p, h.mono (Nat.le_max_left _ _), rfl⟩
  have hread' : skipValue (max depth depth') type tag (p ++ rest) = .ok rest' :=
    (skips_skipValue _ _ _ _ _).2 ⟨p', h'.mono (Nat.le_max_right _ _), heq⟩
  obtain rfl : rest = rest' := Except.ok.inj (hread.symm.trans hread')
  exact ⟨List.append_cancel_right heq, rfl⟩

end GasSponsor.Wire
