import GasSponsor.Proofs.Wire.RoundTrip

/-!
# Messages written again

What is read need not have been written in the shortest way. Written again it takes at most twice the
bytes: a number of 32 bits below zero takes ten bytes and may have been read from five, and nothing
else takes more than before. The account is kept record by record, with two bytes owed for each byte
that is read, and holds across merged messages because the length of a sum takes no more bytes than the
lengths of its parts.
-/

namespace GasSponsor.Wire

theorem bind_eq_ok {α β : Type} {x : Result α} {f : α → Result β} {b : β} :
    x >>= f = .ok b ↔ ∃ a, x = .ok a ∧ f a = .ok b := by
  cases x with
  | error e => simp [bind, Except.bind]
  | ok a => simp [bind, Except.bind]

theorem labelled_eq_ok {α : Type} {label : String} {x : Result α} {a : α} :
    labelled label x = .ok a ↔ x = .ok a := by
  cases x with
  | error e =>
      change Except.error (e.within label) = Except.ok a ↔ _
      simp
  | ok b => exact Iff.rfl

namespace Varint

theorem length_encode_le_iff (width n : Nat) :
    (encode n).length ≤ width + 1 ↔ n < 128 ^ (width + 1) := by
  induction width generalizing n with
  | zero =>
      by_cases hn : n < 128
      · simp [encode_of_lt hn, hn]
      · have hrest : 0 < (encode (n / 128)).length := length_encode_pos _
        rw [encode_of_le (Nat.le_of_not_lt hn), List.length_cons]
        omega
  | succ width ih =>
      by_cases hn : n < 128
      · have hpow : 128 ≤ 128 ^ (width + 1 + 1) := Nat.le_self_pow (by omega) 128
        rw [encode_of_lt hn, List.length_singleton]
        omega
      · rw [encode_of_le (Nat.le_of_not_lt hn), List.length_cons, Nat.succ_le_succ_iff, ih,
          Nat.pow_succ _ (width + 1)]
        omega

theorem lt_pow_length (n : Nat) : n < 128 ^ (encode n).length := by
  obtain ⟨width, hwidth⟩ : ∃ width, (encode n).length = width + 1 :=
    Nat.exists_eq_succ_of_ne_zero (Nat.ne_of_gt (length_encode_pos n))
  rw [hwidth]
  exact (length_encode_le_iff width n).1 (Nat.le_of_eq hwidth)

theorem length_encode_le {n width : Nat} (hwidth : 0 < width) (h : n < 128 ^ width) :
    (encode n).length ≤ width := by
  obtain ⟨k, rfl⟩ := Nat.exists_eq_succ_of_ne_zero (Nat.ne_of_gt hwidth)
  exact (length_encode_le_iff k n).2 h

theorem length_encode_mono {a b : Nat} (h : a ≤ b) : (encode a).length ≤ (encode b).length :=
  length_encode_le (length_encode_pos b) (Nat.lt_of_le_of_lt h (lt_pow_length b))

/-- A sum takes no more bytes than its parts together. -/
theorem length_encode_add (a b : Nat) :
    (encode (a + b)).length ≤ (encode a).length + (encode b).length := by
  have ha : 0 < (encode a).length := length_encode_pos a
  have hb : 0 < (encode b).length := length_encode_pos b
  apply length_encode_le (by omega)
  have ha' : 128 ≤ 128 ^ (encode a).length := Nat.le_self_pow (Nat.ne_of_gt ha) 128
  have hb' : 128 ≤ 128 ^ (encode b).length := Nat.le_self_pow (Nat.ne_of_gt hb) 128
  have hla := lt_pow_length a
  have hlb := lt_pow_length b
  rw [Nat.pow_add]
  calc a + b < 128 ^ (encode a).length + 128 ^ (encode b).length := by omega
    _ ≤ 128 ^ (encode a).length * 128 ^ (encode b).length := by
        exact Nat.add_le_mul (by omega) (by omega)

theorem length_of_readUpTo {bytes : Nat} {bs rest : Bytes} {n : Nat}
    (h : readUpTo bytes bs = .ok (n, rest)) : (encode n).length + rest.length ≤ bs.length := by
  induction bytes generalizing bs n with
  | zero => cases h
  | succ bytes ih =>
      cases bs with
      | nil => cases h
      | cons b bs =>
          rw [readUpTo] at h
          split at h
          · next hb =>
              split at h
              · cases h
              · cases h
                rw [encode_of_lt hb, List.length_singleton, List.length_cons]
                omega
          · next hb =>
              obtain ⟨⟨high, left⟩, hhigh, hrest⟩ := bind_eq_ok.1 h
              cases hrest
              have hle := ih hhigh
              have hparts : (encode (b.toNat - 128 + 128 * high)).length ≤
                  (encode high).length + 1 := by
                apply length_encode_le (Nat.succ_pos _)
                have hlt := lt_pow_length high
                have hbyte := b.toNat_lt
                rw [Nat.pow_succ]
                omega
              rw [List.length_cons]
              omega

/-- What was read takes no more bytes when it is written. -/
theorem length_of_read {bs rest : Bytes} {n : Nat} (h : read bs = .ok (n, rest)) :
    (encode n).length + rest.length ≤ bs.length :=
  length_of_readUpTo h

end Varint

theorem length_of_readChunk {bs chunk rest : Bytes} (h : readChunk bs = .ok (chunk, rest)) :
    (Varint.encode chunk.length).length + chunk.length + rest.length ≤ bs.length := by
  obtain ⟨⟨length, left⟩, hread, hrest⟩ := bind_eq_ok.1 h
  dsimp only at hrest
  split at hrest
  · cases hrest
  · next hlength =>
      cases hrest
      have hle := Varint.length_of_read hread
      have htake : (left.take length).length = length := by
        rw [List.length_take]
        omega
      rw [htake, List.length_drop]
      omega

theorem WireType.code_of_ofCode? {n : Nat} {type : WireType} (h : ofCode? n = some type) :
    type.code = n := by
  unfold ofCode? at h
  split at h <;> cases h <;> rfl

theorem length_of_readKey {bs rest : Bytes} {tag : Nat} {type : WireType}
    (h : readKey bs = .ok (tag, type, rest)) : (key tag type).length + rest.length ≤ bs.length := by
  obtain ⟨⟨number, left⟩, hread, hrest⟩ := bind_eq_ok.1 h
  dsimp only at hrest
  split at hrest
  · cases hrest
  · split at hrest
    · cases hrest
    · next type' hcode =>
        split at hrest
        · cases hrest
        · cases hrest
          have hnumber : keyNumber (number / 8) type = number := by
            rw [keyNumber, WireType.code_of_ofCode? hcode]
            omega
          rw [key, hnumber]
          exact Varint.length_of_read hread

theorem length_of_dropExactly {count : Nat} {bs rest : Bytes}
    (h : dropExactly count bs = .ok rest) : rest.length ≤ bs.length := by
  unfold dropExactly at h
  split at h
  · cases h
  · cases h
    rw [List.length_drop]
    omega

theorem length_of_skipGroup {skip : WireType → Nat → Bytes → Result Bytes}
    (hskip : ∀ type tag bs rest, skip type tag bs = .ok rest → rest.length ≤ bs.length)
    {records tag : Nat} {bs rest : Bytes} (h : skipGroup skip tag records bs = .ok rest) :
    rest.length ≤ bs.length := by
  induction records generalizing bs with
  | zero => cases h
  | succ records ih =>
      obtain ⟨⟨inner, type, left⟩, hkey, hrest⟩ := bind_eq_ok.1 h
      have hleft := length_of_readKey hkey
      dsimp only at hrest
      split at hrest
      · split at hrest
        · cases hrest
          omega
        · cases hrest
      · obtain ⟨later, hlater, hend⟩ := bind_eq_ok.1 hrest
        have hvalue := hskip _ _ _ _ hlater
        have hgroup := ih hend
        omega

theorem length_of_skipValue {depth tag : Nat} {type : WireType} {bs rest : Bytes}
    (h : skipValue depth type tag bs = .ok rest) : rest.length ≤ bs.length := by
  induction depth generalizing type tag bs rest with
  | zero => cases h
  | succ depth ih =>
      cases type with
      | varint =>
          obtain ⟨⟨n, left⟩, hread, hrest⟩ := bind_eq_ok.1 h
          cases hrest
          have hle := Varint.length_of_read hread
          omega
      | fixed64 => exact length_of_dropExactly h
      | fixed32 => exact length_of_dropExactly h
      | lengthDelimited =>
          obtain ⟨⟨n, left⟩, hread, hrest⟩ := bind_eq_ok.1 h
          have hle := Varint.length_of_read hread
          have hdrop := length_of_dropExactly hrest
          omega
      | startGroup => exact length_of_skipGroup (fun _ _ _ _ hskip => ih hskip) h
      | endGroup => cases h

theorem ofText_of_toText? {bs : Bytes} {text : String} (h : Bytes.toText? bs = some text) :
    Bytes.ofText text = bs := by
  unfold Bytes.toText? String.fromUTF8? at h
  split at h
  · cases h
    simp [Bytes.ofText, String.fromUTF8]
  · cases h

theorem signExtend_ofNat {n : Nat} (h : n % 2 ^ 32 < 2 ^ 31) :
    Scalar.signExtend (UInt32.ofNat n).toInt32 = n % 2 ^ 32 := by
  have hbits : (UInt32.ofNat n).toBitVec.toNat = n % 2 ^ 32 := by simp
  change ((UInt32.ofNat n).toBitVec.signExtend 64).toNat = n % 2 ^ 32
  rw [BitVec.toNat_signExtend, BitVec.msb_eq_decide, hbits,
    decide_eq_false (by omega : ¬ 2 ^ (32 - 1) ≤ n % 2 ^ 32)]
  simp only [BitVec.toNat_setWidth, hbits, Bool.false_eq_true, if_false, Nat.add_zero]
  omega

/-- Only a number below zero takes more bytes than it was read from, and no more than twice as many. -/
theorem length_signExtend_le (n : Nat) :
    (Varint.encode (Scalar.signExtend (UInt32.ofNat n).toInt32)).length ≤
      2 * (Varint.encode n).length := by
  by_cases hsign : n % 2 ^ 32 < 2 ^ 31
  · rw [signExtend_ofNat hsign]
    have hmono := Varint.length_encode_mono (Nat.mod_le n (2 ^ 32))
    omega
  · have hten : (Varint.encode (Scalar.signExtend (UInt32.ofNat n).toInt32)).length ≤ 10 :=
      Varint.length_encode_le (by decide) (Nat.lt_trans (UInt64.toNat_lt _) (by decide))
    have hfive : ¬ (Varint.encode n).length ≤ 3 + 1 := by
      rw [Varint.length_encode_le_iff]
      omega
    omega

theorem Scalar.length_of_readValue {s : Scalar} {x : s.Value} {bs rest : Bytes}
    (h : s.readValue bs = .ok (x, rest)) :
    (s.encode x).length + 2 * rest.length ≤ 2 * bs.length := by
  cases s with
  | uint64 =>
      obtain ⟨⟨n, left⟩, hread, hrest⟩ := bind_eq_ok.1 h
      cases hrest
      have hle := Varint.length_of_read hread
      have hmono : (Varint.encode (UInt64.ofNat n).toNat).length ≤ (Varint.encode n).length :=
        Varint.length_encode_mono (by rw [UInt64.toNat_ofNat']; exact Nat.mod_le _ _)
      rw [encode]
      omega
  | uint32 =>
      obtain ⟨⟨n, left⟩, hread, hrest⟩ := bind_eq_ok.1 h
      cases hrest
      have hle := Varint.length_of_read hread
      have hmono : (Varint.encode (UInt32.ofNat n).toNat).length ≤ (Varint.encode n).length :=
        Varint.length_encode_mono (by rw [UInt32.toNat_ofNat']; exact Nat.mod_le _ _)
      rw [encode]
      omega
  | int32 =>
      obtain ⟨⟨n, left⟩, hread, hrest⟩ := bind_eq_ok.1 h
      cases hrest
      have hle := Varint.length_of_read hread
      have hsign := length_signExtend_le n
      rw [encode]
      omega
  | bool =>
      obtain ⟨⟨n, left⟩, hread, hrest⟩ := bind_eq_ok.1 h
      cases hrest
      have hle := Varint.length_of_read hread
      have hpos := Varint.length_encode_pos n
      have hone : (encode .bool (decide (n ≠ 0))).length = 1 := by
        rw [encode, Varint.encode_of_lt (Nat.lt_of_lt_of_le (Bool.toNat_lt _) (by decide)),
          List.length_singleton]
      rw [hone]
      omega
  | double =>
      rw [readValue] at h
      split at h
      · cases h
      · cases h
        rw [encode, Bytes.length_littleEndian, List.length_drop]
        omega
  | string =>
      obtain ⟨⟨chunk, left⟩, hread, hrest⟩ := bind_eq_ok.1 h
      have hle := length_of_readChunk hread
      dsimp only at hrest
      split at hrest
      · next text htext =>
          cases hrest
          rw [encode, ofText_of_toText? htext, List.length_append]
          omega
      · cases hrest
  | bytes =>
      have hle := length_of_readChunk h
      rw [encode, List.length_append]
      omega

/-- Reading a record adds at most two bytes to what is written for each byte that it takes off, where
all that is written and owed can be counted. -/
def Bounded {α : Type} (size : α → Nat)
    (merge : α → Nat → WireType → Bytes → Result (α × Bytes)) : Prop :=
  ∀ v tag type bs w rest, merge v tag type bs = .ok (w, rest) →
    size v + 2 * ((key tag type).length + bs.length) < UInt64.size →
    size w + 2 * rest.length ≤ size v + 2 * ((key tag type).length + bs.length)

section

variable {α : Type} {size : α → Nat} {merge : α → Nat → WireType → Bytes → Result (α × Bytes)}

theorem Bounded.readRecords (hmerge : Bounded size merge) {limit n : Nat} {v w : α}
    {bs rest : Bytes} (h : readRecords merge limit n v bs = .ok (w, rest))
    (hsize : size v + 2 * bs.length < UInt64.size) :
    size w + 2 * rest.length ≤ size v + 2 * bs.length := by
  induction n generalizing v bs with
  | zero =>
      cases h
      exact Nat.le_refl _
  | succ n ih =>
      rw [Wire.readRecords] at h
      split at h
      · cases h
        exact Nat.le_refl _
      · obtain ⟨⟨tag, type, payload⟩, hkey, hrest⟩ := bind_eq_ok.1 h
        obtain ⟨⟨u, left⟩, hfirst, hlater⟩ := bind_eq_ok.1 hrest
        have hpayload := length_of_readKey hkey
        have hstep := hmerge _ _ _ _ _ _ hfirst (by omega)
        have hmore := ih hlater (by omega)
        omega

/-- The records of a nested message add at most two bytes for each byte of its length. -/
theorem Bounded.readNested (hmerge : Bounded size merge) {v w : α} {bs rest : Bytes}
    (h : readNested merge v bs = .ok (w, rest)) (hsize : size v + 2 * bs.length < UInt64.size) :
    ∃ length, (Varint.encode length).length + length + rest.length ≤ bs.length ∧
      size w ≤ size v + 2 * length := by
  obtain ⟨⟨length, payload⟩, hread, hrest⟩ := bind_eq_ok.1 h
  have hpayload := Varint.length_of_read hread
  dsimp only at hrest
  split at hrest
  · cases hrest
  · next hroom =>
      obtain ⟨⟨u, left⟩, hrecords, hend⟩ := bind_eq_ok.1 hrest
      dsimp only at hend
      split at hend
      · next hleft =>
          cases hend
          have hgrowth := hmerge.readRecords hrecords (by omega)
          exact ⟨length, by omega, by omega⟩
      · cases hend

end

/-- What stands beside the part that is merged is not touched. -/
theorem Bounded.beside {α β : Type} {size : α → Nat}
    {merge : α → Nat → WireType → Bytes → Result (α × Bytes)} (hmerge : Bounded size merge) {x : β}
    {v : α} {tag : Nat} {type : WireType} {bs rest : Bytes} {u : β × α}
    (h : (merge v tag type bs >>= fun r => .ok ((x, r.1), r.2)) = .ok (u, rest)) :
    ∃ w, u = (x, w) ∧ (size v + 2 * ((key tag type).length + bs.length) < UInt64.size →
      size w + 2 * rest.length ≤ size v + 2 * ((key tag type).length + bs.length)) := by
  obtain ⟨⟨w, left⟩, hread, hend⟩ := bind_eq_ok.1 h
  cases hend
  exact ⟨w, rfl, hmerge _ _ _ _ _ _ hread⟩

namespace Fields

theorem encode_default (f : Fields) : f.encode f.default = [] := by
  induction f with
  | nil => rfl
  | plain tag label s rest ih =>
      have hs : s.isDefault s.default = true := by cases s <;> rfl
      rw [default, encode, if_pos hs, ih, List.append_nil]
  | repeated tag label s rest ih => rw [default, encode, ih]; rfl
  | message tag label inner rest _ ih => rw [default, encode, ih]; rfl
  | messages tag label inner rest _ ih => rw [default, encode, ih]; rfl

theorem length_nested (tag : Nat) {inner : Fields} (hinner : inner.wellFormed = true)
    {m : inner.Value} (h : (inner.encode m).length < UInt64.size) :
    (nested tag inner m).length = (key tag .lengthDelimited).length +
      (Varint.encode (inner.encode m).length).length + (inner.encode m).length := by
  rw [nested, encodedLength_eq inner m hinner h, List.length_append, List.length_append]

def readPart (inner : Fields) (depth : Nat) (label : String) (type : WireType) (m : inner.Value)
    (bs : Bytes) : Result (inner.Value × Bytes) :=
  labelled label <|
    if type ≠ .lengthDelimited then fail (.wrongWireType type .lengthDelimited)
    else if depth = 0 then fail .tooDeep
    else readNested (inner.merge (depth - 1)) m bs

section

variable (tag : Nat) {inner : Fields} {depth : Nat} {label : String} {type : WireType}
  {m₀ m : inner.Value} {bs rest : Bytes}

theorem length_of_readPart
    (hinner : Bounded (fun m => (inner.encode m).length) (inner.merge (depth - 1)))
    (h : readPart inner depth label type m₀ bs = .ok (m, rest))
    (hsize : (inner.encode m₀).length + 2 * bs.length < UInt64.size) :
    type = .lengthDelimited ∧ ∃ length,
      (Varint.encode length).length + length + rest.length ≤ bs.length ∧
        (inner.encode m).length ≤ (inner.encode m₀).length + 2 * length := by
  have hread := labelled_eq_ok.1 h
  split at hread
  · cases hread
  · next htype =>
      split at hread
      · cases hread
      · exact ⟨Decidable.not_not.1 htype, hinner.readNested hread hsize⟩

/-- A nested message that was read takes at most twice the bytes that it was read from. -/
theorem length_of_fresh (hf : inner.wellFormed = true)
    (hinner : Bounded (fun m => (inner.encode m).length) (inner.merge (depth - 1)))
    (h : readPart inner depth label type inner.default bs = .ok (m, rest))
    (hsize : 2 * bs.length < UInt64.size) :
    type = .lengthDelimited ∧ (nested tag inner m).length + 2 * rest.length ≤
      (key tag type).length + 2 * bs.length := by
  obtain ⟨rfl, length, hbytes, hm⟩ := length_of_readPart hinner h
    (by rw [encode_default, List.length_nil]; omega)
  rw [encode_default, List.length_nil, Nat.zero_add, Nat.two_mul] at hm
  have hmono := Varint.length_encode_mono hm
  have hsum := Varint.length_encode_add length length
  have hnested := length_nested tag hf (m := m) (by omega)
  exact ⟨rfl, by omega⟩

/-- Nor does a message grow by more when further parts are merged into it. -/
theorem length_of_merged (hf : inner.wellFormed = true)
    (hinner : Bounded (fun m => (inner.encode m).length) (inner.merge (depth - 1)))
    (h : readPart inner depth label type m₀ bs = .ok (m, rest))
    (hsize : (nested tag inner m₀).length + 2 * bs.length < UInt64.size) :
    (nested tag inner m).length + 2 * rest.length ≤
      (nested tag inner m₀).length + 2 * bs.length := by
  have hpart : (inner.encode m₀).length ≤ (nested tag inner m₀).length := by
    rw [nested, List.length_append]
    omega
  obtain ⟨-, length, hbytes, hm⟩ := length_of_readPart hinner h (by omega)
  have hmono := Varint.length_encode_mono hm
  have hsum := Varint.length_encode_add (inner.encode m₀).length (2 * length)
  have htwice := Varint.length_encode_add length length
  rw [← Nat.two_mul] at htwice
  have hbefore := length_nested tag hf (m := m₀) (by omega)
  have hafter := length_nested tag hf (m := m) (by omega)
  omega

end

theorem length_of_read {s : Scalar} {type : WireType} {x : s.Value} {bs rest : Bytes}
    (h : s.read type bs = .ok (x, rest)) :
    type = s.wireType ∧ (s.encode x).length + 2 * rest.length ≤ 2 * bs.length := by
  unfold Scalar.read at h
  split at h
  · next htype => exact ⟨htype, Scalar.length_of_readValue h⟩
  · cases h

theorem bounded_merge (f : Fields) (hf : f.wellFormed = true) (depth : Nat) :
    Bounded (fun v => (f.encode v).length) (f.merge depth) := by
  induction f generalizing depth with
  | nil =>
      intro v tag type bs w rest h _
      obtain ⟨left, hskip, hend⟩ := bind_eq_ok.1 h
      cases hend
      have hle := length_of_skipValue hskip
      omega
  | plain t label s more ih =>
      obtain ⟨_, hmore⟩ := Bool.and_eq_true_iff.1 hf
      rintro ⟨x, v⟩ tag type bs w rest h hsize
      rw [merge] at h
      split at h
      · next htag =>
          subst htag
          obtain ⟨⟨y, left⟩, hread, hend⟩ := bind_eq_ok.1 h
          cases hend
          obtain ⟨rfl, hle⟩ := length_of_read (labelled_eq_ok.1 hread)
          simp only [encode, List.length_append]
          split
          · simp only [List.length_nil]
            omega
          · rw [List.length_append]
            omega
      · obtain ⟨w, rfl, hle⟩ := (ih hmore depth).beside h
        simp only [encode, List.length_append] at hsize hle ⊢
        omega
  | repeated t label s more ih =>
      obtain ⟨_, hmore⟩ := Bool.and_eq_true_iff.1 hf
      rintro ⟨xs, v⟩ tag type bs w rest h hsize
      rw [merge] at h
      split at h
      · next htag =>
          subst htag
          obtain ⟨⟨y, left⟩, hread, hend⟩ := bind_eq_ok.1 h
          cases hend
          obtain ⟨rfl, hle⟩ := length_of_read (labelled_eq_ok.1 hread)
          simp only [encode, List.length_append, List.flatMap_append, List.flatMap_singleton]
          omega
      · obtain ⟨w, rfl, hle⟩ := (ih hmore depth).beside h
        simp only [encode, List.length_append] at hsize hle ⊢
        omega
  | message t label inner more ihInner ih =>
      obtain ⟨hfront, hmore⟩ := Bool.and_eq_true_iff.1 hf
      obtain ⟨_, hinner⟩ := Bool.and_eq_true_iff.1 hfront
      rintro ⟨x, v⟩ tag type bs w rest h hsize
      rw [merge] at h
      split at h
      · next htag =>
          subst htag
          obtain ⟨⟨m, left⟩, hread, hend⟩ := bind_eq_ok.1 h
          cases hend
          simp only [encode_message, List.length_append] at hsize ⊢
          -- a field that is there keeps its key and its length, which only grows
          cases x with
          | none =>
              obtain ⟨rfl, hle⟩ := length_of_fresh tag hinner (ihInner hinner _) hread (by omega)
              simp only [Option.toList_some, Option.toList_none, List.flatMap_singleton,
                List.flatMap_nil, List.length_nil]
              omega
          | some m₀ =>
              simp only [Option.toList_some, List.flatMap_singleton] at hsize ⊢
              rw [Option.getD_some] at hread
              have hle := length_of_merged tag hinner (ihInner hinner _) hread (by omega)
              omega
      · obtain ⟨w, rfl, hle⟩ := (ih hmore depth).beside h
        simp only [encode_message, List.length_append] at hsize hle ⊢
        omega
  | messages t label inner more ihInner ih =>
      obtain ⟨hfront, hmore⟩ := Bool.and_eq_true_iff.1 hf
      obtain ⟨_, hinner⟩ := Bool.and_eq_true_iff.1 hfront
      rintro ⟨xs, v⟩ tag type bs w rest h hsize
      rw [merge] at h
      split at h
      · next htag =>
          subst htag
          obtain ⟨⟨m, left⟩, hread, hend⟩ := bind_eq_ok.1 h
          cases hend
          obtain ⟨rfl, hle⟩ := length_of_fresh tag hinner (ihInner hinner _) hread (by omega)
          simp only [encode_messages, List.length_append, List.flatMap_append,
            List.flatMap_singleton]
          omega
      · obtain ⟨w, rfl, hle⟩ := (ih hmore depth).beside h
        simp only [encode_messages, List.length_append] at hsize hle ⊢
        omega

/-- What was read takes at most twice the bytes when it is written again. -/
theorem length_encode_of_decode {f : Fields} (hf : f.wellFormed = true) {bs : Bytes} {v : f.Value}
    (h : f.decode bs = .ok v) (hlen : 2 * bs.length < UInt64.size) :
    (f.encode v).length ≤ 2 * bs.length := by
  obtain ⟨⟨w, rest⟩, hread, hend⟩ := bind_eq_ok.1 h
  cases hend
  have hempty : (f.encode f.default).length = 0 := by rw [encode_default, List.length_nil]
  have hle := (bounded_merge f hf depthLimit).readRecords hread (by omega)
  omega

end Fields

end GasSponsor.Wire
