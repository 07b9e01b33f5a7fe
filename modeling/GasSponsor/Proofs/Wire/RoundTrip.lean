import GasSponsor.Wire.Message
import GasSponsor.Proofs.Wire.Scalar

/-!
# Messages read back

A value of a message type whose tags are distinct is read back from its bytes, if there are fewer
bytes than a machine can count. Reading goes through the fields in the order in which they are
written: while the records of the later fields are read, the earlier ones stay as they are. Messages
with the same bytes are therefore the same, unless they differ in a zero of a floating-point field.
-/

namespace GasSponsor.Wire

namespace Fields

def height : Fields → Nat
  | nil => 0
  | plain _ _ _ rest => rest.height
  | repeated _ _ _ rest => rest.height
  | message _ _ inner rest => max (inner.height + 1) rest.height
  | messages _ _ inner rest => max (inner.height + 1) rest.height

def validTag (tag : Nat) (others : List Nat) : Bool :=
  decide (0 < tag ∧ 8 * tag + 8 ≤ UInt32.size ∧ tag ∉ others)

def wellFormed : Fields → Bool
  | nil => true
  | plain tag _ _ rest => validTag tag rest.tags && rest.wellFormed
  | repeated tag _ _ rest => validTag tag rest.tags && rest.wellFormed
  | message tag _ inner rest => validTag tag rest.tags && inner.wellFormed && rest.wellFormed
  | messages tag _ inner rest => validTag tag rest.tags && inner.wellFormed && rest.wellFormed

def normal : (f : Fields) → f.Value → f.Value
  | nil, v => v
  | plain _ _ s rest, (x, v) => (s.normal x, rest.normal v)
  | repeated _ _ _ rest, (xs, v) => (xs, rest.normal v)
  | message _ _ inner rest, (x, v) => (x.map inner.normal, rest.normal v)
  | messages _ _ inner rest, (xs, v) => (xs.map inner.normal, rest.normal v)

end Fields

theorem key_lt {tag : Nat} {others : List Nat} {type : WireType}
    (h : Fields.validTag tag others = true) : keyNumber tag type < UInt32.size := by
  obtain ⟨_, hsize, _⟩ := of_decide_eq_true h
  have hcode : type.code < 8 := by cases type <;> decide
  simp only [keyNumber]
  omega

theorem keySize_eq {tag : Nat} {others : List Nat} {type : WireType}
    (h : Fields.validTag tag others = true) : keySize tag type = (key tag type).length :=
  Varint.size_eq_length (Nat.lt_trans (key_lt h) (by decide))

theorem readKey_key {tag : Nat} {others : List Nat} {type : WireType}
    (h : Fields.validTag tag others = true) (rest : Bytes) :
    readKey (key tag type ++ rest) = .ok (tag, type, rest) := by
  obtain ⟨hpos, hsize, _⟩ := of_decide_eq_true h
  have hlt : keyNumber tag type < UInt32.size := key_lt h
  have hcode : type.code < 8 := by cases type <;> decide
  have hmod : keyNumber tag type % 8 = type.code := by simp only [keyNumber]; omega
  have hdiv : keyNumber tag type / 8 = tag := by simp only [keyNumber]; omega
  rw [readKey, key, Varint.read_encode (Nat.lt_trans hlt (by decide))]
  simp only [bind, Except.bind]
  rw [if_neg (by omega), hmod, WireType.ofCode?_code]
  simp only
  rw [hdiv, if_neg (by omega)]

/-- Reading on from one value and input leads to another value and input, however large the bound on
the number of records is. -/
def Reaches {α : Type} (merge : α → Nat → WireType → Bytes → Result (α × Bytes)) (limit : Nat)
    (v : α) (bs : Bytes) (w : α) (rest : Bytes) : Prop :=
  ∀ n, bs.length ≤ n → ∃ n', rest.length ≤ n' ∧
    readRecords merge limit n v bs = readRecords merge limit n' w rest

namespace Reaches

variable {α : Type} {merge : α → Nat → WireType → Bytes → Result (α × Bytes)} {limit : Nat}

theorem refl (v : α) (bs : Bytes) : Reaches merge limit v bs v bs := fun n h => ⟨n, h, rfl⟩

theorem trans {u v w : α} {as bs cs : Bytes} (h : Reaches merge limit u as v bs)
    (h' : Reaches merge limit v bs w cs) : Reaches merge limit u as w cs := by
  intro n hn
  obtain ⟨m, hm, heq⟩ := h n hn
  obtain ⟨k, hk, heq'⟩ := h' m hm
  exact ⟨k, hk, heq.trans heq'⟩

theorem single {v w : α} {tag : Nat} {others : List Nat} {type : WireType} {payload rest : Bytes}
    (htag : Fields.validTag tag others = true) (hlimit : limit ≤ rest.length)
    (h : merge v tag type (payload ++ rest) = .ok (w, rest)) :
    Reaches merge limit v (key tag type ++ payload ++ rest) w rest := by
  intro n hn
  have hkey : 0 < (key tag type).length := Varint.length_encode_pos _
  simp only [List.length_append] at hn
  cases n with
  | zero => omega
  | succ n =>
      refine ⟨n, by omega, ?_⟩
      rw [readRecords, if_neg (by simp only [List.length_append]; omega), List.append_assoc,
        readKey_key htag]
      simp only [bind, Except.bind, h]

theorem flatMap {β γ : Type} (write : β → Bytes) (g : β → γ) (filled : List γ → α) (xs : List β)
    (h : ∀ acc, ∀ x ∈ xs, ∀ rest : Bytes, limit ≤ rest.length →
      Reaches merge limit (filled acc) (write x ++ rest) (filled (acc ++ [g x])) rest)
    (acc : List γ) {rest : Bytes} (hlimit : limit ≤ rest.length) :
    Reaches merge limit (filled acc) (xs.flatMap write ++ rest) (filled (acc ++ xs.map g))
      rest := by
  induction xs generalizing acc with
  | nil => simpa using refl (filled acc) rest
  | cons x xs ih =>
      have hfirst := h acc x List.mem_cons_self (xs.flatMap write ++ rest)
        (by simp only [List.length_append]; omega)
      have hrest := ih (fun acc y hy => h acc y (List.mem_cons_of_mem x hy)) (acc ++ [g x])
      rw [List.append_assoc] at hrest
      rw [List.flatMap_cons, List.append_assoc]
      exact hfirst.trans hrest

theorem readRecords_eq {v w : α} {bs rest : Bytes} (h : Reaches merge rest.length v bs w rest)
    {n : Nat} (hn : bs.length ≤ n) : readRecords merge rest.length n v bs = .ok (w, rest) := by
  obtain ⟨n', _, heq⟩ := h n hn
  rw [heq]
  cases n' with
  | zero => rfl
  | succ n' => rw [readRecords, if_pos (Nat.le_refl _)]

end Reaches

namespace Fields

def total {β : Type} (size : β → Nat) (l : List β) : Nat := (l.map size).foldr (· + ·) 0

theorem total_eq_length_flatMap {β : Type} (size : β → Nat) (write : β → Bytes) (l : List β)
    (h : ∀ x ∈ l, size x = (write x).length) : total size l = (l.flatMap write).length := by
  induction l with
  | nil => rfl
  | cons x l ih =>
      have hl := ih fun y hy => h y (List.mem_cons_of_mem x hy)
      rw [List.flatMap_cons, List.length_append, ← hl, ← h x List.mem_cons_self]
      rfl

theorem length_le_length_flatMap {β : Type} (write : β → Bytes) {l : List β} {x : β} (h : x ∈ l) :
    (write x).length ≤ (l.flatMap write).length := by
  obtain ⟨front, back, rfl⟩ := List.append_of_mem h
  simp only [List.flatMap_append, List.flatMap_cons, List.length_append]
  omega

def nested (tag : Nat) (inner : Fields) (m : inner.Value) : Bytes :=
  key tag .lengthDelimited ++ Varint.encode (inner.encodedLength m) ++ inner.encode m

def nestedLength (tag : Nat) (inner : Fields) (m : inner.Value) : Nat :=
  keySize tag .lengthDelimited + Varint.size (inner.encodedLength m) + inner.encodedLength m

section

variable (tag : Nat) (label : String) (inner rest : Fields) (v : rest.Value)

theorem encode_message (x : Option inner.Value) : (message tag label inner rest).encode (x, v) =
    x.toList.flatMap (nested tag inner) ++ rest.encode v := by
  cases x with
  | none => rfl
  | some m => simp only [Option.toList_some, List.flatMap_singleton]; rfl

theorem encode_messages (xs : List inner.Value) : (messages tag label inner rest).encode (xs, v) =
    xs.flatMap (nested tag inner) ++ rest.encode v := rfl

theorem encodedLength_plain (s : Scalar) (x : s.Value) :
    (plain tag label s rest).encodedLength (x, v) =
      (if s.isDefault x then 0 else keySize tag s.wireType + s.encodedLength x) +
        rest.encodedLength v := rfl

theorem encodedLength_repeated (s : Scalar) (xs : List s.Value) :
    (repeated tag label s rest).encodedLength (xs, v) =
      total (fun x => keySize tag s.wireType + s.encodedLength x) xs + rest.encodedLength v := rfl

theorem encodedLength_message (x : Option inner.Value) :
    (message tag label inner rest).encodedLength (x, v) =
      total (nestedLength tag inner) x.toList + rest.encodedLength v := by
  cases x <;> rfl

theorem encodedLength_messages (xs : List inner.Value) :
    (messages tag label inner rest).encodedLength (xs, v) =
      total (nestedLength tag inner) xs + rest.encodedLength v := rfl

end

theorem le_total {β : Type} (size : β → Nat) {l : List β} {x : β} (h : x ∈ l) :
    size x ≤ total size l := by
  induction l with
  | nil => exact absurd h List.not_mem_nil
  | cons y l ih =>
      change size x ≤ size y + total size l
      rcases List.mem_cons.1 h with rfl | hl
      · exact Nat.le_add_right _ _
      · exact Nat.le_trans (ih hl) (Nat.le_add_left _ _)

/-- The lengths of the values of a field add up to what is written of them, if each is right as soon
as it can be counted. -/
theorem total_eq_of_lt {β : Type} {size : β → Nat} {write : β → Bytes} {xs : List β}
    (hsize : ∀ x ∈ xs, size x < UInt64.size ∨ (write x).length < UInt64.size →
      size x = (write x).length)
    (h : total size xs < UInt64.size ∨ (xs.flatMap write).length < UInt64.size) :
    total size xs = (xs.flatMap write).length := by
  apply total_eq_length_flatMap
  intro x hx
  have hdeclared : size x ≤ total size xs := le_total size hx
  have hwritten : (write x).length ≤ (xs.flatMap write).length := length_le_length_flatMap write hx
  exact hsize x hx (by omega)

theorem nestedLength_eq_of_lt {tag : Nat} {inner : Fields} {others : List Nat} {m : inner.Value}
    (htag : validTag tag others = true)
    (hinner : inner.encodedLength m < UInt64.size ∨ (inner.encode m).length < UInt64.size →
      inner.encodedLength m = (inner.encode m).length)
    (h : nestedLength tag inner m < UInt64.size ∨ (nested tag inner m).length < UInt64.size) :
    nestedLength tag inner m = (nested tag inner m).length := by
  simp only [nested, nestedLength, List.length_append] at h ⊢
  have hlen := hinner (by omega)
  rw [keySize_eq htag, hlen, Varint.size_eq_length (by omega)]

/-- The declared length of a message is the written one as soon as one of them can be counted. -/
theorem encodedLength_eq_of_lt (f : Fields) (v : f.Value) (hf : f.wellFormed = true)
    (h : f.encodedLength v < UInt64.size ∨ (f.encode v).length < UInt64.size) :
    f.encodedLength v = (f.encode v).length := by
  induction f with
  | nil => rfl
  | plain tag label s rest ih =>
      obtain ⟨x, v⟩ := v
      obtain ⟨htag, hrest⟩ := Bool.and_eq_true_iff.1 hf
      rw [encodedLength_plain, encode, List.length_append] at h ⊢
      rw [ih v hrest (by omega)]
      congr 1
      split
      · rfl
      · next hx =>
          rw [if_neg hx, if_neg hx, List.length_append] at h
          rw [List.length_append, keySize_eq htag, Scalar.encodedLength_eq_of_lt s x (by omega)]
  | repeated tag label s rest ih =>
      obtain ⟨xs, v⟩ := v
      obtain ⟨htag, hrest⟩ := Bool.and_eq_true_iff.1 hf
      rw [encodedLength_repeated, encode, List.length_append] at h ⊢
      rw [ih v hrest (by omega)]
      congr 1
      apply total_eq_of_lt
      · intro x _ hx
        rw [List.length_append] at hx ⊢
        rw [keySize_eq htag, Scalar.encodedLength_eq_of_lt s x (by omega)]
      · omega
  | message tag label inner rest ihInner ih =>
      obtain ⟨x, v⟩ := v
      obtain ⟨hfront, hrest⟩ := Bool.and_eq_true_iff.1 hf
      obtain ⟨htag, hinner⟩ := Bool.and_eq_true_iff.1 hfront
      rw [encodedLength_message, encode_message, List.length_append] at h ⊢
      rw [ih v hrest (by omega)]
      congr 1
      apply total_eq_of_lt
      · exact fun m _ => nestedLength_eq_of_lt htag (ihInner m hinner)
      · omega
  | messages tag label inner rest ihInner ih =>
      obtain ⟨xs, v⟩ := v
      obtain ⟨hfront, hrest⟩ := Bool.and_eq_true_iff.1 hf
      obtain ⟨htag, hinner⟩ := Bool.and_eq_true_iff.1 hfront
      rw [encodedLength_messages, encode_messages, List.length_append] at h ⊢
      rw [ih v hrest (by omega)]
      congr 1
      apply total_eq_of_lt
      · exact fun m _ => nestedLength_eq_of_lt htag (ihInner m hinner)
      · omega

theorem encodedLength_eq (f : Fields) (v : f.Value) (hf : f.wellFormed = true)
    (h : (f.encode v).length < UInt64.size) : f.encodedLength v = (f.encode v).length :=
  f.encodedLength_eq_of_lt v hf (.inr h)

/-- A reader that takes the records of `f` into the part of its value that `put` fills. -/
def Reads {α : Type} (merge : α → Nat → WireType → Bytes → Result (α × Bytes)) (f : Fields)
    (depth : Nat) (put : f.Value → α) : Prop :=
  ∀ w tag type bs, tag ∈ f.tags →
    merge (put w) tag type bs = (f.merge depth w tag type bs).map fun r => (put r.1, r.2)

section

variable {α : Type} {reader : α → Nat → WireType → Bytes → Result (α × Bytes)} {tag depth : Nat}
  {label : String} {s : Scalar} {inner rest : Fields}

theorem ne_of_mem_tags {t : Nat} (htag : validTag tag rest.tags = true) (ht : t ∈ rest.tags) :
    t ≠ tag := by
  rintro rfl
  exact (of_decide_eq_true htag).2.2 ht

theorem Reads.plain {put : (plain tag label s rest).Value → α}
    (h : Reads reader (.plain tag label s rest) depth put) (htag : validTag tag rest.tags = true)
    (x : s.Value) : Reads reader rest depth fun w => put (x, w) := by
  intro w t type bs ht
  rw [h (x, w) t type bs (List.mem_cons_of_mem tag ht), merge, if_neg (ne_of_mem_tags htag ht)]
  cases rest.merge depth w t type bs <;> rfl

theorem Reads.repeated {put : (repeated tag label s rest).Value → α}
    (h : Reads reader (.repeated tag label s rest) depth put)
    (htag : validTag tag rest.tags = true) (xs : List s.Value) :
    Reads reader rest depth fun w => put (xs, w) := by
  intro w t type bs ht
  rw [h (xs, w) t type bs (List.mem_cons_of_mem tag ht), merge, if_neg (ne_of_mem_tags htag ht)]
  cases rest.merge depth w t type bs <;> rfl

theorem Reads.message {put : (message tag label inner rest).Value → α}
    (h : Reads reader (.message tag label inner rest) depth put)
    (htag : validTag tag rest.tags = true) (x : Option inner.Value) :
    Reads reader rest depth fun w => put (x, w) := by
  intro w t type bs ht
  rw [h (x, w) t type bs (List.mem_cons_of_mem tag ht), merge, if_neg (ne_of_mem_tags htag ht)]
  cases rest.merge depth w t type bs <;> rfl

theorem Reads.messages {put : (messages tag label inner rest).Value → α}
    (h : Reads reader (.messages tag label inner rest) depth put)
    (htag : validTag tag rest.tags = true) (xs : List inner.Value) :
    Reads reader rest depth fun w => put (xs, w) := by
  intro w t type bs ht
  rw [h (xs, w) t type bs (List.mem_cons_of_mem tag ht), merge, if_neg (ne_of_mem_tags htag ht)]
  cases rest.merge depth w t type bs <;> rfl

theorem read_encode (x : s.Value) (bs : Bytes)
    (h : (s.encode x).length < UInt64.size) :
    s.read s.wireType (s.encode x ++ bs) = .ok (x, bs) := by
  rw [Scalar.read, if_pos rfl, Scalar.readValue_encode s x bs h]

/-- A nested message is read if its records are, with the end of its bytes as the limit. -/
theorem reaches_nested {others : List Nat} {inner : Fields} {m : inner.Value} {limit : Nat}
    {bs : Bytes} {v w : α} (htag : validTag tag others = true) (hinner : inner.wellFormed = true)
    (hlen : (inner.encode m).length < UInt64.size)
    (hm : Reaches (inner.merge depth) bs.length inner.default (inner.encode m ++ bs)
      (inner.normal m) bs)
    (hlimit : limit ≤ bs.length)
    (h : ∀ payload,
      readNested (inner.merge depth) inner.default payload = .ok (inner.normal m, bs) →
      reader v tag .lengthDelimited payload = .ok (w, bs)) :
    Reaches reader limit v (nested tag inner m ++ bs) w bs := by
  rw [nested, List.append_assoc (key tag .lengthDelimited)]
  apply Reaches.single htag hlimit
  apply h
  rw [encodedLength_eq inner m hinner hlen, readNested, List.append_assoc, Varint.read_encode hlen]
  simp only [bind, Except.bind, List.length_append]
  rw [if_neg (by omega), Nat.add_sub_cancel_left,
    hm.readRecords_eq (by simp only [List.length_append]; omega)]
  simp only [if_true]

end

theorem Reads.self (f : Fields) (depth : Nat) : Reads (f.merge depth) f depth id := by
  intro w tag type bs _
  change f.merge depth w tag type bs = _
  cases f.merge depth w tag type bs <;> rfl

/-- Reading the bytes of a value fills in the value, and leaves alone what follows them. -/
theorem reaches_encode (f : Fields) {α : Type}
    {reader : α → Nat → WireType → Bytes → Result (α × Bytes)} {depth : Nat} {put : f.Value → α}
    (hf : f.wellFormed = true) (hdepth : f.height ≤ depth) (v : f.Value)
    (hlen : (f.encode v).length < UInt64.size) (hput : Reads reader f depth put) {limit : Nat}
    {bs : Bytes} (hlimit : limit ≤ bs.length) :
    Reaches reader limit (put f.default) (f.encode v ++ bs) (put (f.normal v)) bs := by
  induction f generalizing α depth limit bs with
  | nil => exact Reaches.refl _ _
  | plain tag label s rest ih =>
      obtain ⟨x, v⟩ := v
      obtain ⟨htag, hrest⟩ := Bool.and_eq_true_iff.1 hf
      rw [encode, List.length_append] at hlen
      have hlater := ih hrest hdepth v (by omega) (hput.plain htag (s.normal x)) hlimit
      have hfirst : Reaches reader limit (put (s.default, rest.default))
          ((if s.isDefault x = true then [] else key tag s.wireType ++ s.encode x) ++
            (rest.encode v ++ bs)) (put (s.normal x, rest.default)) (rest.encode v ++ bs) := by
        by_cases hx : s.isDefault x = true
        · rw [if_pos hx, Scalar.normal, if_pos hx]
          exact Reaches.refl _ _
        · rw [if_neg hx, List.length_append] at hlen
          rw [if_neg hx, Scalar.normal, if_neg hx]
          apply Reaches.single htag (by simp only [List.length_append]; omega)
          rw [hput _ tag _ _ List.mem_cons_self, merge, if_pos rfl, read_encode x _ (by omega)]
          rfl
      rw [encode, List.append_assoc]
      exact hfirst.trans hlater
  | repeated tag label s rest ih =>
      obtain ⟨xs, v⟩ := v
      obtain ⟨htag, hrest⟩ := Bool.and_eq_true_iff.1 hf
      rw [encode, List.length_append] at hlen
      have hlater := ih hrest hdepth v (by omega) (hput.repeated htag xs) hlimit
      have hfirst : Reaches reader limit (put ([], rest.default))
          ((xs.flatMap fun x => key tag s.wireType ++ s.encode x) ++ (rest.encode v ++ bs))
          (put ([] ++ xs.map id, rest.default)) (rest.encode v ++ bs) := by
        apply Reaches.flatMap (fun x => key tag s.wireType ++ s.encode x) id
          (fun acc => put (acc, rest.default)) xs
        · intro acc x hx bs hbs
          have hle := length_le_length_flatMap (fun x => key tag s.wireType ++ s.encode x) hx
          simp only [List.length_append] at hle
          apply Reaches.single htag hbs
          rw [hput _ tag _ _ List.mem_cons_self, merge, if_pos rfl, read_encode x _ (by omega)]
          rfl
        · simp only [List.length_append]
          omega
      rw [List.nil_append, List.map_id] at hfirst
      rw [encode, List.append_assoc]
      exact hfirst.trans hlater
  | message tag label inner rest ihInner ih =>
      obtain ⟨x, v⟩ := v
      obtain ⟨hfront, hrest⟩ := Bool.and_eq_true_iff.1 hf
      obtain ⟨htag, hinner⟩ := Bool.and_eq_true_iff.1 hfront
      obtain ⟨hdeep, hflat⟩ := Nat.max_le.1 hdepth
      rw [encode_message, List.length_append] at hlen
      have hlater := ih hrest hflat v (by omega) (hput.message htag (x.map inner.normal)) hlimit
      have hfirst : Reaches reader limit (put (none, rest.default))
          (x.toList.flatMap (nested tag inner) ++ (rest.encode v ++ bs))
          (put (x.map inner.normal, rest.default)) (rest.encode v ++ bs) := by
        cases x with
        | none => exact Reaches.refl _ _
        | some m =>
            simp only [Option.toList_some, List.flatMap_singleton] at hlen ⊢
            rw [nested, List.length_append] at hlen
            have hsize : (inner.encode m).length < UInt64.size := by omega
            have hm := ihInner hinner (Nat.le_sub_one_of_lt hdeep) m hsize (Reads.self inner _)
              (Nat.le_refl (rest.encode v ++ bs).length)
            apply reaches_nested htag hinner hsize hm (by simp only [List.length_append]; omega)
            intro payload hpayload
            rw [hput _ tag _ _ List.mem_cons_self, merge, if_pos rfl, if_neg (by simp),
              if_neg (by omega), Option.getD_none, hpayload]
            rfl
      rw [encode_message, List.append_assoc]
      exact hfirst.trans hlater
  | messages tag label inner rest ihInner ih =>
      obtain ⟨xs, v⟩ := v
      obtain ⟨hfront, hrest⟩ := Bool.and_eq_true_iff.1 hf
      obtain ⟨htag, hinner⟩ := Bool.and_eq_true_iff.1 hfront
      obtain ⟨hdeep, hflat⟩ := Nat.max_le.1 hdepth
      rw [encode_messages, List.length_append] at hlen
      have hlater := ih hrest hflat v (by omega) (hput.messages htag (xs.map inner.normal)) hlimit
      have hfirst : Reaches reader limit (put ([], rest.default))
          (xs.flatMap (nested tag inner) ++ (rest.encode v ++ bs))
          (put ([] ++ xs.map inner.normal, rest.default)) (rest.encode v ++ bs) := by
        apply Reaches.flatMap (nested tag inner) inner.normal
          (fun acc => put (acc, rest.default)) xs
        · intro acc m hm bs hbs
          have hle := length_le_length_flatMap (nested tag inner) hm
          rw [nested, List.length_append] at hle
          have hsize : (inner.encode m).length < UInt64.size := by omega
          have hnested := ihInner hinner (Nat.le_sub_one_of_lt hdeep) m hsize (Reads.self inner _)
            (Nat.le_refl bs.length)
          apply reaches_nested htag hinner hsize hnested hbs
          intro payload hpayload
          rw [hput _ tag _ _ List.mem_cons_self, merge, if_pos rfl, if_neg (by simp),
            if_neg (by omega), hpayload]
          rfl
        · simp only [List.length_append]
          omega
      rw [List.nil_append] at hfirst
      rw [encode_messages, List.append_assoc]
      exact hfirst.trans hlater

theorem decode_encode (f : Fields) (hf : f.wellFormed = true) (hdepth : f.height ≤ depthLimit)
    (v : f.Value) (hlen : (f.encode v).length < UInt64.size) :
    f.decode (f.encode v) = .ok (f.normal v) := by
  have hreach :=
    reaches_encode f hf hdepth v hlen (Reads.self f _) (Nat.le_refl ([] : Bytes).length)
  rw [List.append_nil] at hreach
  have hread := hreach.readRecords_eq (Nat.le_refl _)
  rw [decode]
  simp only [List.length_nil, id] at hread
  simp only [bind, Except.bind, hread]

/-- Whether no plain field holds a floating-point number, of which one value does not come back. -/
def exact : Fields → Bool
  | nil => true
  | plain _ _ s rest => decide (s ≠ .double) && rest.exact
  | repeated _ _ _ rest => rest.exact
  | message _ _ inner rest => inner.exact && rest.exact
  | messages _ _ inner rest => inner.exact && rest.exact

theorem normal_eq (f : Fields) (hf : f.exact = true) (v : f.Value) : f.normal v = v := by
  induction f with
  | nil => rfl
  | plain tag label s rest ih =>
      obtain ⟨x, v⟩ := v
      obtain ⟨hs, hrest⟩ := Bool.and_eq_true_iff.1 hf
      rw [normal, ih hrest, Scalar.normal_of_ne_double (of_decide_eq_true hs)]
  | repeated tag label s rest ih =>
      obtain ⟨xs, v⟩ := v
      rw [normal, ih hf]
  | message tag label inner rest ihInner ih =>
      obtain ⟨x, v⟩ := v
      obtain ⟨hinner, hrest⟩ := Bool.and_eq_true_iff.1 hf
      rw [normal, ih hrest]
      cases x with
      | none => rfl
      | some m => rw [Option.map_some, ihInner hinner]
  | messages tag label inner rest ihInner ih =>
      obtain ⟨xs, v⟩ := v
      obtain ⟨hinner, hrest⟩ := Bool.and_eq_true_iff.1 hf
      rw [normal, ih hrest, List.map_congr_left fun m _ => ihInner hinner m, List.map_id']

end Fields

/-- A type of messages whose tags are distinct, nested no deeper than a reader follows. -/
class Regular (α : Type) [Message α] : Prop where
  wellFormed : (Message.fields α).wellFormed = true
  height_le : (Message.fields α).height ≤ depthLimit

class Exact (α : Type) [Message α] : Prop where
  wellFormed : (Message.fields α).wellFormed = true
  height_le : (Message.fields α).height ≤ depthLimit
  exact_fields : (Message.fields α).exact = true

section

variable {α : Type} [Message α]

instance [Exact α] : Regular α := ⟨Exact.wellFormed, Exact.height_le⟩

def IsNormal (a : α) : Prop := (Message.fields α).normal (Message.toValue a) = Message.toValue a

theorem isNormal [Exact α] (a : α) : IsNormal a := Fields.normal_eq _ Exact.exact_fields _

theorem IsNormal.decode_encode [Regular α] {a : α} (ha : IsNormal a)
    (hlen : (encode a).length < UInt64.size) : decode (encode a) = .ok a := by
  rw [decode, encode, Fields.decode_encode _ Regular.wellFormed Regular.height_le _ hlen, ha]
  simp only [bind, Except.bind, Message.ofValue_toValue]

theorem decode_encode [Exact α] (a : α) (hlen : (encode a).length < UInt64.size) :
    decode (encode a) = .ok a :=
  (isNormal a).decode_encode hlen

/-- Messages with the same bytes are the same. -/
theorem IsNormal.eq_of_encode_eq [Regular α] {a b : α} (ha : IsNormal a) (hb : IsNormal b)
    (hlen : (encode a).length < UInt64.size) (h : encode a = encode b) : a = b := by
  have hread : decode (encode a) = .ok a := ha.decode_encode hlen
  rw [h] at hread hlen
  exact Except.ok.inj (hread.symm.trans (hb.decode_encode hlen))

theorem eq_of_encode_eq [Exact α] {a b : α} (hlen : (encode a).length < UInt64.size)
    (h : encode a = encode b) : a = b :=
  (isNormal a).eq_of_encode_eq (isNormal b) hlen h

end

end GasSponsor.Wire
