import GasSponsor.Proofs.Wire.Record

/-!
# Reading as taking records

A message takes a record by merging it, and which message comes of that depends on the message before
and on the record, and not on what stands behind it. A byte string is therefore read just when the
message takes its records one after another, and this holds of a nested message in its place as it
does of a message by itself. It is shown once for a field in front of others, for what reads the field
and what reads the others.
-/

namespace GasSponsor.Wire

open Varint (IsWord)

theorem map_eq_ok {α β : Type} {x : Result α} {g : α → β} {b : β} :
    x.map g = .ok b ↔ ∃ a, x = .ok a ∧ g a = b := by
  cases x with
  | error e => simp [Except.map]
  | ok a => simp [Except.map]

section

variable {α : Type}

def Merges (merge : α → Nat → WireType → Bytes → Result (α × Bytes)) (v : α) (tag : Nat)
    (type : WireType) (p : Bytes) (w : α) : Prop :=
  ∀ rest, merge v tag type (p ++ rest) = .ok (w, rest)

/-- Only payloads of records are merged, and each without regard to what stands behind it. -/
def Local (merge : α → Nat → WireType → Bytes → Result (α × Bytes)) : Prop :=
  ∀ v tag type bs w rest, merge v tag type bs = .ok (w, rest) →
    ∃ depth p, IsPayload depth tag type p ∧ bs = p ++ rest ∧ Merges merge v tag type p w

/-- A byte string is a sequence of records that make `w` of `v`, one after another. -/
inductive Takes (merge : α → Nat → WireType → Bytes → Result (α × Bytes)) : α → Bytes → α → Prop
  | nil (v : α) : Takes merge v [] v
  | record {v u w : α} {depth tag : Nat} {type : WireType} {k p bs : Bytes} (hkey : IsKey tag type k)
      (hpayload : IsPayload depth tag type p) (hmerge : Merges merge v tag type p u)
      (hrest : Takes merge u bs w) : Takes merge v (k ++ (p ++ bs)) w

variable {merge : α → Nat → WireType → Bytes → Result (α × Bytes)} {limit n : Nat} {v u w : α}
  {as bs rest : Bytes}

theorem Local.merges (hlocal : Local merge) {depth tag : Nat} {type : WireType} {p : Bytes}
    (hpayload : IsPayload depth tag type p) {left : Bytes}
    (h : merge v tag type (p ++ rest) = .ok (w, left)) : Merges merge v tag type p w := by
  obtain ⟨depth', p', hpayload', heq, hmerges⟩ := hlocal _ _ _ _ _ _ h
  obtain ⟨rfl, -⟩ := hpayload.unique hpayload' heq
  exact hmerges

/-- The first record of a sequence is where its key and its payload put it. -/
theorem takes_record_iff {depth tag : Nat} {type : WireType} {k p : Bytes} (hkey : IsKey tag type k)
    (hpayload : IsPayload depth tag type p) : Takes merge v (k ++ (p ++ bs)) w ↔
      ∃ u, Merges merge v tag type p u ∧ Takes merge u bs w := by
  constructor
  · intro h
    generalize heq : k ++ (p ++ bs) = all at h
    cases h with
    | nil =>
        have hpos := hkey.length_pos
        have hlen := congrArg List.length heq
        simp only [List.length_nil, List.length_append] at hlen
        omega
    | @record _ u _ depth' tag' type' k' p' bs' hkey' hpayload' hmerge hrest =>
        have hread : readKey (k ++ (p ++ bs)) = .ok (tag, type, p ++ bs) :=
          readKey_eq_ok.2 ⟨k, hkey, rfl⟩
        have hread' : readKey (k ++ (p ++ bs)) = .ok (tag', type', p' ++ bs') :=
          readKey_eq_ok.2 ⟨k', hkey', heq⟩
        obtain ⟨rfl, hpair⟩ := Prod.mk.inj (Except.ok.inj (hread.symm.trans hread'))
        obtain ⟨rfl, htail⟩ := Prod.mk.inj hpair
        obtain ⟨rfl, rfl⟩ := hpayload.unique hpayload' htail
        exact ⟨u, hmerge, hrest⟩
  · rintro ⟨u, hmerge, hrest⟩
    exact .record hkey hpayload hmerge hrest

theorem Takes.append (has : Takes merge v as u) (hbs : Takes merge u bs w) :
    Takes merge v (as ++ bs) w := by
  induction has with
  | nil => exact hbs
  | record hkey hpayload hmerge _ ih =>
      rw [List.append_assoc, List.append_assoc]
      exact .record hkey hpayload hmerge (ih hbs)

theorem takes_append_iff {depth : Nat} (has : Sequence (IsPayload depth) as) :
    Takes merge v (as ++ bs) w ↔ ∃ u, Takes merge v as u ∧ Takes merge u bs w := by
  constructor
  · intro h
    induction has generalizing v with
    | nil => exact ⟨v, .nil v, h⟩
    | record hkey hpayload _ ih =>
        rw [List.append_assoc, List.append_assoc] at h
        obtain ⟨u, hmerge, hrest⟩ := (takes_record_iff hkey hpayload).1 h
        obtain ⟨u', hleft, hright⟩ := ih hrest
        exact ⟨u', .record hkey hpayload hmerge hleft, hright⟩
  · rintro ⟨u, hleft, hright⟩
    exact hleft.append hright

theorem Local.exists_takes (hlocal : Local merge)
    (h : readRecords merge limit n v bs = .ok (w, rest)) (hn : bs.length ≤ n) :
    ∃ content, bs = content ++ rest ∧ Takes merge v content w ∧ rest.length ≤ limit := by
  induction n generalizing v bs with
  | zero =>
      cases h
      exact ⟨[], rfl, .nil _, by omega⟩
  | succ n ih =>
      rw [readRecords] at h
      split at h
      · next hlimit =>
          cases h
          exact ⟨[], rfl, .nil _, hlimit⟩
      · obtain ⟨⟨tag, type, left⟩, hread, hmore⟩ := bind_eq_ok.1 h
        obtain ⟨k, hkey, rfl⟩ := readKey_eq_ok.1 hread
        obtain ⟨⟨u, later⟩, hmerged, hlater⟩ := bind_eq_ok.1 hmore
        obtain ⟨depth, p, hpayload, rfl, hmerge⟩ := hlocal _ _ _ _ _ _ hmerged
        have hpos := hkey.length_pos
        simp only [List.length_append] at hn
        obtain ⟨content, rfl, htakes, hend⟩ := ih hlater (by omega)
        refine ⟨k ++ (p ++ content), ?_, .record hkey hpayload hmerge htakes, hend⟩
        simp only [List.append_assoc]

theorem Takes.readRecords (h : Takes merge v bs w) (hn : (bs ++ rest).length ≤ n) :
    readRecords merge rest.length n v (bs ++ rest) = .ok (w, rest) := by
  induction h generalizing n with
  | nil v =>
      cases n with
      | zero => rfl
      | succ n => exact if_pos (Nat.le_refl _)
  | @record v u w depth tag type k p bs hkey hpayload hmerge _ ih =>
      have hpos := hkey.length_pos
      simp only [List.append_assoc, List.length_append] at hn ih ⊢
      obtain ⟨n, rfl⟩ := Nat.exists_eq_succ_of_ne_zero (show n ≠ 0 by omega)
      rw [Wire.readRecords, if_neg (by simp only [List.length_append]; omega),
        readKey_eq_ok.2 ⟨k, hkey, rfl⟩]
      simp only [bind, Except.bind]
      rw [hmerge]
      exact ih (by omega)

theorem readNested_eq_ok (hlocal : Local merge) : readNested merge v bs = .ok (w, rest) ↔
    ∃ size content, IsWord content.length size ∧ Takes merge v content w ∧
      bs = (size ++ content) ++ rest := by
  constructor
  · intro h
    obtain ⟨⟨length, left⟩, hread, hend⟩ := bind_eq_ok.1 h
    obtain ⟨size, hsize, rfl⟩ := Varint.read_eq_ok.1 hread
    dsimp only at hend
    split at hend
    · cases hend
    · obtain ⟨⟨u, later⟩, hrecords, hexact⟩ := bind_eq_ok.1 hend
      dsimp only at hexact
      split at hexact
      · next hlater =>
          cases hexact
          obtain ⟨content, rfl, htakes, -⟩ := hlocal.exists_takes hrecords (Nat.le_refl _)
          have hlength : content.length = length := by
            rw [List.length_append] at *
            omega
          exact ⟨size, content, hlength ▸ hsize, htakes, (List.append_assoc _ _ _).symm⟩
      · cases hexact
  · rintro ⟨size, content, hsize, htakes, rfl⟩
    rw [readNested, List.append_assoc, Varint.read_eq_ok.2 ⟨size, hsize, rfl⟩]
    simp only [bind, Except.bind]
    rw [if_neg (by simp), List.length_append, Nat.add_sub_cancel_left,
      htakes.readRecords (by simp)]
    exact if_pos rfl

end

section

variable {ξ α : Type}

/-- Reads a field in front of others: a record with its tag is read by `head`, and any other by
`tail`. -/
def mergeFront (t : Nat) (head : ξ → WireType → Bytes → Result (ξ × Bytes))
    (tail : α → Nat → WireType → Bytes → Result (α × Bytes)) (v : ξ × α) (tag : Nat)
    (type : WireType) (bs : Bytes) : Result ((ξ × α) × Bytes) :=
  if tag = t then (head v.1 type bs).map fun r => ((r.1, v.2), r.2)
  else (tail v.2 tag type bs).map fun r => ((v.1, r.1), r.2)

def LocalHead (head : ξ → WireType → Bytes → Result (ξ × Bytes)) : Prop :=
  ∀ x type bs y rest, head x type bs = .ok (y, rest) →
    ∃ p, IsPlain type p ∧ bs = p ++ rest ∧ ∀ rest', head x type (p ++ rest') = .ok (y, rest')

variable {t tag : Nat} {head : ξ → WireType → Bytes → Result (ξ × Bytes)}
  {tail : α → Nat → WireType → Bytes → Result (α × Bytes)} {v : ξ × α} {type : WireType}
  {bs rest : Bytes} {w : ξ × α}

theorem mergeFront_head : mergeFront t head tail v t type bs = .ok (w, rest) ↔
    head v.1 type bs = .ok (w.1, rest) ∧ w.2 = v.2 := by
  rw [mergeFront, if_pos rfl, map_eq_ok]
  constructor
  · rintro ⟨⟨y, left⟩, hread, heq⟩
    cases heq
    exact ⟨hread, rfl⟩
  · rintro ⟨hread, heq⟩
    exact ⟨_, hread, by rw [← heq]⟩

theorem mergeFront_tail (h : tag ≠ t) : mergeFront t head tail v tag type bs = .ok (w, rest) ↔
    tail v.2 tag type bs = .ok (w.2, rest) ∧ w.1 = v.1 := by
  rw [mergeFront, if_neg h, map_eq_ok]
  constructor
  · rintro ⟨⟨u, left⟩, hread, heq⟩
    cases heq
    exact ⟨hread, rfl⟩
  · rintro ⟨hread, heq⟩
    exact ⟨_, hread, by rw [← heq]⟩

theorem LocalHead.front (hhead : LocalHead head) (htail : Local tail) : Local (mergeFront t head tail) := by
  intro v tag type bs w rest h
  by_cases htag : tag = t
  · subst htag
    obtain ⟨hread, hkeep⟩ := mergeFront_head.1 h
    obtain ⟨p, hplain, rfl, hagain⟩ := hhead _ _ _ _ _ hread
    exact ⟨1, p, hplain.isPayload 0 _, rfl, fun rest' => mergeFront_head.2 ⟨hagain rest', hkeep⟩⟩
  · obtain ⟨hread, hkeep⟩ := (mergeFront_tail htag).1 h
    obtain ⟨depth, p, hpayload, rfl, hmerges⟩ := htail _ _ _ _ _ _ hread
    exact ⟨depth, p, hpayload, rfl, fun rest' => (mergeFront_tail htag).2 ⟨hmerges rest', hkeep⟩⟩

end

namespace LocalHead

variable {ξ υ : Type} {head : υ → WireType → Bytes → Result (υ × Bytes)}

/-- A field may keep more than is read. -/
theorem map (h : LocalHead head) (get : ξ → υ) (put : ξ → υ → ξ) : LocalHead fun x type bs =>
    (head (get x) type bs).map fun r => (put x r.1, r.2) := by
  intro x type bs y rest hread
  obtain ⟨⟨z, left⟩, hinner, heq⟩ := map_eq_ok.1 hread
  cases heq
  obtain ⟨p, hplain, rfl, hagain⟩ := h _ _ _ _ _ hinner
  exact ⟨p, hplain, rfl, fun rest' => map_eq_ok.2 ⟨_, hagain rest', rfl⟩⟩

theorem labelled (h : LocalHead head) (label : String) : LocalHead fun x type bs =>
    labelled label (head x type bs) := by
  intro x type bs y rest hread
  obtain ⟨p, hplain, rfl, hagain⟩ := h _ _ _ _ _ (labelled_eq_ok.1 hread)
  exact ⟨p, hplain, rfl, fun rest' => labelled_eq_ok.2 (hagain rest')⟩

end LocalHead

namespace Scalar

/-- A number is read from the bytes that spell it. -/
theorem exists_word {β : Type} {g : Nat → β} {x : β} {bs rest : Bytes}
    (h : (Varint.read bs >>= fun r => .ok (g r.1, r.2)) = (.ok (x, rest) : Result (β × Bytes))) :
    ∃ p, IsPlain .varint p ∧ bs = p ++ rest ∧ ∀ rest',
      (Varint.read (p ++ rest') >>= fun r => .ok (g r.1, r.2)) =
        (.ok (x, rest') : Result (β × Bytes)) := by
  obtain ⟨⟨n, left⟩, hread, hend⟩ := bind_eq_ok.1 h
  cases hend
  obtain ⟨p, hp, rfl⟩ := Varint.read_eq_ok.1 hread
  exact ⟨p, .varint hp, rfl, fun rest' =>
    bind_eq_ok.2 ⟨_, Varint.read_eq_ok.2 ⟨p, hp, rfl⟩, rfl⟩⟩

theorem exists_payload {s : Scalar} {x : s.Value} {bs rest : Bytes}
    (h : s.readValue bs = .ok (x, rest)) : ∃ p, IsPlain s.wireType p ∧ bs = p ++ rest ∧
      ∀ rest', s.readValue (p ++ rest') = .ok (x, rest') := by
  cases s with
  | uint64 => exact exists_word h
  | uint32 => exact exists_word h
  | int32 => exact exists_word (g := fun n => (UInt32.ofNat n).toInt32) h
  | bool => exact exists_word (g := fun n => decide (n ≠ 0)) h
  | double =>
      rw [readValue] at h
      split at h
      · cases h
      · next hlen =>
          cases h
          have htake : (bs.take 8).length = 8 := by
            rw [List.length_take]
            omega
          refine ⟨bs.take 8, .fixed64 htake, (List.take_append_drop 8 bs).symm, fun rest' => ?_⟩
          rw [readValue, if_neg (by rw [List.length_append]; omega), List.take_left' htake,
            List.drop_left' htake]
  | string =>
      obtain ⟨⟨chunk, left⟩, hread, hend⟩ := bind_eq_ok.1 h
      obtain ⟨size, hsize, rfl⟩ := readChunk_eq_ok.1 hread
      dsimp only at hend
      split at hend
      · next text htext =>
          cases hend
          refine ⟨size ++ chunk, .chunk hsize, rfl, fun rest' => ?_⟩
          rw [readValue, readChunk_eq_ok.2 ⟨size, hsize, rfl⟩]
          simp only [bind, Except.bind, htext]
      · cases hend
  | bytes =>
      obtain ⟨size, hsize, rfl⟩ := readChunk_eq_ok.1 h
      exact ⟨size ++ x, .chunk hsize, rfl, fun rest' => readChunk_eq_ok.2 ⟨size, hsize, rfl⟩⟩

theorem localHead_read (s : Scalar) :
    LocalHead fun (_ : s.Value) type bs => s.read type bs := by
  intro x type bs y rest h
  change s.read type bs = .ok (y, rest) at h
  rw [read] at h
  split at h
  · next htype =>
      subst htype
      obtain ⟨p, hplain, rfl, hagain⟩ := exists_payload h
      exact ⟨p, hplain, rfl, fun rest' => (if_pos rfl).trans (hagain rest')⟩
  · cases h

end Scalar

namespace Fields

section

variable (t : Nat) (label : String) (s : Scalar) (inner more : Fields) (depth : Nat)

theorem merge_plain : (plain t label s more).merge depth = mergeFront t
    (fun _ type bs => labelled label (s.read type bs)) (more.merge depth) := by
  funext ⟨x, v⟩ tag type bs
  rw [merge, mergeFront]
  split
  · cases labelled label (s.read type bs) <;> rfl
  · cases more.merge depth v tag type bs <;> rfl

theorem merge_repeated : (repeated t label s more).merge depth = mergeFront t
    (fun xs type bs => (labelled label (s.read type bs)).map fun r => (xs ++ [r.1], r.2))
    (more.merge depth) := by
  funext ⟨xs, v⟩ tag type bs
  rw [merge, mergeFront]
  split
  · cases labelled label (s.read type bs) <;> rfl
  · cases more.merge depth v tag type bs <;> rfl

theorem merge_message : (message t label inner more).merge depth = mergeFront t
    (fun x type bs => (readPart inner depth label type (x.getD inner.default) bs).map fun r =>
      (some r.1, r.2)) (more.merge depth) := by
  funext ⟨x, v⟩ tag type bs
  rw [merge, mergeFront]
  split
  · change readPart inner depth label type (x.getD inner.default) bs >>= _ = _
    cases readPart inner depth label type (x.getD inner.default) bs <;> rfl
  · cases more.merge depth v tag type bs <;> rfl

theorem merge_messages : (messages t label inner more).merge depth = mergeFront t
    (fun xs type bs => (readPart inner depth label type inner.default bs).map fun r =>
      (xs ++ [r.1], r.2)) (more.merge depth) := by
  funext ⟨xs, v⟩ tag type bs
  rw [merge, mergeFront]
  split
  · change readPart inner depth label type inner.default bs >>= _ = _
    cases readPart inner depth label type inner.default bs <;> rfl
  · cases more.merge depth v tag type bs <;> rfl

end

/-- A part of a nested message is read from a chunk whose records the message takes. -/
theorem readPart_eq_ok {inner : Fields} {depth : Nat} (hlocal : Local (inner.merge (depth - 1)))
    {label : String} {type : WireType} {m w : inner.Value} {bs rest : Bytes} :
    readPart inner depth label type m bs = .ok (w, rest) ↔
      type = .lengthDelimited ∧ depth ≠ 0 ∧ ∃ size content, IsWord content.length size ∧
        Takes (inner.merge (depth - 1)) m content w ∧ bs = (size ++ content) ++ rest := by
  rw [readPart, labelled_eq_ok]
  by_cases htype : type = .lengthDelimited
  · by_cases hdepth : depth = 0
    · rw [if_neg (not_not_intro htype), if_pos hdepth]
      exact iff_of_false nofun fun h => h.2.1 hdepth
    · rw [if_neg (not_not_intro htype), if_neg hdepth, readNested_eq_ok hlocal]
      exact ⟨fun h => ⟨htype, hdepth, h⟩, fun h => h.2.2⟩
  · rw [if_pos htype]
    exact iff_of_false nofun fun h => htype h.1

theorem localHead_readPart {inner : Fields} {depth : Nat}
    (hlocal : Local (inner.merge (depth - 1))) (label : String) :
    LocalHead fun m type bs => readPart inner depth label type m bs := by
  intro m type bs w rest h
  obtain ⟨rfl, hdepth, size, content, hsize, htakes, rfl⟩ := (readPart_eq_ok hlocal).1 h
  exact ⟨size ++ content, .chunk hsize, rfl, fun rest' =>
    (readPart_eq_ok hlocal).2 ⟨rfl, hdepth, size, content, hsize, htakes, rfl⟩⟩

theorem local_merge (f : Fields) (depth : Nat) : Local (f.merge depth) := by
  induction f generalizing depth with
  | nil =>
      intro v tag type bs w rest h
      obtain ⟨left, hskip, hend⟩ := bind_eq_ok.1 h
      cases hend
      obtain ⟨p, hpayload, rfl⟩ := (skips_skipValue _ _ _ _ _).1 hskip
      exact ⟨depth, p, hpayload, rfl, fun rest' =>
        bind_eq_ok.2 ⟨_, (skips_skipValue _ _ _ _ _).2 ⟨p, hpayload, rfl⟩, rfl⟩⟩
  | plain t label s more ih =>
      rw [merge_plain]
      exact (s.localHead_read.labelled label).front (ih depth)
  | repeated t label s more ih =>
      rw [merge_repeated]
      exact ((s.localHead_read.labelled label).map (fun _ : List s.Value => s.default)
        fun xs x => xs ++ [x]).front (ih depth)
  | message t label inner more ihInner ih =>
      rw [merge_message]
      exact ((localHead_readPart (ihInner (depth - 1)) label).map
        (fun x : Option inner.Value => x.getD inner.default) fun _ m => some m).front (ih depth)
  | messages t label inner more ihInner ih =>
      rw [merge_messages]
      exact ((localHead_readPart (ihInner (depth - 1)) label).map
        (fun _ : List inner.Value => inner.default) fun ms m => ms ++ [m]).front (ih depth)

end Fields

end GasSponsor.Wire
