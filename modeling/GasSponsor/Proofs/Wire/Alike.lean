import GasSponsor.Proofs.Wire.Reading

/-!
# Byte strings that are read alike

A message type declares some of the fields that a message may have. A record of any other field is
taken without a change to the message, records of different fields are taken in either order with the
same outcome, and all of this holds of the records of a nested message too, however its length is
spelled. Byte strings that differ in nothing else are read as the same message, or are both refused.
-/

namespace GasSponsor.Wire

open Varint (IsWord)

section

variable {α : Type} {merge : α → Nat → WireType → Bytes → Result (α × Bytes)} {v u w : α}

theorem Merges.unique {tag : Nat} {type : WireType} {p : Bytes} (hu : Merges merge v tag type p u)
    (hw : Merges merge v tag type p w) : u = w :=
  (Prod.mk.inj (Except.ok.inj ((hu []).symm.trans (hw [])))).1

def Commutes (merge : α → Nat → WireType → Bytes → Result (α × Bytes)) : Prop :=
  ∀ v u w s t type type' bs bs' rest rest', s ≠ t → merge v s type bs = .ok (u, rest) →
    merge u t type' bs' = .ok (w, rest') →
    ∃ u', merge v t type' bs' = .ok (u', rest') ∧ merge u' s type bs = .ok (w, rest)

theorem Commutes.merges (hcomm : Commutes merge) (hlocal : Local merge) {depth depth' s t : Nat}
    {type type' : WireType} {p p' : Bytes} (hne : s ≠ t) (hp : IsPayload depth s type p)
    (hp' : IsPayload depth' t type' p') (hfirst : Merges merge v s type p u)
    (hsecond : Merges merge u t type' p' w) :
    ∃ u', Merges merge v t type' p' u' ∧ Merges merge u' s type p w := by
  obtain ⟨u', hfirst', hsecond'⟩ := hcomm _ _ _ _ _ _ _ _ _ _ _ hne (hfirst []) (hsecond [])
  exact ⟨u', hlocal.merges hp' hfirst', hlocal.merges hp hsecond'⟩

end

section

variable {ξ α : Type} {t tag : Nat} {head : ξ → WireType → Bytes → Result (ξ × Bytes)}
  {tail : α → Nat → WireType → Bytes → Result (α × Bytes)} {v w : ξ × α} {type : WireType} {p : Bytes}

theorem merges_head : Merges (mergeFront t head tail) v t type p w ↔
    (∀ rest, head v.1 type (p ++ rest) = .ok (w.1, rest)) ∧ w.2 = v.2 := by
  constructor
  · intro h
    exact ⟨fun rest => (mergeFront_head.1 (h rest)).1, (mergeFront_head.1 (h [])).2⟩
  · rintro ⟨hread, hkeep⟩ rest
    exact mergeFront_head.2 ⟨hread rest, hkeep⟩

theorem merges_tail (hne : tag ≠ t) : Merges (mergeFront t head tail) v tag type p w ↔
    Merges tail v.2 tag type p w.2 ∧ w.1 = v.1 := by
  constructor
  · intro h
    exact ⟨fun rest => ((mergeFront_tail hne).1 (h rest)).1, ((mergeFront_tail hne).1 (h [])).2⟩
  · rintro ⟨hread, hkeep⟩ rest
    exact (mergeFront_tail hne).2 ⟨hread rest, hkeep⟩

end

theorem Commutes.front {ξ α : Type} {tail : α → Nat → WireType → Bytes → Result (α × Bytes)}
    (htail : Commutes tail) (t₀ : Nat) (head : ξ → WireType → Bytes → Result (ξ × Bytes)) :
    Commutes (mergeFront t₀ head tail) := by
  intro v u w s t type type' bs bs' rest rest' hne hfirst hsecond
  by_cases hs : s = t₀
  · subst hs
    obtain ⟨hread, hkeep⟩ := mergeFront_head.1 hfirst
    obtain ⟨hread', hkeep'⟩ := (mergeFront_tail hne.symm).1 hsecond
    rw [hkeep] at hread'
    rw [← hkeep'] at hread
    exact ⟨(v.1, w.2), (mergeFront_tail hne.symm).2 ⟨hread', rfl⟩, mergeFront_head.2 ⟨hread, rfl⟩⟩
  · obtain ⟨hread, hkeep⟩ := (mergeFront_tail hs).1 hfirst
    by_cases ht : t = t₀
    · subst ht
      obtain ⟨hread', hkeep'⟩ := mergeFront_head.1 hsecond
      rw [hkeep] at hread'
      rw [← hkeep'] at hread
      exact ⟨(w.1, v.2), mergeFront_head.2 ⟨hread', rfl⟩, (mergeFront_tail hs).2 ⟨hread, rfl⟩⟩
    · obtain ⟨hread', hkeep'⟩ := (mergeFront_tail ht).1 hsecond
      obtain ⟨u', hagain, hagain'⟩ := htail _ _ _ _ _ _ _ _ _ _ _ hne hread hread'
      exact ⟨(v.1, u'), (mergeFront_tail ht).2 ⟨hagain, rfl⟩,
        (mergeFront_tail hs).2 ⟨hagain', hkeep'.trans hkeep⟩⟩

/-- A chunk is split in one way. -/
theorem chunk_unique {size size' content content' : Bytes} (h : IsWord content.length size)
    (h' : IsWord content'.length size') (heq : size ++ content = size' ++ content') :
    content = content' := by
  have hread : readChunk ((size ++ content) ++ []) = .ok (content, []) :=
    readChunk_eq_ok.2 ⟨size, h, rfl⟩
  have hread' : readChunk ((size ++ content) ++ []) = .ok (content', []) :=
    readChunk_eq_ok.2 ⟨size', h', by rw [heq]⟩
  exact (Prod.mk.inj (Except.ok.inj (hread.symm.trans hread'))).1

namespace Fields

theorem commutes_merge (f : Fields) (depth : Nat) : Commutes (f.merge depth) := by
  induction f generalizing depth with
  | nil =>
      intro v u w s t type type' bs bs' rest rest' _ hfirst hsecond
      exact ⟨v, hsecond, hfirst⟩
  | plain t label s more ih =>
      rw [merge_plain]
      exact (ih depth).front _ _
  | repeated t label s more ih =>
      rw [merge_repeated]
      exact (ih depth).front _ _
  | message t label inner more _ ih =>
      rw [merge_message]
      exact (ih depth).front _ _
  | messages t label inner more _ ih =>
      rw [merge_messages]
      exact (ih depth).front _ _

/-- A record of no declared field leaves the message as it is. -/
theorem merges_undeclared (f : Fields) {depth tag : Nat} {type : WireType} {p : Bytes}
    (htag : tag ∉ f.tags) (hp : IsPlain type p) (hdepth : depth ≠ 0) (v : f.Value) :
    Merges (f.merge depth) v tag type p v := by
  induction f with
  | nil =>
      intro rest
      obtain ⟨depth, rfl⟩ := Nat.exists_eq_succ_of_ne_zero hdepth
      exact bind_eq_ok.2 ⟨_, (skips_skipValue _ _ _ _ _).2 ⟨p, hp.isPayload depth tag, rfl⟩, rfl⟩
  | plain t label s more ih =>
      obtain ⟨hne, hmore⟩ := not_or.1 (mt List.mem_cons.2 htag)
      rw [merge_plain]
      exact (merges_tail hne).2 ⟨ih hmore v.2, rfl⟩
  | repeated t label s more ih =>
      obtain ⟨hne, hmore⟩ := not_or.1 (mt List.mem_cons.2 htag)
      rw [merge_repeated]
      exact (merges_tail hne).2 ⟨ih hmore v.2, rfl⟩
  | message t label inner more _ ih =>
      obtain ⟨hne, hmore⟩ := not_or.1 (mt List.mem_cons.2 htag)
      rw [merge_message]
      exact (merges_tail hne).2 ⟨ih hmore v.2, rfl⟩
  | messages t label inner more _ ih =>
      obtain ⟨hne, hmore⟩ := not_or.1 (mt List.mem_cons.2 htag)
      rw [merge_messages]
      exact (merges_tail hne).2 ⟨ih hmore v.2, rfl⟩

def innerAt : Fields → Nat → Option Fields
  | nil, _ => none
  | plain t _ _ rest, tag => if tag = t then none else rest.innerAt tag
  | repeated t _ _ rest, tag => if tag = t then none else rest.innerAt tag
  | message t _ inner rest, tag => if tag = t then some inner else rest.innerAt tag
  | messages t _ inner rest, tag => if tag = t then some inner else rest.innerAt tag

theorem height_lt_of_innerAt {f inner : Fields} {tag : Nat} (h : f.innerAt tag = some inner) :
    inner.height < f.height := by
  induction f with
  | nil => cases h
  | plain t label s more ih =>
      rw [innerAt] at h
      split at h
      · cases h
      · exact ih h
  | repeated t label s more ih =>
      rw [innerAt] at h
      split at h
      · cases h
      · exact ih h
  | message t label own more _ ih =>
      rw [innerAt] at h
      split at h
      · cases h
        exact Nat.lt_of_succ_le (Nat.le_max_left _ _)
      · exact Nat.lt_of_lt_of_le (ih h) (Nat.le_max_right _ _)
  | messages t label own more _ ih =>
      rw [innerAt] at h
      split at h
      · cases h
        exact Nat.lt_of_succ_le (Nat.le_max_left _ _)
      · exact Nat.lt_of_lt_of_le (ih h) (Nat.le_max_right _ _)

section

variable {inner : Fields} {depth : Nat} {size size' content content' : Bytes}

/-- A nested message may be read from other records if they make the same of it. -/
theorem readPart_of_takes (hsize : IsWord content.length size)
    (hsize' : IsWord content'.length size')
    (htakes : ∀ m w, Takes (inner.merge (depth - 1)) m content w →
      Takes (inner.merge (depth - 1)) m content' w)
    {label : String} {m w : inner.Value} {rest : Bytes}
    (h : readPart inner depth label .lengthDelimited m ((size ++ content) ++ rest) = .ok (w, rest)) :
    readPart inner depth label .lengthDelimited m ((size' ++ content') ++ rest) = .ok (w, rest) := by
  have hlocal : Local (inner.merge (depth - 1)) := local_merge inner _
  obtain ⟨htype, hdepth, size₁, content₁, hsize₁, htakes₁, heq⟩ := (readPart_eq_ok hlocal).1 h
  obtain rfl : content = content₁ :=
    chunk_unique hsize hsize₁ (List.append_cancel_right heq)
  exact (readPart_eq_ok hlocal).2
    ⟨htype, hdepth, size', content', hsize', htakes _ _ htakes₁, rfl⟩

theorem map_readPart_of_takes (hsize : IsWord content.length size)
    (hsize' : IsWord content'.length size')
    (htakes : ∀ m w, Takes (inner.merge (depth - 1)) m content w →
      Takes (inner.merge (depth - 1)) m content' w)
    {β : Type} {g : inner.Value → β} {label : String} {m : inner.Value} {y : β} {rest : Bytes}
    (h : (readPart inner depth label .lengthDelimited m ((size ++ content) ++ rest)).map
      (fun r => (g r.1, r.2)) = .ok (y, rest)) :
    (readPart inner depth label .lengthDelimited m ((size' ++ content') ++ rest)).map
      (fun r => (g r.1, r.2)) = .ok (y, rest) := by
  obtain ⟨⟨x, left⟩, hpart, heq⟩ := map_eq_ok.1 h
  obtain ⟨rfl, rfl⟩ := Prod.mk.inj heq
  exact map_eq_ok.2 ⟨_, readPart_of_takes hsize hsize' htakes hpart, rfl⟩

theorem merges_inside {f : Fields} {tag : Nat} (hinner : f.innerAt tag = some inner)
    (hsize : IsWord content.length size) (hsize' : IsWord content'.length size')
    (htakes : ∀ m w, Takes (inner.merge (depth - 1)) m content w →
      Takes (inner.merge (depth - 1)) m content' w)
    {v w : f.Value}
    (h : Merges (f.merge depth) v tag .lengthDelimited (size ++ content) w) :
    Merges (f.merge depth) v tag .lengthDelimited (size' ++ content') w := by
  induction f with
  | nil => cases hinner
  | plain t label s more ih =>
      rw [innerAt] at hinner
      rw [merge_plain] at h ⊢
      split at hinner
      · cases hinner
      · next hne =>
          obtain ⟨hread, hkeep⟩ := (merges_tail hne).1 h
          exact (merges_tail hne).2 ⟨ih hinner hread, hkeep⟩
  | repeated t label s more ih =>
      rw [innerAt] at hinner
      rw [merge_repeated] at h ⊢
      split at hinner
      · cases hinner
      · next hne =>
          obtain ⟨hread, hkeep⟩ := (merges_tail hne).1 h
          exact (merges_tail hne).2 ⟨ih hinner hread, hkeep⟩
  | message t label own more _ ih =>
      rw [innerAt] at hinner
      rw [merge_message] at h ⊢
      split at hinner
      · next heq =>
          subst heq
          cases hinner
          obtain ⟨hread, hkeep⟩ := merges_head.1 h
          exact merges_head.2
            ⟨fun rest => map_readPart_of_takes hsize hsize' htakes (hread rest), hkeep⟩
      · next hne =>
          obtain ⟨hread, hkeep⟩ := (merges_tail hne).1 h
          exact (merges_tail hne).2 ⟨ih hinner hread, hkeep⟩
  | messages t label own more _ ih =>
      rw [innerAt] at hinner
      rw [merge_messages] at h ⊢
      split at hinner
      · next heq =>
          subst heq
          cases hinner
          obtain ⟨hread, hkeep⟩ := merges_head.1 h
          exact merges_head.2
            ⟨fun rest => map_readPart_of_takes hsize hsize' htakes (g := fun m => v.1 ++ [m])
              (hread rest), hkeep⟩
      · next hne =>
          obtain ⟨hread, hkeep⟩ := (merges_tail hne).1 h
          exact (merges_tail hne).2 ⟨ih hinner hread, hkeep⟩

end

/-- A byte string is read as a message just when the empty message takes its records. -/
theorem decode_eq_ok {f : Fields} {bs : Bytes} {v : f.Value} :
    f.decode bs = .ok v ↔ Takes (f.merge depthLimit) f.default bs v := by
  constructor
  · intro h
    obtain ⟨⟨w, rest⟩, hread, hend⟩ := bind_eq_ok.1 h
    cases hend
    obtain ⟨content, rfl, htakes, hempty⟩ :=
      (local_merge f depthLimit).exists_takes hread (Nat.le_refl _)
    obtain rfl : rest = [] := List.length_eq_zero_iff.1 (Nat.le_zero.1 hempty)
    rwa [List.append_nil]
  · intro h
    have hread : readRecords (f.merge depthLimit) ([] : Bytes).length bs.length f.default
        (bs ++ []) = .ok (v, []) := h.readRecords (by simp)
    rw [List.append_nil] at hread
    exact bind_eq_ok.2 ⟨_, hread, rfl⟩

end Fields

def IsRecord (tag : Nat) (bs : Bytes) : Prop :=
  ∃ depth type k p, IsKey tag type k ∧ IsPayload depth tag type p ∧ bs = k ++ p

def IsPlainRecord (tag : Nat) (bs : Bytes) : Prop :=
  ∃ type k p, IsKey tag type k ∧ IsPlain type p ∧ bs = k ++ p

theorem IsPlainRecord.isRecord {tag : Nat} {bs : Bytes} (h : IsPlainRecord tag bs) :
    IsRecord tag bs := by
  obtain ⟨type, k, p, hkey, hp, rfl⟩ := h
  exact ⟨1, type, k, p, hkey, hp.isPayload 0 tag, rfl⟩

/-- The shortest record of a number. -/
theorem isPlainRecord_pair {tag : Nat} {k b : UInt8} (htag : 0 < tag)
    (hkey : keyNumber tag .varint = k.toNat) (hk : k.toNat < 128) (hb : b.toNat < 128) :
    IsPlainRecord tag [k, b] := by
  have hlt : keyNumber tag .varint < UInt32.size := by
    rw [hkey]
    exact Nat.lt_trans hk (by decide)
  exact ⟨.varint, [k], [b], ⟨htag, hlt, hkey ▸ Varint.isWord_singleton hk⟩,
    .varint (Varint.isWord_singleton hb), rfl⟩

def AreRecords (bs : Bytes) : Prop := ∃ depth, Sequence (IsPayload depth) bs

theorem areRecords_nil : AreRecords [] := ⟨0, .nil⟩

/-- Byte strings that differ, for a message type, in records of fields that it does not declare and
in the order of records of different fields, at the top and in nested messages. Where they differ
there are records before, and anything after. -/
inductive Alike : Fields → Bytes → Bytes → Prop
  | refl (f : Fields) (bs : Bytes) : Alike f bs bs
  | symm {f : Fields} {as bs : Bytes} (h : Alike f as bs) : Alike f bs as
  | trans {f : Fields} {as bs cs : Bytes} (h : Alike f as bs) (h' : Alike f bs cs) : Alike f as cs
  | undeclared {f : Fields} {tag : Nat} {front record back : Bytes} (hfront : AreRecords front)
      (hrecord : IsPlainRecord tag record) (htag : tag ∉ f.tags) :
      Alike f (front ++ back) (front ++ (record ++ back))
  | swap {f : Fields} {s t : Nat} {front record record' back : Bytes} (hfront : AreRecords front)
      (hrecord : IsRecord s record) (hrecord' : IsRecord t record') (hne : s ≠ t) :
      Alike f (front ++ (record ++ (record' ++ back))) (front ++ (record' ++ (record ++ back)))
  | inside {f inner : Fields} {tag : Nat} {front k size size' content content' back : Bytes}
      (hfront : AreRecords front) (hkey : IsKey tag .lengthDelimited k)
      (hinner : f.innerAt tag = some inner) (hsize : IsWord content.length size)
      (hsize' : IsWord content'.length size') (h : Alike inner content content') :
      Alike f (front ++ (k ++ ((size ++ content) ++ back)))
        (front ++ (k ++ ((size' ++ content') ++ back)))

section

variable {α : Type} {merge : α → Nat → WireType → Bytes → Result (α × Bytes)}
  {front as bs : Bytes}

theorem takes_front_congr (hfront : AreRecords front)
    (h : ∀ v w, Takes merge v as w ↔ Takes merge v bs w) (v w : α) :
    Takes merge v (front ++ as) w ↔ Takes merge v (front ++ bs) w := by
  obtain ⟨depth, hfront⟩ := hfront
  simp only [takes_append_iff hfront, h]

theorem Commutes.takes (hcomm : Commutes merge) (hlocal : Local merge) {s t : Nat}
    {record record' : Bytes} (hne : s ≠ t) (hrecord : IsRecord s record)
    (hrecord' : IsRecord t record') {v w : α}
    (h : Takes merge v (record ++ (record' ++ bs)) w) :
    Takes merge v (record' ++ (record ++ bs)) w := by
  obtain ⟨depth, type, k, p, hkey, hp, rfl⟩ := hrecord
  obtain ⟨depth', type', k', p', hkey', hp', rfl⟩ := hrecord'
  simp only [List.append_assoc] at h ⊢
  obtain ⟨u, hfirst, hlater⟩ := (takes_record_iff hkey hp).1 h
  obtain ⟨u', hsecond, hrest⟩ := (takes_record_iff hkey' hp').1 hlater
  obtain ⟨x, hfirst', hsecond'⟩ := hcomm.merges hlocal hne hp hp' hfirst hsecond
  exact .record hkey' hp' hfirst' (.record hkey hp hsecond' hrest)

end

theorem Fields.takes_inside {f inner : Fields} {depth tag : Nat}
    {k size size' content content' back : Bytes} (hkey : IsKey tag .lengthDelimited k)
    (hinner : f.innerAt tag = some inner) (hsize : IsWord content.length size)
    (hsize' : IsWord content'.length size')
    (htakes : ∀ m w, Takes (inner.merge (depth - 1)) m content w →
      Takes (inner.merge (depth - 1)) m content' w) {v w : f.Value}
    (h : Takes (f.merge depth) v (k ++ ((size ++ content) ++ back)) w) :
    Takes (f.merge depth) v (k ++ ((size' ++ content') ++ back)) w := by
  have hp : IsPayload 1 tag .lengthDelimited (size ++ content) := (IsPlain.chunk hsize).isPayload 0 _
  have hp' : IsPayload 1 tag .lengthDelimited (size' ++ content') :=
    (IsPlain.chunk hsize').isPayload 0 _
  obtain ⟨u, hmerge, hrest⟩ := (takes_record_iff hkey hp).1 h
  exact .record hkey hp' (merges_inside hinner hsize hsize' htakes hmerge) hrest

theorem Alike.takes_iff {f : Fields} {as bs : Bytes} (h : Alike f as bs) {depth : Nat}
    (hdepth : f.height < depth) (v w : f.Value) :
    Takes (f.merge depth) v as w ↔ Takes (f.merge depth) v bs w := by
  induction h generalizing depth with
  | refl f bs => exact Iff.rfl
  | symm _ ih => exact (ih hdepth v w).symm
  | trans _ _ ih ih' => exact (ih hdepth v w).trans (ih' hdepth v w)
  | @undeclared f tag front record back hfront hrecord htag =>
      obtain ⟨type, k, p, hkey, hp, rfl⟩ := hrecord
      apply takes_front_congr hfront
      intro v w
      rw [List.append_assoc, takes_record_iff hkey (hp.isPayload 0 tag)]
      have hskip := f.merges_undeclared htag hp (Nat.ne_of_gt (Nat.zero_lt_of_lt hdepth)) v
      constructor
      · exact fun hback => ⟨v, hskip, hback⟩
      · rintro ⟨u, hmerge, hback⟩
        obtain rfl : u = v := hmerge.unique hskip
        exact hback
  | @swap f s t front record record' back hfront hrecord hrecord' hne =>
      have hcomm := f.commutes_merge depth
      have hlocal := f.local_merge depth
      exact takes_front_congr hfront (fun v w =>
        ⟨hcomm.takes hlocal hne hrecord hrecord', hcomm.takes hlocal hne.symm hrecord' hrecord⟩) v w
  | @inside f inner tag front k size size' content content' back hfront hkey hinner hsize hsize' _ ih =>
      have hheight := Fields.height_lt_of_innerAt hinner
      have hdeep : inner.height < depth - 1 := by omega
      have hsame := fun m w => ih hdeep m w
      exact takes_front_congr hfront (fun v w =>
        ⟨Fields.takes_inside hkey hinner hsize hsize' fun m w => (hsame m w).1,
          Fields.takes_inside hkey hinner hsize' hsize fun m w => (hsame m w).2⟩) v w

section

variable {α : Type} [Message α] {as bs : Bytes}

theorem decode_eq_ok {a : α} : decode bs = .ok a ↔
    (Message.fields α).decode bs = .ok (Message.toValue a) := by
  rw [decode, bind_eq_ok]
  constructor
  · rintro ⟨v, hread, heq⟩
    rw [hread, ← Except.ok.inj heq, Message.toValue_ofValue]
  · exact fun hread => ⟨_, hread, by rw [Message.ofValue_toValue]⟩

/-- Byte strings that are alike are read as the same message, if as any. -/
theorem Alike.decode_iff (h : Alike (Message.fields α) as bs)
    (hheight : (Message.fields α).height < depthLimit) (a : α) :
    decode as = .ok a ↔ decode bs = .ok a := by
  rw [decode_eq_ok, decode_eq_ok, Fields.decode_eq_ok, Fields.decode_eq_ok]
  exact h.takes_iff hheight _ _

end

end GasSponsor.Wire
