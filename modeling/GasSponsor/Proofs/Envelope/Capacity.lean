import GasSponsor.Envelope.Buffered
import GasSponsor.Proofs.Envelope.Contents
import GasSponsor.Proofs.Ledger.MessageType
import GasSponsor.Proofs.Wire.Layout

/-!
# Room for what is written

A message of any type is declared as long as it is written, and so are the messages in it. A buffer
of the declared length therefore takes all that is written and is full then, and the builder has no
use for its error of a message that does not fit. Where there is memory for every buffer, it builds
the envelope that is built without them.
-/

namespace GasSponsor

open Ledger

namespace Wire

variable {α : Type} [Message α] {a : α}

theorem reserve_of_le {capacity : Nat} (h : capacity ≤ bufferLimit) : reserve capacity = some [] :=
  if_pos h

theorem reserve_of_lt {capacity : Nat} (h : bufferLimit < capacity) : reserve capacity = none :=
  if_neg (Nat.not_le_of_lt h)

theorem encodeInto_nil (h : encodedLength a ≤ bufferLimit) : encodeInto a [] = .ok (encode a) := by
  rw [encodeInto, List.length_nil, Nat.sub_zero]
  exact if_neg (Nat.not_lt_of_le h)

theorem lt_size_of_le_bufferLimit {n : Nat} (h : n ≤ bufferLimit) : n < UInt64.size :=
  Nat.lt_of_le_of_lt h (by decide)

end Wire

theorem PayerIdentity.eq_signing_of_sign {p : PayerIdentity} {payload : Bytes} {e : BuildError}
    (h : p.sign payload = .error e) : e = .signing "signature error" := by
  rw [PayerIdentity.sign] at h
  -- opened where it is applied to no key yet: there is nothing to compute in it then
  generalize hsign : PrivateKey.sign = sign at h
  delta PrivateKey.sign at hsign
  subst hsign
  dsimp only at h
  generalize Ecdsa.sign? p.key.scalar (Sha256.hash payload) = g at h
  cases g with
  | some g => cases h
  | none => exact (Except.error.inj h).symm

namespace EnvelopeBuilder

variable {α : Type} [Wire.Message α] {b : EnvelopeBuilder} {m : Ethereum.Message} {fee : FeeQuote}
  {account : AccountInfo}

/-- A message is written, or there is no buffer for it. -/
theorem write_eq (a : α) : write a =
    if Wire.encodedLength a ≤ Wire.bufferLimit then some (.ok (Wire.encode a)) else none := by
  unfold write
  split
  · next h =>
      rw [Wire.reserve_of_le h, Option.map_some, Wire.encodeInto_nil h]
      rfl
  · next h =>
      rw [Wire.reserve_of_lt (Nat.lt_of_not_le h)]
      rfl

theorem write_of_le {a : α} (h : Wire.encodedLength a ≤ Wire.bufferLimit) :
    write a = pure (Wire.encode a) := by
  rw [write_eq, if_pos h]
  rfl

theorem write_ne_error (a : α) (e : BuildError) : write a ≠ some (.error e) := by
  rw [write_eq]
  split
  · exact fun h => nomatch h
  · exact fun h => nomatch h

/-- Whatever follows a write has the bytes of the message. -/
theorem write_bind_eq_some {β : Type} {a : α} {next : Bytes → ExceptT BuildError Option β}
    {r : Except BuildError β} (h : (write a >>= next) = some r) :
    next (Wire.encode a) = some r := by
  by_cases hle : Wire.encodedLength a ≤ Wire.bufferLimit
  · rwa [write_of_le hle, pure_bind] at h
  · rw [write_eq, if_neg hle] at h
    cases h

theorem build_ne_encoding (b : EnvelopeBuilder) (m : Ethereum.Message) (fee : FeeQuote)
    (account : AccountInfo) (text : String) : b.build m fee account ≠ .error (.encoding text) := by
  by_cases hrefused : m.Replayable
  · rw [build, if_pos (refuses_iff.2 hrefused)]
    simp
  · rw [b.build_of_not_replayable fee account hrefused]
    cases hsign : b.identity.sign (Wire.encode (b.signDoc m fee account)) with
    | error e =>
        rw [PayerIdentity.eq_signing_of_sign hsign]
        simp [Except.map]
    | ok signature => simp [Except.map]

/-- What comes of building in buffers is what is built without them. -/
theorem build_of_buildBuffered {r : Except BuildError SignedEnvelope}
    (h : b.buildBuffered m fee account = some r) : r = b.build m fee account := by
  by_cases hrefused : refuses m = true
  · rw [buildBuffered, if_pos hrefused] at h
    rw [build, if_pos hrefused]
    exact (Option.some.inj h).symm
  · rw [buildBuffered, if_neg hrefused] at h
    rw [b.build_of_not_replayable fee account (mt refuses_iff.2 hrefused)]
    have hsigned := write_bind_eq_some (write_bind_eq_some (write_bind_eq_some h))
    change ExceptT.mk (some (b.identity.sign (Wire.encode (b.signDoc m fee account)))) >>= _ =
      some r at hsigned
    cases hsign : b.identity.sign (Wire.encode (b.signDoc m fee account)) with
    | error e =>
        rw [hsign] at hsigned
        exact (Option.some.inj hsigned).symm
    | ok signature =>
        rw [hsign] at hsigned
        exact (Option.some.inj (write_bind_eq_some hsigned)).symm

/-- There is a buffer for each of the messages that the builder writes. -/
structure Fits (b : EnvelopeBuilder) (m : Ethereum.Message) (fee : FeeQuote) (account : AccountInfo) :
    Prop where
  body : Wire.encodedLength (body m) ≤ Wire.bufferLimit
  authInfo : Wire.encodedLength (b.authInfo m fee account.sequence) ≤ Wire.bufferLimit
  signDoc : Wire.encodedLength (b.signDoc m fee account) ≤ Wire.bufferLimit
  signedTx : ∀ signature, b.identity.sign (Wire.encode (b.signDoc m fee account)) = .ok signature →
    Wire.encodedLength (b.signedTx m fee account signature) ≤ Wire.bufferLimit

theorem Fits.buildBuffered (h : b.Fits m fee account) :
    b.buildBuffered m fee account = some (b.build m fee account) := by
  by_cases hrefused : refuses m = true
  · rw [EnvelopeBuilder.buildBuffered, if_pos hrefused, build, if_pos hrefused]
    rfl
  · rw [EnvelopeBuilder.buildBuffered, if_neg hrefused,
      b.build_of_not_replayable fee account (mt refuses_iff.2 hrefused), write_of_le h.body, pure_bind,
      write_of_le h.authInfo, pure_bind]
    have hdoc := write_of_le h.signDoc
    rw [EnvelopeBuilder.signDoc] at hdoc
    rw [hdoc, pure_bind]
    change ExceptT.mk (some (b.identity.sign (Wire.encode (b.signDoc m fee account)))) >>= _ = _
    cases hsign : b.identity.sign (Wire.encode (b.signDoc m fee account)) with
    | error e => rfl
    | ok signature =>
        have htx := write_of_le (h.signedTx signature hsign)
        rw [EnvelopeBuilder.signedTx] at htx
        change (write _ >>= _) = _
        rw [htx]
        rfl

/-- The bytes of an envelope in which every length is counted on what stands behind it: of the envelope
itself, of its body and of its authorisation. -/
theorem exists_layout_of_build {envelope : SignedEnvelope} (h : b.build m fee account = .ok envelope)
    (hlen : envelope.tx.length < UInt64.size) : ∃ signature,
      envelope.tx = Wire.layout (⟨Wire.layout (body m),
        Wire.layout (b.authInfo m fee account.sequence), [signature]⟩ : TxRaw) := by
  obtain ⟨-, signature, -, htx⟩ := build_ok h
  rw [htx] at hlen
  have hbody : (Wire.encode (body m)).length < UInt64.size :=
    Nat.lt_of_le_of_lt (length_bodyBytes_le (b.signedTx m fee account signature)) hlen
  have hauth : (Wire.encode (b.authInfo m fee account.sequence)).length < UInt64.size :=
    Nat.lt_of_le_of_lt (length_authInfoBytes_le (b.signedTx m fee account signature)) hlen
  refine ⟨signature, ?_⟩
  rw [htx, Wire.encode_eq_layout (Wire.encodedLength_lt hlen),
    Wire.encode_eq_layout (Wire.encodedLength_lt hbody),
    Wire.encode_eq_layout (Wire.encodedLength_lt hauth)]

/-- Every message is written in as many bytes as it declares, and so is every message in it, behind
the number of these bytes; so are the layers of an envelope. A message is therefore written whole as
soon as there is a buffer for it, and the builder never fails for want of room: with buffers it builds
what it builds without. -/
theorem declared_length_written :
    (∀ (t : MessageType) (a : t.Carrier), Wire.encodedLength a < UInt64.size →
      Wire.encodedLength a = (Wire.encode a).length ∧
      (∀ p ∈ Wire.messagesIn a, p.1.encodedLength p.2 = (p.1.encode p.2).length) ∧
      Wire.encode a = Wire.layout a) ∧
    (∀ (t : MessageType) (a : t.Carrier), (∀ e, write a ≠ some (.error e)) ∧
      (Wire.encodedLength a ≤ Wire.bufferLimit →
        write a = pure (Wire.encode a) ∧ (Wire.encode a).length = Wire.encodedLength a)) ∧
    ∀ (b : EnvelopeBuilder) (m : Ethereum.Message) (fee : FeeQuote) (account : AccountInfo),
      (∀ envelope, b.build m fee account = .ok envelope → envelope.tx.length < UInt64.size →
        ∃ signature, envelope.tx = Wire.layout (⟨Wire.layout (body m),
          Wire.layout (b.authInfo m fee account.sequence), [signature]⟩ : TxRaw)) ∧
      (∀ r, b.buildBuffered m fee account = some r →
        r = b.build m fee account ∧ ∀ text, r ≠ .error (.encoding text)) ∧
      (b.Fits m fee account →
        b.buildBuffered m fee account = some (b.build m fee account)) := by
  refine ⟨fun t a h => ?_, fun t a => ⟨write_ne_error a, fun h => ⟨write_of_le h, ?_⟩⟩,
    fun b m fee account => ⟨fun _ => exists_layout_of_build, fun r h => ?_, fun h => ?_⟩⟩
  · exact ⟨Wire.encodedLength_eq_length h, fun p => Wire.encodedLength_eq_of_mem_messagesIn h,
      Wire.encode_eq_layout h⟩
  · exact (Wire.encodedLength_eq_length (Wire.lt_size_of_le_bufferLimit h)).symm
  · obtain rfl := build_of_buildBuffered h
    exact ⟨rfl, b.build_ne_encoding m fee account⟩
  · exact h.buildBuffered

/-- Three messages within one another, and a coin beside them. -/
theorem declared_length_written_fee :
    Wire.encodedLength (⟨[⟨none, some ⟨some .direct⟩, 300⟩],
        some ⟨[⟨"aevmos", "15500000"⟩], 100000, "", ""⟩⟩ : AuthInfo) = 37 ∧
      (Wire.encode (⟨[⟨none, some ⟨some .direct⟩, 300⟩],
        some ⟨[⟨"aevmos", "15500000"⟩], 100000, "", ""⟩⟩ : AuthInfo)).length = 37 := by
  have hdeclared : Wire.encodedLength (⟨[⟨none, some ⟨some .direct⟩, 300⟩],
      some ⟨[⟨"aevmos", "15500000"⟩], 100000, "", ""⟩⟩ : AuthInfo) = 37 := by decide
  have hwritten := (declared_length_written.1 .authInfo (⟨[⟨none, some ⟨some .direct⟩, 300⟩],
      some ⟨[⟨"aevmos", "15500000"⟩], 100000, "", ""⟩⟩ : AuthInfo) (by decide)).1
  exact ⟨hdeclared, hwritten.symm.trans hdeclared⟩

end EnvelopeBuilder

end GasSponsor
