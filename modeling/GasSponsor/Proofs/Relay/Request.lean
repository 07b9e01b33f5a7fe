import GasSponsor.Relay.Pipeline
import GasSponsor.Proofs.Envelope
import GasSponsor.Proofs.Quote

/-!
# How one request is relayed

The transcripts of a relayed request, one for each step at which it can end: the account query, the
quote, the build, the broadcast, and the response. Each says which calls were made, what the caller
is told, and what the worker knows about the account afterwards.
-/

namespace GasSponsor

open Program

def AccountInfo.fresh (info : AccountInfo) : AccountState :=
  ⟨info.accountNumber, info.sequence, false⟩

inductive Fetched (address : String) (a : AccountState) :
    List Exchange → AccountState → Except RelayError AccountInfo → Prop
  | cached (info : AccountInfo) (h : a.snapshot = some info) : Fetched address a [] a (.ok info)
  | failed (e : RelayError) (h : a.snapshot = none) :
      Fetched address a [⟨.account address, some (.error e)⟩] a (.error e)
  | queried (info : AccountInfo) (h : a.snapshot = none) :
      Fetched address a [⟨.account address, some (.ok info)⟩] info.fresh (.ok info)

theorem AccountState.fetched_of_completes {a b : AccountState} {address : String}
    {xs : List Exchange} {reply : Except RelayError AccountInfo}
    (h : Completes (a.ensureFresh address) xs (b, reply)) : Fetched address a xs b reply := by
  unfold ensureFresh at h
  cases hs : a.snapshot with
  | some info =>
      rw [hs] at h
      obtain ⟨rfl, hend⟩ := completes_pure.1 h
      cases hend
      exact .cached info hs
  | none =>
      rw [hs] at h
      obtain ⟨answer, ys, rfl, hrest⟩ := completes_ask_bind.1 h
      cases answer with
      | error e =>
          dsimp only at hrest
          rw [completes_note_bind, completes_pure] at hrest
          obtain ⟨rfl, hend⟩ := hrest
          cases hend
          exact .failed e hs
      | ok info =>
          dsimp only at hrest
          rw [completes_note_bind, completes_note_bind, completes_pure] at hrest
          obtain ⟨rfl, hend⟩ := hrest
          cases hend
          exact .queried info hs

theorem AccountState.completes_advance {a b : AccountState} {xs : List Exchange} :
    Completes a.advance xs b ↔ xs = [] ∧ b = { a with sequence := a.sequence + 1 } := by
  rw [advance, completes_note_bind, completes_pure]

namespace Relay

def settledAccount (a : AccountState) (r : BroadcastResponse) : AccountState :=
  match r.outcome with
  | .accepted | .duplicatePending => { a with sequence := a.sequence + 1 }
  | .sequenceMismatch => a.invalidate
  | .rejected => a

def verdict (hash : Digest) (r : BroadcastResponse) : RelayResult :=
  match r.outcome with
  | .accepted | .duplicatePending => .ok hash
  | .sequenceMismatch => .error (.sequenceMismatch r.code r.codespace r.log)
  | .rejected => .error (.rejected r.code r.codespace r.log)

/-- The transcript of a relayed request, with the account and the result that it leaves. -/
inductive Relayed (w : Worker) (a : AccountState) (m : Ethereum.Message) (denom : String) :
    List Exchange → AccountState → RelayResult → Prop
  | unfetched {xs : List Exchange} {b : AccountState} {e : RelayError}
      (hfetch : Fetched w.builder.identity.bech32 a xs b (.error e)) :
      Relayed w a m denom xs b (.error e)
  | unquoted {xs ys : List Exchange} {b : AccountState} {info : AccountInfo} {e : RelayError}
      (hfetch : Fetched w.builder.identity.bech32 a xs b (.ok info))
      (hquote : Quoted w.estimator m.gasLimit denom ys (.error e)) :
      Relayed w a m denom (xs ++ ys) b (.error e)
  | unbuilt {xs ys : List Exchange} {b : AccountState} {info : AccountInfo} {fee : FeeQuote}
      {e : BuildError} (hfetch : Fetched w.builder.identity.bech32 a xs b (.ok info))
      (hquote : Quoted w.estimator m.gasLimit denom ys (.ok fee))
      (hbuild : w.builder.build m fee info = .error e) :
      Relayed w a m denom (xs ++ ys) b (.error (.build e))
  | unsent {xs ys : List Exchange} {b : AccountState} {info : AccountInfo} {fee : FeeQuote}
      {envelope : SignedEnvelope} (e : RelayError)
      (hfetch : Fetched w.builder.identity.bech32 a xs b (.ok info))
      (hquote : Quoted w.estimator m.gasLimit denom ys (.ok fee))
      (hbuild : w.builder.build m fee info = .ok envelope) :
      Relayed w a m denom (xs ++ ys ++ [⟨.broadcast envelope.tx, some (.error e)⟩]) b (.error e)
  | answered {xs ys : List Exchange} {b : AccountState} {info : AccountInfo} {fee : FeeQuote}
      {envelope : SignedEnvelope} (r : BroadcastResponse)
      (hfetch : Fetched w.builder.identity.bech32 a xs b (.ok info))
      (hquote : Quoted w.estimator m.gasLimit denom ys (.ok fee))
      (hbuild : w.builder.build m fee info = .ok envelope) :
      Relayed w a m denom (xs ++ ys ++ [⟨.broadcast envelope.tx, some (.ok r)⟩])
        (settledAccount b r) (verdict m.hash r)

namespace Worker

variable {w : Worker} {a b : AccountState} {m : Ethereum.Message} {denom : String}
  {xs : List Exchange}

theorem completes_settle {r : BroadcastResponse} {outcome : Except RelayError BroadcastOutcome}
    (h : Completes (settle a r) xs (b, outcome)) :
    xs = [] ∧ b = settledAccount a r ∧ (outcome.map fun _ => m.hash) = verdict m.hash r := by
  unfold settle at h
  unfold settledAccount verdict
  cases hr : r.outcome with
  | accepted =>
      rw [hr] at h
      obtain ⟨_, _, _, rfl, hadvance, hend⟩ := completes_bind.1 h
      obtain ⟨rfl, rfl⟩ := AccountState.completes_advance.1 hadvance
      obtain ⟨rfl, hend⟩ := completes_pure.1 hend
      cases hend
      exact ⟨rfl, rfl, rfl⟩
  | duplicatePending =>
      rw [hr] at h
      obtain ⟨_, _, _, rfl, hadvance, hend⟩ := completes_bind.1 h
      obtain ⟨rfl, rfl⟩ := AccountState.completes_advance.1 hadvance
      obtain ⟨rfl, hend⟩ := completes_pure.1 hend
      cases hend
      exact ⟨rfl, rfl, rfl⟩
  | sequenceMismatch =>
      rw [hr] at h
      obtain ⟨rfl, hend⟩ := completes_pure.1 h
      cases hend
      exact ⟨rfl, rfl, rfl⟩
  | rejected =>
      rw [hr] at h
      obtain ⟨rfl, hend⟩ := completes_pure.1 h
      cases hend
      exact ⟨rfl, rfl, rfl⟩

theorem relayed_of_submit {ys : List Exchange} {info : AccountInfo}
    {outcome : Except RelayError BroadcastOutcome}
    (hfetch : Fetched w.builder.identity.bech32 a xs b (.ok info)) {c : AccountState}
    (h : Completes (w.submit b info m denom) ys (c, outcome)) :
    Relayed w a m denom (xs ++ ys) c (outcome.map fun _ => m.hash) := by
  obtain ⟨qs, quote, zs, rfl, hquote, hrest⟩ := completes_bind.1 h
  have hquoted := FeeEstimator.quoted_of_completes hquote
  cases quote with
  | error e =>
      obtain ⟨rfl, hend⟩ := completes_pure.1 hrest
      cases hend
      rw [List.append_nil]
      exact .unquoted hfetch hquoted
  | ok fee =>
      dsimp only at hrest
      cases hbuild : w.builder.build m fee info with
      | error e =>
          rw [hbuild] at hrest
          obtain ⟨rfl, hend⟩ := completes_pure.1 hrest
          cases hend
          rw [List.append_nil]
          exact .unbuilt hfetch hquoted hbuild
      | ok envelope =>
          rw [hbuild] at hrest
          obtain ⟨response, ts, rfl, hresponse⟩ := completes_ask_bind.1 hrest
          rw [← List.append_assoc]
          cases response with
          | error e =>
              obtain ⟨rfl, hend⟩ := completes_pure.1 hresponse
              cases hend
              exact .unsent e hfetch hquoted hbuild
          | ok r =>
              obtain ⟨rfl, rfl, hverdict⟩ := completes_settle hresponse
              rw [hverdict]
              exact .answered r hfetch hquoted hbuild

theorem relayed_of_completes {result : RelayResult}
    (h : Completes (w.relay a m denom) xs (b, result)) : Relayed w a m denom xs b result := by
  obtain ⟨ys, ⟨c, info⟩, zs, rfl, hfetch, hrest⟩ := completes_bind.1 h
  have hfetched := AccountState.fetched_of_completes hfetch
  cases info with
  | error e =>
      dsimp only at hrest
      rw [completes_note_bind, completes_pure] at hrest
      obtain ⟨rfl, hend⟩ := hrest
      cases hend
      rw [List.append_nil]
      exact .unfetched hfetched
  | ok info =>
      obtain ⟨us, ⟨d, outcome⟩, vs, rfl, hsubmit, hend⟩ := completes_bind.1 hrest
      rw [completes_note_bind, completes_pure] at hend
      obtain ⟨rfl, hend⟩ := hend
      cases hend
      rw [List.append_nil]
      exact relayed_of_submit hfetched hsubmit

end Worker

end Relay

end GasSponsor
