import GasSponsor.Proofs.Relay.Sequence

/-!
# What a request comes to

An answer that a request does not survive is a fault, and every fault stands for one error. A
request whose calls had no fault was broadcast and admitted, unless the builder refused it; else it
ended at its first fault, with the error of that fault. Nothing follows the only broadcast.
-/

namespace GasSponsor

def Call.isBroadcast : Call → Bool
  | .broadcast _ => true
  | _ => false

def BroadcastResponse.refusal? (r : BroadcastResponse) : Option RelayError :=
  match r.outcome with
  | .accepted | .duplicatePending => none
  | .sequenceMismatch => some (.sequenceMismatch r.code r.codespace r.log)
  | .rejected => some (.rejected r.code r.codespace r.log)

def Call.fault? : (c : Call) → c.Answer → Option RelayError
  | .baseFee height, none => some (absentBaseFee height)
  | .feeMarketParams, denominator => if denominator = 0 then some zeroDenominator else none
  | .broadcast _, r => r.refusal?
  | _, _ => none

namespace Exchange

def failure? (x : Exchange) : Option RelayError :=
  match x.reply with
  | some (.error e) => some e
  | _ => none

def fault? (x : Exchange) : Option RelayError :=
  match x.reply with
  | some (.error e) => some e
  | some (.ok answer) => x.call.fault? answer
  | none => none

/-- An answer before the broadcast after which a request goes on. -/
def Passes (x : Exchange) : Prop := x.fault? = none ∧ x.call.isBroadcast = false

theorem passes_account (address : String) (info : AccountInfo) :
    Passes ⟨.account address, some (.ok info)⟩ := ⟨rfl, rfl⟩

theorem passes_blockResults (height : UInt64) :
    Passes ⟨.blockResults none, some (.ok height)⟩ := ⟨rfl, rfl⟩

theorem passes_baseFee (height : UInt64) (fee : Nat) :
    Passes ⟨.baseFee height, some (.ok (some fee))⟩ := ⟨rfl, rfl⟩

theorem passes_feeMarketParams {denominator : UInt32} (h : denominator ≠ 0) :
    Passes ⟨.feeMarketParams, some (.ok denominator)⟩ := ⟨if_neg h, rfl⟩

end Exchange

namespace Relay

open Program

inductive Ended (w : Worker) (known : Option AccountInfo) (m : Ethereum.Message) (denom : String) :
    List Exchange → RelayResult → Prop
  | admitted {xs : List Exchange} {tx : Bytes} {r : BroadcastResponse}
      (hpass : ∀ x ∈ xs, x.Passes) (hhash : CarriesHash tx m.hash)
      (hadmits : (⟨.broadcast tx, some (.ok r)⟩ : Exchange).admits = true) :
      Ended w known m denom (xs ++ [⟨.broadcast tx, some (.ok r)⟩]) (.ok m.hash)
  | refused {xs ys : List Exchange} {info : AccountInfo} {fee : FeeQuote} {cause : BuildError}
      (hpass : ∀ x ∈ xs ++ ys, x.Passes) (hknown : knownAfter known xs = some info)
      (hquote : Quoted w.estimator m.gasLimit denom ys (.ok fee))
      (hbuild : w.builder.build m fee info = .error cause) :
      Ended w known m denom (xs ++ ys) (.error (.build cause))
  | failed {xs : List Exchange} {x : Exchange} {e : RelayError} (hpass : ∀ y ∈ xs, y.Passes)
      (hfault : x.fault? = some e) : Ended w known m denom (xs ++ [x]) (.error e)

/-- Why a request gets no response to a broadcast: a call failed, there is no base fee or the
denominator is zero, or the builder refuses the message. -/
inductive Hindered (w : Worker) (known : Option AccountInfo) (m : Ethereum.Message)
    (denom : String) (xs : List Exchange) : RelayError → Prop
  | call {x : Exchange} {e : RelayError} (hx : x ∈ xs) (he : x.failure? = some e) :
      Hindered w known m denom xs e
  | noBaseFee {height : UInt64} (hx : ⟨.baseFee height, some (.ok none)⟩ ∈ xs) :
      Hindered w known m denom xs (absentBaseFee height)
  | noDenominator (hx : ⟨.feeMarketParams, some (.ok (0 : UInt32))⟩ ∈ xs) :
      Hindered w known m denom xs zeroDenominator
  | refused {ys zs : List Exchange} {info : AccountInfo} {fee : FeeQuote} {cause : BuildError}
      (hxs : xs = ys ++ zs) (hknown : knownAfter known ys = some info)
      (hquote : Quoted w.estimator m.gasLimit denom zs (.ok fee))
      (hbuild : w.builder.build m fee info = .error cause) :
      Hindered w known m denom xs (.build cause)

section

variable {w : Worker} {a b : AccountState} {m : Ethereum.Message} {denom : String}
  {xs : List Exchange}

theorem fetched_passes {address : String} {info : AccountInfo}
    (h : Fetched address a xs b (.ok info)) : ∀ x ∈ xs, x.Passes := by
  cases h with
  | cached _ _ => simp
  | queried _ _ => exact List.forall_mem_singleton.2 (Exchange.passes_account _ _)

theorem projectBaseFee_ok {baseFee price : Nat} {denominator lookahead : UInt32}
    (h : projectBaseFee baseFee denominator lookahead = .ok price) : denominator ≠ 0 := by
  unfold projectBaseFee at h
  split at h
  · cases h
  · next hd => exact hd

theorem passes_append {xs ys : List Exchange} (hxs : ∀ x ∈ xs, x.Passes)
    (hys : ∀ y ∈ ys, y.Passes) : ∀ x ∈ xs ++ ys, x.Passes := by
  intro x hx
  rcases List.mem_append.1 hx with hx | hx
  · exact hxs x hx
  · exact hys x hx

/-- The height and the base fee are asked for first. -/
theorem passes_base (height : UInt64) (fee : Nat) :
    ∀ x ∈ ([⟨.blockResults none, some (.ok height)⟩,
      ⟨.baseFee height, some (.ok (some fee))⟩] : List Exchange), x.Passes :=
  List.forall_mem_cons.2 ⟨Exchange.passes_blockResults height,
    List.forall_mem_singleton.2 (Exchange.passes_baseFee height fee)⟩

theorem quoted_passes {e : FeeEstimator} {gas : UInt64} {fee : FeeQuote}
    (h : Quoted e gas denom xs (.ok fee)) : ∀ x ∈ xs, x.Passes := by
  cases h with
  | free height => exact passes_base height 0
  | current height fee _ _ => exact passes_base height fee
  | projected height fee _ _ _ _ h =>
      exact passes_append (passes_base height fee)
        (List.forall_mem_singleton.2 (Exchange.passes_feeMarketParams (projectBaseFee_ok h)))

theorem fetched_fault {address : String} {e : RelayError}
    (h : Fetched address a xs b (.error e)) : ∃ x, xs = [x] ∧ x.fault? = some e := by
  cases h with
  | failed _ _ => exact ⟨_, rfl, rfl⟩

theorem quoted_fault {est : FeeEstimator} {gas : UInt64} {e : RelayError}
    (h : Quoted est gas denom xs (.error e)) :
    ∃ ys x, xs = ys ++ [x] ∧ (∀ y ∈ ys, y.Passes) ∧ x.fault? = some e := by
  cases h with
  | noBlock _ => exact ⟨[], _, rfl, List.forall_mem_nil _, rfl⟩
  | noBaseFee height _ =>
      exact ⟨[_], _, rfl, List.forall_mem_singleton.2 (Exchange.passes_blockResults height), rfl⟩
  | absent height =>
      exact ⟨[_], _, rfl, List.forall_mem_singleton.2 (Exchange.passes_blockResults height), rfl⟩
  | noParams height fee _ _ _ => exact ⟨[_, _], _, rfl, passes_base height fee, rfl⟩
  | unprojected height fee denominator _ _ _ h =>
      obtain ⟨rfl, rfl⟩ := projectBaseFee_error h
      exact ⟨[_, _], _, rfl, passes_base height fee, rfl⟩

theorem ended_of_response {known : Option AccountInfo} {tx : Bytes} (r : BroadcastResponse)
    (hpass : ∀ x ∈ xs, x.Passes) (hhash : CarriesHash tx m.hash) :
    Ended w known m denom (xs ++ [⟨.broadcast tx, some (.ok r)⟩]) (verdict m.hash r) := by
  unfold verdict
  cases hr : r.outcome with
  | accepted => exact .admitted hpass hhash (by simp [Exchange.admits, Exchange.outcome?, hr])
  | duplicatePending =>
      exact .admitted hpass hhash (by simp [Exchange.admits, Exchange.outcome?, hr])
  | sequenceMismatch =>
      exact .failed hpass (by simp [Exchange.fault?, Call.fault?, BroadcastResponse.refusal?, hr])
  | rejected =>
      exact .failed hpass (by simp [Exchange.fault?, Call.fault?, BroadcastResponse.refusal?, hr])

theorem fetched_isBroadcast {address : String} {reply : Except RelayError AccountInfo}
    (h : Fetched address a xs b reply) : ∀ c ∈ xs.map Exchange.call, c.isBroadcast = false := by
  cases h <;> simp [Call.isBroadcast]

theorem quoted_isBroadcast {e : FeeEstimator} {gas : UInt64} {reply : Except RelayError FeeQuote}
    (h : Quoted e gas denom xs reply) : ∀ c ∈ xs.map Exchange.call, c.isBroadcast = false := by
  cases h <;> simp [Call.isBroadcast]

theorem quote_isBroadcast {ys zs : List Exchange} {info : AccountInfo}
    {reply : Except RelayError FeeQuote}
    (hfetch : Fetched w.builder.identity.bech32 a ys b (.ok info))
    (hquote : Quoted w.estimator m.gasLimit denom zs reply) :
    ∀ c ∈ (ys ++ zs).map Exchange.call, c.isBroadcast = false := by
  intro c hc
  rw [List.map_append] at hc
  rcases List.mem_append.1 hc with hc | hc
  · exact fetched_isBroadcast hfetch c hc
  · exact quoted_isBroadcast hquote c hc

theorem not_isBroadcast_mem {older newer : List Exchange} {x : Exchange}
    (h : ∀ c ∈ (older ++ x :: newer).map Exchange.call, c.isBroadcast = false) :
    x.call.isBroadcast = false :=
  h x.call (List.mem_map_of_mem (List.mem_append_right older List.mem_cons_self))

/-- A broadcast after calls that are none is the last call. -/
theorem eq_of_isBroadcast {ys older newer : List Exchange} {x y : Exchange}
    (hys : ∀ c ∈ ys.map Exchange.call, c.isBroadcast = false) (hx : x.call.isBroadcast = true)
    (h : ys ++ [y] = older ++ x :: newer) : ys = older ∧ y = x := by
  induction newer using List.reverseRecOn with
  | nil =>
      obtain ⟨hbefore, hlast⟩ := List.append_inj' h rfl
      exact ⟨hbefore, List.singleton_inj.1 hlast⟩
  | append_singleton newer _ _ =>
      rw [← List.cons_append, ← List.append_assoc] at h
      obtain ⟨rfl, _⟩ := List.append_inj' h rfl
      rw [not_isBroadcast_mem hys] at hx
      cases hx

/-- What was asked before a broadcast is what its envelope was built from. -/
theorem Relayed.exists_build {result : RelayResult} {older newer : List Exchange} {x : Exchange}
    {tx : Bytes} (h : Relayed w a m denom (older ++ x :: newer) b result)
    (hx : x.call = .broadcast tx) :
    ∃ (ys zs : List Exchange) (c : AccountState) (info : AccountInfo) (fee : FeeQuote)
      (envelope : SignedEnvelope), older = ys ++ zs ∧
      Fetched w.builder.identity.bech32 a ys c (.ok info) ∧
      Quoted w.estimator m.gasLimit denom zs (.ok fee) ∧
      w.builder.build m fee info = .ok envelope ∧ envelope.tx = tx := by
  have hbroadcast : x.call.isBroadcast = true := by rw [hx, Call.isBroadcast]
  generalize hxs : older ++ x :: newer = xs at h
  cases h with
  | unfetched hfetch =>
      rw [← hxs] at hfetch
      rw [not_isBroadcast_mem (fetched_isBroadcast hfetch)] at hbroadcast
      cases hbroadcast
  | unquoted hfetch hquote =>
      have hnone := quote_isBroadcast hfetch hquote
      rw [← hxs] at hnone
      rw [not_isBroadcast_mem hnone] at hbroadcast
      cases hbroadcast
  | unbuilt hfetch hquote _ =>
      have hnone := quote_isBroadcast hfetch hquote
      rw [← hxs] at hnone
      rw [not_isBroadcast_mem hnone] at hbroadcast
      cases hbroadcast
  | unsent e hfetch hquote hbuild =>
      obtain ⟨hold, rfl⟩ := eq_of_isBroadcast (quote_isBroadcast hfetch hquote) hbroadcast hxs.symm
      cases hx
      exact ⟨_, _, _, _, _, _, hold.symm, hfetch, hquote, hbuild, rfl⟩
  | answered r hfetch hquote hbuild =>
      obtain ⟨hold, rfl⟩ := eq_of_isBroadcast (quote_isBroadcast hfetch hquote) hbroadcast hxs.symm
      cases hx
      exact ⟨_, _, _, _, _, _, hold.symm, hfetch, hquote, hbuild, rfl⟩

theorem Relayed.carriesHash {result : RelayResult} {tx : Bytes}
    (h : Relayed w a m denom xs b result) (htx : .broadcast tx ∈ xs.map Exchange.call) :
    CarriesHash tx m.hash := by
  obtain ⟨x, hx, hcall⟩ := List.mem_map.1 htx
  obtain ⟨older, newer, rfl⟩ := List.append_of_mem hx
  obtain ⟨_, _, _, _, _, envelope, _, _, _, hbuild, rfl⟩ := h.exists_build hcall
  exact EnvelopeBuilder.carriesHash_of_build hbuild

theorem Relayed.ended {result : RelayResult} (h : Relayed w a m denom xs b result) :
    Ended w a.snapshot m denom xs result := by
  cases h with
  | unfetched hfetch =>
      obtain ⟨x, rfl, hfault⟩ := fetched_fault hfetch
      rw [← List.nil_append [x]]
      exact .failed (List.forall_mem_nil _) hfault
  | unquoted hfetch hquote =>
      obtain ⟨ys, x, rfl, hpass, hfault⟩ := quoted_fault hquote
      rw [← List.append_assoc]
      exact .failed (passes_append (fetched_passes hfetch) hpass) hfault
  | unbuilt hfetch hquote hbuild =>
      have hknown := (fetched_lawful hfetch).2
      rw [snapshot_of_fetched hfetch] at hknown
      exact .refused (passes_append (fetched_passes hfetch) (quoted_passes hquote)) hknown hquote
        hbuild
  | unsent e hfetch hquote hbuild =>
      exact .failed (passes_append (fetched_passes hfetch) (quoted_passes hquote)) rfl
  | answered r hfetch hquote hbuild =>
      exact ended_of_response r (passes_append (fetched_passes hfetch) (quoted_passes hquote))
        (EnvelopeBuilder.carriesHash_of_build hbuild)

end

section

variable {w : Worker} {known : Option AccountInfo} {m : Ethereum.Message} {denom : String}
  {xs : List Exchange} {result : RelayResult}

theorem countP_isBroadcast_of_passes {xs : List Exchange} (h : ∀ x ∈ xs, x.Passes) :
    (xs.map Exchange.call).countP Call.isBroadcast = 0 := by
  rw [List.countP_map, List.countP_eq_zero]
  intro x hx
  simp [(h x hx).2]

/-- A request is broadcast at most once. -/
theorem Ended.countP_isBroadcast_le (h : Ended w known m denom xs result) :
    (xs.map Exchange.call).countP Call.isBroadcast ≤ 1 := by
  cases h with
  | admitted hpass _ _ =>
      rw [List.map_append, List.countP_append, countP_isBroadcast_of_passes hpass,
        Nat.zero_add]
      exact List.countP_le_length
  | refused hpass _ _ _ =>
      rw [countP_isBroadcast_of_passes hpass]
      exact Nat.zero_le 1
  | failed hpass _ =>
      rw [List.map_append, List.countP_append, countP_isBroadcast_of_passes hpass,
        Nat.zero_add]
      exact List.countP_le_length

theorem not_admits_of_passes {x : Exchange} (h : x.Passes) : x.admits = false := by
  obtain ⟨c, reply⟩ := x
  cases c with
  | broadcast tx => cases h.2
  | blockResults _ | baseFee _ | feeMarketParams | account _ =>
      simp [Exchange.admits, Exchange.outcome?]

theorem not_admits_of_fault {x : Exchange} {e : RelayError} (h : x.fault? = some e) :
    x.admits = false := by
  obtain ⟨c, reply⟩ := x
  cases c with
  | broadcast tx =>
      match reply with
      | none => simp [Exchange.admits, Exchange.outcome?]
      | some (.error _) => simp [Exchange.admits, Exchange.outcome?]
      | some (.ok r) =>
          change r.refusal? = some e at h
          unfold BroadcastResponse.refusal? at h
          cases hr : r.outcome <;> simp [hr] at h <;>
            simp [Exchange.admits, Exchange.outcome?, hr]
  | blockResults _ | baseFee _ | feeMarketParams | account _ =>
      simp [Exchange.admits, Exchange.outcome?]

/-- A caller is told of success exactly when an envelope was admitted. -/
theorem Ended.ok_iff (h : Ended w known m denom xs result) (hash : Digest) :
    result = .ok hash ↔ hash = m.hash ∧ ∃ x ∈ xs, x.admits = true := by
  cases h with
  | admitted hpass _ hadmits =>
      constructor
      · intro h
        cases h
        exact ⟨rfl, _, by simp, hadmits⟩
      · rintro ⟨rfl, _⟩
        rfl
  | refused hpass _ _ _ =>
      constructor
      · intro h
        cases h
      · rintro ⟨_, x, hx, hadmits⟩
        rw [not_admits_of_passes (hpass x hx)] at hadmits
        cases hadmits
  | failed hpass hfault =>
      constructor
      · intro h
        cases h
      · rintro ⟨_, x, hx, hadmits⟩
        rcases List.mem_append.1 hx with hx | hx
        · rw [not_admits_of_passes (hpass x hx)] at hadmits
          cases hadmits
        · rw [List.mem_singleton.1 hx, not_admits_of_fault hfault] at hadmits
          cases hadmits

/-- A fault is a failed call, a quote that cannot be made, or a response. -/
theorem fault_cases {x : Exchange} {e : RelayError} (h : x.fault? = some e) :
    x.failure? = some e ∨
      (∃ height, x = ⟨.baseFee height, some (.ok none)⟩ ∧ e = absentBaseFee height) ∨
      (x = ⟨.feeMarketParams, some (.ok (0 : UInt32))⟩ ∧ e = zeroDenominator) ∨
      ∃ tx r, x = ⟨.broadcast tx, some (.ok r)⟩ ∧ r.refusal? = some e := by
  obtain ⟨c, reply⟩ := x
  match reply with
  | none => cases h
  | some (.error _) => exact .inl h
  | some (.ok answer) =>
      change c.fault? answer = some e at h
      unfold Call.fault? at h
      split at h
      · next height => exact .inr (.inl ⟨height, rfl, (Option.some.inj h).symm⟩)
      · next denominator =>
          split at h
          · next hzero =>
              rw [hzero]
              exact .inr (.inr (.inl ⟨rfl, (Option.some.inj h).symm⟩))
          · cases h
      · next tx r => exact .inr (.inr (.inr ⟨tx, r, rfl, h⟩))
      · cases h

/-- A request to which no response is a refusal is relayed, unless it was hindered. -/
theorem Ended.ok_or_hindered (h : Ended w known m denom xs result)
    (haccepted : ∀ tx r, (⟨.broadcast tx, some (.ok r)⟩ : Exchange) ∈ xs → r.refusal? = none) :
    result = .ok m.hash ∨ ∃ e, result = .error e ∧ Hindered w known m denom xs e := by
  cases h with
  | admitted _ _ _ => exact .inl rfl
  | refused _ hknown hquote hbuild =>
      exact .inr ⟨_, rfl, .refused rfl hknown hquote hbuild⟩
  | @failed ys x e _ hfault =>
      have hx : x ∈ ys ++ [x] := List.mem_append_right _ (List.mem_singleton_self x)
      refine .inr ⟨e, rfl, ?_⟩
      rcases fault_cases hfault with he | ⟨height, rfl, rfl⟩ | ⟨rfl, rfl⟩ | ⟨tx, r, rfl, hr⟩
      · exact .call hx he
      · exact .noBaseFee hx
      · exact .noDenominator hx
      · rw [haccepted tx r hx] at hr
        cases hr

end

section

variable {σ : Type} {worker : Worker} {w : World σ} {log : List Entry} {front back : List Dealing}
  {d : Dealing}

/-- Whatever becomes of a dealing, its calls are the first of a relayed request. -/
theorem Dealing.Begun.exists_relayed {a : AccountState} (h : d.Begun worker a) :
    ∃ zs b result, Relayed worker a d.request.message d.request.denom zs b result ∧
      d.exchanges.map Exchange.call <+: zs.map Exchange.call := by
  cases h with
  | finished h =>
      obtain ⟨result, _, hcompletes⟩ := h
      exact ⟨_, _, result, Worker.relayed_of_completes hcompletes, List.prefix_rfl⟩
  | @reaches p h =>
      obtain ⟨ys, ⟨b, result⟩, hend⟩ := exists_completes p
      refine ⟨_, b, result, Worker.relayed_of_completes (h.2.trans hend), ?_⟩
      rw [List.map_append]
      exact List.prefix_append _ _
  | left h =>
      obtain ⟨_, xs, c, next, hxs, hfollows⟩ := h
      obtain ⟨ys, ⟨b, result⟩, hend⟩ := hfollows.exists_completes_call (.error .workerUnavailable)
      refine ⟨_, b, result, Worker.relayed_of_completes hend, ?_⟩
      rw [hxs, List.map_append, List.map_append]
      exact (List.prefix_append_right_inj _).2 ⟨ys.map Exchange.call, rfl⟩

theorem Logged.exists_relayed (h : Logged worker w log) (hd : d ∈ dealings log) :
    ∃ a zs b result, Relayed worker a d.request.message d.request.denom zs b result ∧
      d.exchanges.map Exchange.call <+: zs.map Exchange.call := by
  obtain ⟨front, back, hds⟩ := List.append_of_mem hd
  have hrecorded := h.recorded
  rw [hds] at hrecorded
  obtain ⟨a, _, hbegun⟩ := hrecorded.begun
  exact ⟨a, hbegun.exists_relayed⟩

/-- Every broadcast for a request names the hash of its message, whatever the answer. -/
theorem Logged.carriesHash (h : Logged worker w log) (hd : d ∈ dealings log) {tx : Bytes}
    (htx : .broadcast tx ∈ d.exchanges.map Exchange.call) :
    CarriesHash tx d.request.message.hash := by
  obtain ⟨a, zs, b, result, hrelayed, hinitial⟩ := h.exists_relayed hd
  exact hrelayed.carriesHash (hinitial.subset htx)

/-- No request is broadcast twice, answered or not. -/
theorem Logged.countP_isBroadcast_le (h : Logged worker w log) (hd : d ∈ dealings log) :
    (d.exchanges.map Exchange.call).countP Call.isBroadcast ≤ 1 := by
  obtain ⟨a, zs, b, result, hrelayed, hinitial⟩ := h.exists_relayed hd
  exact Nat.le_trans hinitial.sublist.countP_le hrelayed.ended.countP_isBroadcast_le

/-- Every answered dealing came to its end, with the account that the answers before it made known.
-/
theorem Logged.ended (h : Logged worker w log) (hds : dealings log = front ++ d :: back)
    {result : RelayResult} (hresult : d.result = some result) :
    Ended worker (knownAfter none (front.flatMap Dealing.exchanges)) d.request.message
      d.request.denom d.exchanges result := by
  have hrecorded := h.recorded
  rw [hds] at hrecorded
  obtain ⟨a, hfront, hbegun⟩ := hrecorded.begun
  rw [hfront.lawful.2]
  cases hbegun with
  | finished hd =>
      obtain ⟨_, hsome, hcompletes⟩ := hd
      rw [hresult] at hsome
      cases hsome
      exact (Worker.relayed_of_completes hcompletes).ended
  | reaches hd =>
      rw [hd.1] at hresult
      cases hresult
  | left hd =>
      rw [hd.1] at hresult
      cases hresult

end

end Relay

end GasSponsor
