import GasSponsor.Proofs.Relay.Outcome

/-!
# What a request asks of the node

The calls of a request stand in one order: the account if it is stale, the latest block, the base fee
at its height, the fee market if there is a fee to project, and the broadcast. A request comes as far
in it as its answers let it go on, and asks nothing twice. The account that it leaves is the one that
its own query answered, or the one before it, and only the response to its broadcast changes that.
-/

namespace GasSponsor.Relay

open Program

def accountCalls (w : Worker) (a : AccountState) : List Call :=
  if a.stale then [.account w.builder.identity.bech32] else []

def quoteCalls (e : FeeEstimator) (height : UInt64) (base : Nat) : List Call :=
  [.blockResults none, .baseFee height] ++
    if e.policy = .lookahead ∧ base ≠ 0 then [.feeMarketParams] else []

/-- The calls of a request that nothing stops. -/
def agenda (w : Worker) (a : AccountState) (height : UInt64) (base : Nat) (tx : Bytes) : List Call :=
  accountCalls w a ++ quoteCalls w.estimator height base ++ [.broadcast tx]

/-- The height and the base fee are those that were answered, as far as they were. -/
structure Heard (xs : List Exchange) (height : UInt64) (base : Nat) : Prop where
  height : ∀ answer, ⟨.blockResults none, some (.ok answer)⟩ ∈ xs → answer = height
  base : ∀ block answer, ⟨.baseFee block, some (.ok (some answer))⟩ ∈ xs → answer = base

def refreshed (a : AccountState) (xs : List Exchange) : AccountState :=
  match xs.findSome? Exchange.info? with
  | some info => info.fresh
  | none => a

section

variable {w : Worker} {a b : AccountState} {m : Ethereum.Message} {denom : String}
  {xs ys : List Exchange} {height : UInt64} {base : Nat} {tx : Bytes} {result : RelayResult}

theorem Heard.append (hxs : Heard xs height base) (hys : Heard ys height base) :
    Heard (xs ++ ys) height base := by
  refine ⟨fun answer h => ?_, fun block answer h => ?_⟩
  · rcases List.mem_append.1 h with h | h
    · exact hxs.height answer h
    · exact hys.height answer h
  · rcases List.mem_append.1 h with h | h
    · exact hxs.base block answer h
    · exact hys.base block answer h

theorem Heard.left (h : Heard (xs ++ ys) height base) : Heard xs height base :=
  ⟨fun answer hx => h.height answer (List.mem_append_left ys hx),
    fun block answer hx => h.base block answer (List.mem_append_left ys hx)⟩

theorem heard_broadcast (reply : Option (GasSponsor.Reply (.broadcast tx))) (height : UInt64)
    (base : Nat) : Heard [⟨.broadcast tx, reply⟩] height base :=
  ⟨by simp, by simp⟩

theorem heard_unanswered (c : Call) (height : UInt64) (base : Nat) :
    Heard [⟨c, none⟩] height base := by
  refine ⟨fun answer h => ?_, fun block answer h => ?_⟩
  · cases List.mem_singleton.1 h
  · cases List.mem_singleton.1 h

theorem fetched_heard {address : String} {reply : Except RelayError AccountInfo}
    (h : Fetched address a xs b reply) (height : UInt64) (base : Nat) : Heard xs height base := by
  cases h with
  | cached info h => exact ⟨by simp, by simp⟩
  | failed e h => exact ⟨by simp, by simp⟩
  | queried info h => exact ⟨by simp, by simp⟩

theorem stale_of_snapshot (h : a.snapshot = none) : a.stale = true := by
  unfold AccountState.snapshot at h
  split at h
  · assumption
  · cases h

theorem not_stale_of_snapshot {info : AccountInfo} (h : a.snapshot = some info) :
    a.stale = false := by
  unfold AccountState.snapshot at h
  split at h
  · cases h
  · next hstale => exact Bool.eq_false_iff.2 hstale

theorem fetched_calls {reply : Except RelayError AccountInfo}
    (h : Fetched w.builder.identity.bech32 a xs b reply) :
    xs.map Exchange.call = accountCalls w a := by
  cases h with
  | cached info h => rw [accountCalls, not_stale_of_snapshot h]; rfl
  | failed e h => rw [accountCalls, stale_of_snapshot h]; rfl
  | queried info h => rw [accountCalls, stale_of_snapshot h]; rfl

theorem quoteCalls_of_lookahead {e : FeeEstimator} (h : e.policy = .lookahead ∧ base ≠ 0)
    (height : UInt64) :
    quoteCalls e height base = [.blockResults none, .baseFee height, .feeMarketParams] := by
  rw [quoteCalls, if_pos h]
  rfl

theorem quoteCalls_of_not_lookahead {e : FeeEstimator} (h : ¬(e.policy = .lookahead ∧ base ≠ 0))
    (height : UInt64) : quoteCalls e height base = [.blockResults none, .baseFee height] := by
  rw [quoteCalls, if_neg h]
  rfl

/-- An estimate asks for what its policy needs, and for all of it if it comes to a quote. -/
theorem quoted_calls {e : FeeEstimator} {gas : UInt64} {out : Except RelayError FeeQuote}
    (h : Quoted e gas denom xs out) : ∃ height base, Heard xs height base ∧
      xs.map Exchange.call <+: quoteCalls e height base ∧
      ∀ quote, out = .ok quote → xs.map Exchange.call = quoteCalls e height base := by
  cases h with
  | noBlock err => exact ⟨0, 0, ⟨by simp, by simp⟩, ⟨_, rfl⟩, by simp⟩
  | noBaseFee height err => exact ⟨height, 0, ⟨by simp, by simp⟩, ⟨_, rfl⟩, by simp⟩
  | absent height => exact ⟨height, 0, ⟨by simp, by simp⟩, ⟨_, rfl⟩, by simp⟩
  | free height =>
      refine ⟨height, 0, ⟨by simp, by simp⟩, ?_⟩
      rw [quoteCalls_of_not_lookahead (fun h => h.2 rfl)]
      exact ⟨List.prefix_refl _, fun _ _ => rfl⟩
  | current height fee hfee hpolicy =>
      refine ⟨height, fee, ⟨by simp, by simp⟩, ?_⟩
      rw [quoteCalls_of_not_lookahead (fun h => nomatch hpolicy.symm.trans h.1)]
      exact ⟨List.prefix_refl _, fun _ _ => rfl⟩
  | noParams height fee err hfee hpolicy | unprojected height fee _ err hfee hpolicy =>
      refine ⟨height, fee, ⟨by simp, by simp⟩, ?_⟩
      rw [quoteCalls_of_lookahead ⟨hpolicy, hfee⟩]
      exact ⟨List.prefix_refl _, fun _ _ => rfl⟩
  | projected height fee denominator price hfee hpolicy h =>
      refine ⟨height, fee, ⟨by simp, by simp⟩, ?_⟩
      rw [quoteCalls_of_lookahead ⟨hpolicy, hfee⟩]
      exact ⟨List.prefix_refl _, fun _ _ => rfl⟩

/-- A request that has a quote has made all calls before the broadcast. -/
theorem quote_calls {info : AccountInfo} {gas : UInt64} {quote : FeeQuote}
    (hfetch : Fetched w.builder.identity.bech32 a xs b (.ok info))
    (hquote : Quoted w.estimator gas denom ys (.ok quote)) : ∃ height base,
      Heard (xs ++ ys) height base ∧ (xs ++ ys).map Exchange.call =
        accountCalls w a ++ quoteCalls w.estimator height base := by
  obtain ⟨height, base, hheard, _, hall⟩ := quoted_calls hquote
  refine ⟨height, base, (fetched_heard hfetch height base).append hheard, ?_⟩
  rw [List.map_append, fetched_calls hfetch, hall quote rfl]

theorem Relayed.calls_prefix (h : Relayed w a m denom xs b result) : ∃ height base tx,
    Heard xs height base ∧ xs.map Exchange.call <+: agenda w a height base tx := by
  cases h with
  | unfetched hfetch =>
      refine ⟨0, 0, [], fetched_heard hfetch 0 0, ?_⟩
      rw [fetched_calls hfetch, agenda, List.append_assoc]
      exact List.prefix_append _ _
  | unquoted hfetch hquote =>
      obtain ⟨height, base, hheard, hprefix, _⟩ := quoted_calls hquote
      refine ⟨height, base, [], (fetched_heard hfetch height base).append hheard, ?_⟩
      rw [List.map_append, fetched_calls hfetch, agenda, List.append_assoc,
        List.prefix_append_right_inj]
      exact hprefix.trans (List.prefix_append _ _)
  | unbuilt hfetch hquote hbuild =>
      obtain ⟨height, base, hheard, hcalls⟩ := quote_calls hfetch hquote
      refine ⟨height, base, [], hheard, ?_⟩
      rw [hcalls, agenda]
      exact List.prefix_append _ _
  | @unsent _ _ _ _ _ envelope e hfetch hquote hbuild =>
      obtain ⟨height, base, hheard, hcalls⟩ := quote_calls hfetch hquote
      refine ⟨height, base, envelope.tx, hheard.append (heard_broadcast _ height base), ?_⟩
      rw [List.map_append, hcalls]
      exact List.prefix_refl _
  | @answered _ _ _ _ _ envelope r hfetch hquote hbuild =>
      obtain ⟨height, base, hheard, hcalls⟩ := quote_calls hfetch hquote
      refine ⟨height, base, envelope.tx, hheard.append (heard_broadcast _ height base), ?_⟩
      rw [List.map_append, hcalls]
      exact List.prefix_refl _

theorem nodup_agenda (w : Worker) (a : AccountState) (height : UInt64) (base : Nat) (tx : Bytes) :
    (agenda w a height base tx).Nodup := by
  unfold agenda accountCalls quoteCalls
  split_ifs <;> simp

/-- Every answer but the last one lets the request go on. -/
theorem Ended.passes {known : Option AccountInfo} (h : Ended w known m denom xs result) :
    ∀ x ∈ xs.dropLast, x.Passes := by
  cases h with
  | admitted hpass hhash hadmits =>
      rw [List.dropLast_concat]
      exact hpass
  | refused hpass hknown hquote hbuild =>
      exact fun x hx => hpass x ((List.dropLast_sublist _).subset hx)
  | failed hpass hfault =>
      rw [List.dropLast_concat]
      exact hpass

/-- A call that the request has come to would be its last one if it failed. -/
theorem passes_of_follows {c : Call}
    {next : GasSponsor.Reply c → Program (AccountState × RelayResult)}
    (h : Follows (w.relay a m denom) xs (.call c next)) :
    (∀ x ∈ xs, x.Passes) ∧ ∃ height base tx, Heard (xs ++ [⟨c, none⟩]) height base ∧
      xs.map Exchange.call ++ [c] <+: agenda w a height base tx := by
  obtain ⟨ys, ⟨b, result⟩, hend⟩ := h.exists_completes_call (.error .workerUnavailable)
  have hrelayed := Worker.relayed_of_completes hend
  have hpass := hrelayed.ended.passes
  have hlast : ys = [] := by
    by_contra hne
    have hmem : (⟨c, some (.error .workerUnavailable)⟩ : Exchange) ∈
        (xs ++ ⟨c, some (.error .workerUnavailable)⟩ :: ys).dropLast := by
      rw [List.dropLast_append_of_ne_nil (List.cons_ne_nil _ _), List.dropLast_cons_of_ne_nil hne]
      exact List.mem_append_right xs List.mem_cons_self
    cases (hpass _ hmem).1
  rw [hlast] at hrelayed hpass
  rw [List.dropLast_concat] at hpass
  obtain ⟨height, base, tx, hheard, hprefix⟩ := hrelayed.calls_prefix
  refine ⟨hpass, height, base, tx, hheard.left.append (heard_unanswered c height base), ?_⟩
  rwa [List.map_append] at hprefix

/-- The account query is the only call that answers with an account. -/
theorem quoted_info {e : FeeEstimator} {gas : UInt64} {out : Except RelayError FeeQuote}
    (h : Quoted e gas denom xs out) : ∀ x ∈ xs, x.info? = none := by
  cases h <;> simp [Exchange.info?]

theorem refreshed_append (h : ∀ y ∈ ys, y.info? = none) :
    refreshed a (xs ++ ys) = refreshed a xs := by
  have hnone : ys.findSome? Exchange.info? = none := List.findSome?_eq_none_iff.2 h
  rw [refreshed, List.findSome?_append, hnone, Option.or_none, refreshed]

theorem fetched_refreshed {address : String} {reply : Except RelayError AccountInfo}
    (h : Fetched address a xs b reply) : b = refreshed a xs := by
  cases h <;> rfl

theorem fetched_outcome {address : String} {reply : Except RelayError AccountInfo}
    (h : Fetched address a xs b reply) : ∀ x ∈ xs, x.outcome? = none := by
  cases h <;> simp [Exchange.outcome?]

theorem quoted_outcome {e : FeeEstimator} {gas : UInt64} {out : Except RelayError FeeQuote}
    (h : Quoted e gas denom xs out) : ∀ x ∈ xs, x.outcome? = none := by
  cases h <;> simp [Exchange.outcome?]

/-- A request that was not answered a broadcast leaves the account as its query left it. -/
theorem unsettled {out : Except RelayError FeeQuote} {info : AccountInfo}
    (hfetch : Fetched w.builder.identity.bech32 a xs b (.ok info))
    (hquote : Quoted w.estimator m.gasLimit denom ys out) :
    (∀ x ∈ xs ++ ys, x.outcome? = none) ∧ b = refreshed a (xs ++ ys) := by
  constructor
  · intro x hx
    rcases List.mem_append.1 hx with hx | hx
    · exact fetched_outcome hfetch x hx
    · exact quoted_outcome hquote x hx
  · rw [refreshed_append (quoted_info hquote)]
    exact fetched_refreshed hfetch

/-- Only the response to the broadcast changes the account after its query. -/
theorem Relayed.account (h : Relayed w a m denom xs b result) :
    (∃ ys tx r, xs = ys ++ [⟨.broadcast tx, some (.ok r)⟩] ∧ (∀ y ∈ ys, y.outcome? = none) ∧
      b = settledAccount (refreshed a xs) r ∧ result = verdict m.hash r) ∨
    ((∀ x ∈ xs, x.outcome? = none) ∧ b = refreshed a xs ∧ ∃ e, result = .error e) := by
  cases h with
  | unfetched hfetch => exact .inr ⟨fetched_outcome hfetch, fetched_refreshed hfetch, _, rfl⟩
  | unquoted hfetch hquote =>
      obtain ⟨houtcome, haccount⟩ := unsettled hfetch hquote
      exact .inr ⟨houtcome, haccount, _, rfl⟩
  | unbuilt hfetch hquote hbuild =>
      obtain ⟨houtcome, haccount⟩ := unsettled hfetch hquote
      exact .inr ⟨houtcome, haccount, _, rfl⟩
  | unsent e hfetch hquote hbuild =>
      obtain ⟨houtcome, haccount⟩ := unsettled hfetch hquote
      refine .inr ⟨fun x hx => ?_, ?_, e, rfl⟩
      · rcases List.mem_append.1 hx with hx | hx
        · exact houtcome x hx
        · rw [List.mem_singleton.1 hx]
          rfl
      · rw [refreshed_append (List.forall_mem_singleton.2 rfl)]
        exact haccount
  | answered r hfetch hquote hbuild =>
      obtain ⟨houtcome, haccount⟩ := unsettled hfetch hquote
      refine .inl ⟨_, _, r, rfl, houtcome, ?_, rfl⟩
      rw [refreshed_append (List.forall_mem_singleton.2 rfl), ← haccount]

/-- What a request leaves of the account: what its query left, with the next sequence if the envelope
was admitted, and stale if the response did not agree with the sequence. -/
theorem Relayed.leaves (h : Relayed w a m denom xs b result) :
    (∀ hash, result = .ok hash →
      b = { refreshed a xs with sequence := (refreshed a xs).sequence + 1 }) ∧
    (∀ e, result = .error e → (∀ x ∈ xs, x.mismatches = false) → b = refreshed a xs) ∧
    (∀ x ∈ xs, x.mismatches = true → b = { refreshed a xs with stale := true }) := by
  rcases h.account with ⟨ys, tx, r, rfl, houtcome, rfl, rfl⟩ | ⟨houtcome, rfl, e, rfl⟩
  · have hmismatch : ∀ x ∈ ys ++ [⟨.broadcast tx, some (.ok r)⟩], x.mismatches = true →
        r.outcome = .sequenceMismatch := by
      intro x hx hx'
      rcases List.mem_append.1 hx with hx | hx
      · simp [Exchange.mismatches, houtcome x hx] at hx'
      · rw [List.mem_singleton.1 hx] at hx'
        simpa [Exchange.mismatches, Exchange.outcome?] using hx'
    have hlast : r.outcome = .sequenceMismatch →
        (⟨.broadcast tx, some (.ok r)⟩ : Exchange).mismatches = true := by
      intro hr
      simp [Exchange.mismatches, Exchange.outcome?, hr]
    unfold settledAccount verdict
    cases hr : r.outcome with
    | accepted | duplicatePending =>
        refine ⟨fun _ _ => rfl, fun e he => ?_, fun x hx hx' => ?_⟩
        · cases he
        · rw [hmismatch x hx hx'] at hr
          cases hr
    | sequenceMismatch =>
        refine ⟨fun hash hresult => ?_, fun e _ hnone => ?_, fun _ _ _ => rfl⟩
        · cases hresult
        · rw [hnone _ (List.mem_append_right ys List.mem_cons_self)] at hlast
          cases hlast hr
    | rejected =>
        refine ⟨fun hash hresult => ?_, fun _ _ _ => rfl, fun x hx hx' => ?_⟩
        · cases hresult
        · rw [hmismatch x hx hx'] at hr
          cases hr
  · refine ⟨fun hash hresult => ?_, fun _ _ _ => rfl, fun x hx hmismatch => ?_⟩
    · cases hresult
    · simp [Exchange.mismatches, houtcome x hx] at hmismatch

end

/-- Whatever the node does: the calls of a request are the beginning of its agenda, none made twice,
and every answer but the last lets it go on. It ends when it is broadcast, at the first answer with
which it cannot go on, at a refused build, or waits for an answer for ever. Of the account it leaves
what its query left, unless its envelope was admitted, or refused for its sequence. -/
theorem request_disciplined {σ : Type} (w : Worker) (a : AccountState) (m : Ethereum.Message)
    (denom : String) (node : Node σ) (s : σ) (metrics : Metrics) :
    let run := (w.relay a m denom).run node s metrics
    ∃ xs, run.calls = xs.map Exchange.call ∧ Conversed node s xs run.node ∧
      run.calls.Nodup ∧
      (∃ height base tx, Heard xs height base ∧ run.calls <+: agenda w a height base tx) ∧
      (∀ x ∈ xs.dropLast, x.Passes) ∧
      ((∃ ys c next, xs = ys ++ [⟨c, none⟩] ∧ run.rest = .call c next) ∨
        ∃ b result, run.rest = .done (b, result) ∧ Ended w a.snapshot m denom xs result ∧
          (∀ hash, result = .ok hash →
            b = { refreshed a xs with sequence := (refreshed a xs).sequence + 1 }) ∧
          (∀ e, result = .error e → (∀ x ∈ xs, x.mismatches = false) → b = refreshed a xs) ∧
          ∀ x ∈ xs, x.mismatches = true → b = { refreshed a xs with stale := true }) := by
  intro run
  obtain ⟨xs, hcalls, hconversed, hend⟩ := run_conversed node (w.relay a m denom) s metrics
  refine ⟨xs, hcalls, hconversed, ?_⟩
  rcases hend with ⟨⟨b, result⟩, hdone, hcompletes⟩ | ⟨ys, c, next, rfl, hleft, hfollows⟩
  · have hrelayed := Worker.relayed_of_completes hcompletes
    obtain ⟨height, base, tx, hheard, hprefix⟩ := hrelayed.calls_prefix
    have hended := hrelayed.ended
    rw [hcalls]
    refine ⟨(nodup_agenda w a height base tx).sublist hprefix.sublist, ⟨_, _, _, hheard, hprefix⟩,
      hended.passes, .inr ⟨b, result, hdone, hended, hrelayed.leaves⟩⟩
  · obtain ⟨hpass, height, base, tx, hheard, hprefix⟩ := passes_of_follows hfollows
    rw [hcalls, List.map_append, List.dropLast_concat]
    exact ⟨(nodup_agenda w a height base tx).sublist hprefix.sublist, ⟨_, _, _, hheard, hprefix⟩,
      hpass, .inl ⟨ys, c, next, rfl, hleft⟩⟩

end GasSponsor.Relay
