import Mathlib.Data.List.Forall2
import GasSponsor.Proofs.Ensures
import GasSponsor.Proofs.Metrics
import GasSponsor.Proofs.Relay.History

/-!
# What the metrics tell of a run

Each request is counted once, under a label that follows from its result and the response to its
broadcast, and each account query that returns is counted once. The gauge of the sequence moves with
the account. A request in hand keeps the books so, whatever is still answered: when it ends they
stand for one request more.
-/

namespace GasSponsor

open Metrics
open Program

namespace Exchange

def refresh? : Exchange → Option Bool
  | ⟨.account _, some (.ok _)⟩ => some true
  | ⟨.account _, some (.error _)⟩ => some false
  | _ => none

def isRefresh (success : Bool) (x : Exchange) : Bool := decide (x.refresh? = some success)

end Exchange

def refreshLabels (xs : List Exchange) : List String :=
  (xs.filterMap Exchange.refresh?).map refreshLabel

def responses (xs : List Exchange) : List BroadcastOutcome := xs.filterMap Exchange.outcome?

def Quiet (xs : List Exchange) : Prop := refreshLabels xs = [] ∧ responses xs = []

theorem refreshLabels_append (xs ys : List Exchange) :
    refreshLabels (xs ++ ys) = refreshLabels xs ++ refreshLabels ys := by
  rw [refreshLabels, List.filterMap_append, List.map_append]
  rfl

theorem responses_append (xs ys : List Exchange) :
    responses (xs ++ ys) = responses xs ++ responses ys :=
  List.filterMap_append

theorem refreshLabel_inj {b c : Bool} : refreshLabel b = refreshLabel c ↔ b = c := by
  cases b <;> cases c <;> simp [refreshLabel]

theorem count_refreshLabels (xs : List Exchange) (success : Bool) :
    (refreshLabels xs).count (refreshLabel success) = xs.countP (Exchange.isRefresh success) := by
  induction xs with
  | nil => rfl
  | cons x xs ih =>
      rw [refreshLabels] at ih ⊢
      rw [List.filterMap_cons, List.countP_cons, ← ih]
      cases hx : x.refresh? with
      | none => simp [Exchange.isRefresh, hx]
      | some b => simp [Exchange.isRefresh, hx, List.count_cons, refreshLabel_inj]

/-- The metrics count these outcomes and refreshes and show the sequence of the account. -/
structure Booked (m : Metrics) (a : AccountState) (outcomes refreshes : List String) : Prop where
  outcomes : m.outcomes = tally outcomes
  refreshes : m.refreshes = tally refreshes
  sequence : a.phase = .ready → m.sequence = Binary64.ofNat a.sequence.toNat

section

variable {m : Metrics} {a : AccountState} {outcomes refreshes : List String}

theorem booked_empty : Booked .empty .initial [] [] := by
  refine ⟨rfl, rfl, fun hready => ?_⟩
  cases hready

theorem Booked.outcome (h : Booked m a outcomes refreshes) (label : String) :
    Booked (m.record (.outcome label)) a (outcomes ++ [label]) refreshes := by
  refine ⟨?_, h.refreshes, h.sequence⟩
  rw [tally_snoc, ← h.outcomes]
  rfl

theorem Booked.refresh (h : Booked m a outcomes refreshes) (success : Bool) :
    Booked (m.record (.refresh success)) a outcomes (refreshes ++ [refreshLabel success]) := by
  refine ⟨h.outcomes, ?_, h.sequence⟩
  rw [tally_snoc, ← h.refreshes]
  rfl

/-- The gauge shows the sequence that was recorded last. -/
theorem Booked.showing (h : Booked m a outcomes refreshes) (b : AccountState) :
    Booked (m.record (.sequence b.sequence.toNat)) b outcomes refreshes :=
  ⟨h.outcomes, h.refreshes, fun _ => rfl⟩

theorem Booked.feePerGas (h : Booked m a outcomes refreshes) (price : Nat) :
    Booked (m.record (.feePerGas price)) a outcomes refreshes :=
  ⟨h.outcomes, h.refreshes, h.sequence⟩

theorem Booked.invalidate (h : Booked m a outcomes refreshes) :
    Booked m a.invalidate outcomes refreshes := by
  refine ⟨h.outcomes, h.refreshes, fun hready => ?_⟩
  cases hready

theorem Booked.ensureFresh (h : Booked m a outcomes refreshes) (address : String) :
    (a.ensureFresh address).Ensures m fun xs m' out =>
      responses xs = [] ∧ Booked m' out.1 outcomes (refreshes ++ refreshLabels xs) := by
  unfold AccountState.ensureFresh
  cases hsnapshot : a.snapshot with
  | some info =>
      refine ensures_pure.2 ⟨rfl, ?_⟩
      rw [refreshLabels, List.filterMap_nil, List.map_nil, List.append_nil]
      exact h
  | none =>
      refine ensures_ask_bind.2 fun reply => ?_
      cases reply with
      | error e => exact ⟨rfl, h.refresh false⟩
      | ok info =>
          have hshown := (h.refresh true).showing ⟨info.accountNumber, info.sequence, false⟩
          exact ⟨rfl, hshown⟩

theorem Booked.price (h : Booked m a outcomes refreshes) (e : FeeEstimator) (fee : Nat) :
    (e.price fee).Ensures m fun xs m' _ => Quiet xs ∧ Booked m' a outcomes refreshes := by
  unfold FeeEstimator.price
  cases hpolicy : e.policy with
  | currentBaseFee => exact ⟨⟨rfl, rfl⟩, h⟩
  | lookahead =>
      refine ensures_ask_bind.2 fun reply => ?_
      cases reply with
      | error err => exact ⟨⟨rfl, rfl⟩, h⟩
      | ok denominator => exact ⟨⟨rfl, rfl⟩, h⟩

theorem Booked.estimate (h : Booked m a outcomes refreshes) (e : FeeEstimator) (gas : UInt64)
    (denom : String) : (e.estimate gas denom).Ensures m fun xs m' _ =>
      Quiet xs ∧ Booked m' a outcomes refreshes := by
  refine ensures_ask_bind.2 fun block => ?_
  cases block with
  | error err => exact ⟨⟨rfl, rfl⟩, h⟩
  | ok height =>
      refine ensures_ask_bind.2 fun baseFee => ?_
      match baseFee with
      | .error err => exact ⟨⟨rfl, rfl⟩, h⟩
      | .ok none => exact ⟨⟨rfl, rfl⟩, h⟩
      | .ok (some 0) => exact ⟨⟨rfl, rfl⟩, h⟩
      | .ok (some (fee + 1)) =>
          refine ensures_bind.2 ((h.price e (fee + 1)).mono ?_)
          rintro xs m' price ⟨hquiet, hbooked⟩
          rw [← List.append_nil xs] at hquiet
          cases price with
          | error err => exact ⟨hquiet, hbooked⟩
          | ok price => exact ⟨hquiet, hbooked.feePerGas price⟩

namespace Relay

/-- An end that is counted as a success comes from one response, which admitted the envelope. -/
def Admitted (xs : List Exchange) (outcome : Except RelayError BroadcastOutcome) : Prop :=
  ∀ o, outcome = .ok o → responses xs = [o] ∧ (o = .accepted ∨ o = .duplicatePending)

theorem admitted_error (xs : List Exchange) (e : RelayError) : Admitted xs (.error e) := by
  intro o ho
  cases ho

theorem Booked.settle (h : Booked m a outcomes refreshes) (tx : Bytes) (r : BroadcastResponse) :
    (Worker.settle a r).Ensures m fun xs m' out =>
      xs = [] ∧ Admitted [⟨.broadcast tx, some (.ok r)⟩] out.2 ∧
        Booked m' out.1 outcomes refreshes := by
  unfold Worker.settle
  cases hr : r.outcome with
  | accepted =>
      refine ⟨rfl, fun o ho => ?_, h.showing { a with sequence := a.sequence + 1 }⟩
      cases ho
      exact ⟨congrArg (fun o => [o]) hr, .inl rfl⟩
  | duplicatePending =>
      refine ⟨rfl, fun o ho => ?_, h.showing { a with sequence := a.sequence + 1 }⟩
      cases ho
      exact ⟨congrArg (fun o => [o]) hr, .inr rfl⟩
  | sequenceMismatch => exact ⟨rfl, admitted_error _ _, h.invalidate⟩
  | rejected => exact ⟨rfl, admitted_error _ _, h⟩

theorem Booked.submit (h : Booked m a outcomes refreshes) (w : Worker) (info : AccountInfo)
    (message : Ethereum.Message) (denom : String) :
    (w.submit a info message denom).Ensures m fun xs m' out =>
      refreshLabels xs = [] ∧ Admitted xs out.2 ∧ Booked m' out.1 outcomes refreshes := by
  refine ensures_bind.2 ((h.estimate w.estimator message.gasLimit denom).mono ?_)
  rintro xs m' quote ⟨⟨hrefreshes, hresponses⟩, hbooked⟩
  cases quote with
  | error e =>
      rw [← List.append_nil xs] at hrefreshes
      exact ⟨hrefreshes, admitted_error _ e, hbooked⟩
  | ok fee =>
      dsimp only
      cases hbuild : w.builder.build message fee info with
      | error e =>
          rw [← List.append_nil xs] at hrefreshes
          exact ⟨hrefreshes, admitted_error _ _, hbooked⟩
      | ok envelope =>
          have hbroadcast (response : GasSponsor.Reply (.broadcast envelope.tx)) :
              refreshLabels (xs ++ [⟨.broadcast envelope.tx, some response⟩]) = [] := by
            rw [refreshLabels_append, hrefreshes]
            rfl
          refine ensures_ask_bind.2 fun response => ?_
          cases response with
          | error e => exact ⟨hbroadcast _, admitted_error _ e, hbooked⟩
          | ok r =>
              refine (Booked.settle hbooked envelope.tx r).mono ?_
              rintro ys m'' out ⟨rfl, hadmitted, hsettled⟩
              refine ⟨hbroadcast _, fun o ho => ?_, hsettled⟩
              rw [responses_append, hresponses]
              exact hadmitted o ho

inductive Told (xs : List Exchange) : RelayResult → String → Prop
  | accepted (hash : Digest) (h : responses xs = [.accepted]) : Told xs (.ok hash) "success"
  | duplicate (hash : Digest) (h : responses xs = [.duplicatePending]) :
      Told xs (.ok hash) "duplicate"
  | failed (e : RelayError) : Told xs (.error e) e.kind

theorem told_of_admitted {xs : List Exchange} {outcome : Except RelayError BroadcastOutcome}
    (h : Admitted xs outcome) (hash : Digest) :
    Told xs (outcome.map fun _ => hash) (Worker.outcomeLabel outcome) := by
  cases outcome with
  | error e => exact .failed e
  | ok o =>
      obtain ⟨hresponses, rfl | rfl⟩ := h o rfl
      · exact .accepted hash hresponses
      · exact .duplicate hash hresponses

/-- A request is counted once, whatever is answered. -/
theorem Booked.relay (h : Booked m a outcomes refreshes) (w : Worker) (message : Ethereum.Message)
    (denom : String) : (w.relay a message denom).Ensures m fun xs m' out =>
      ∃ label, Told xs out.2 label ∧
        Booked m' out.1 (outcomes ++ [label]) (refreshes ++ refreshLabels xs) := by
  refine ensures_bind.2 ((h.ensureFresh w.builder.identity.bech32).mono ?_)
  rintro xs m' ⟨b, fetched⟩ ⟨hresponses, hbooked⟩
  cases fetched with
  | error e =>
      refine ensures_note_bind.2 (ensures_pure.2 ⟨e.kind, .failed e, ?_⟩)
      rw [List.append_nil]
      exact hbooked.outcome e.kind
  | ok info =>
      refine ensures_bind.2 ((Booked.submit hbooked w info message denom).mono ?_)
      rintro ys m'' ⟨c, outcome⟩ ⟨hrefreshes, hadmitted, hsubmitted⟩
      refine ensures_note_bind.2 (ensures_pure.2 ⟨Worker.outcomeLabel outcome, ?_, ?_⟩)
      · refine told_of_admitted (fun o ho => ?_) message.hash
        rw [List.append_nil, responses_append, hresponses]
        exact hadmitted o ho
      · rw [List.append_nil, refreshLabels_append, hrefreshes, List.append_nil]
        exact hsubmitted.outcome (Worker.outcomeLabel outcome)

def Dealing.Told (d : Dealing) (label : String) : Prop :=
  ∃ result, d.result = some result ∧ Relay.Told d.exchanges result label

def Counted (m : Metrics) (a : AccountState) (ds : List Dealing) : Prop :=
  ∃ labels, List.Forall₂ Dealing.Told ds labels ∧
    Booked m a labels (refreshLabels (ds.flatMap Dealing.exchanges))

theorem Counted.relay {ds : List Dealing} (h : Counted m a ds) (w : Worker) (r : Request) :
    (w.relay a r.message r.denom).Ensures m fun xs m' out =>
      Counted m' out.1 (ds ++ [⟨r, xs, some out.2⟩]) := by
  obtain ⟨labels, htold, hbooked⟩ := h
  refine (Booked.relay hbooked w r.message r.denom).mono ?_
  rintro xs m' out ⟨label, hlabel, hrelayed⟩
  have hlast : Dealing.Told ⟨r, xs, some out.2⟩ label := ⟨out.2, rfl, hlabel⟩
  refine ⟨labels ++ [label], List.rel_append htold (.cons hlast .nil), ?_⟩
  rw [List.flatMap_append, refreshLabels_append, List.flatMap_singleton]
  exact hrelayed

/-- The books are kept: they stand for the dealings so far, or will when the request in hand ends. -/
def Kept {σ : Type} (w : World σ) (ds : List Dealing) : Prop :=
  match w.stage with
  | .idle | .ended => Counted w.metrics w.account ds
  | .busy p => ∃ front d, ds = front ++ [d] ∧ d.result = none ∧
      p.Ensures w.metrics fun xs m out => Counted m out.1
        (front ++ [{ d with exchanges := d.exchanges ++ xs, result := some out.2 }])
  | .stuck => ∃ d ∈ ds, d.result = none
  | .aborted => (∃ d ∈ ds, d.result = none) ∨ Counted w.metrics w.account ds

section

variable {σ : Type} {worker : Worker} {node : Node σ} {w v : World σ} {log entries : List Entry}
  {ds : List Dealing}

theorem Kept.abort (h : Kept w ds) : Kept (w.act .abort) ds := by
  unfold Kept at h
  unfold World.act World.isRunning
  cases hstage : w.stage with
  | ended =>
      rw [hstage] at h
      simp only [Bool.false_eq_true, if_false, Kept, hstage]
      exact h
  | aborted =>
      rw [hstage] at h
      simp only [Bool.false_eq_true, if_false, Kept, hstage]
      exact h
  | idle =>
      rw [hstage] at h
      exact .inr h
  | busy p =>
      rw [hstage] at h
      obtain ⟨front, d, rfl, hresult, _⟩ := h
      exact .inl ⟨d, List.mem_append_right _ (List.mem_singleton_self d), hresult⟩
  | stuck =>
      rw [hstage] at h
      exact .inl h

theorem Kept.act (h : Kept w ds) (a : World.Action) : Kept (w.act a) ds := by
  cases a with
  | submit message denom => exact h
  | dropReceipt number => exact h
  | shutDown => exact h
  | abort => exact h.abort

theorem Kept.works (h : Kept w (dealings log)) (hrecorded : Recorded worker w (dealings log))
    (hw : World.Works worker node w entries v) : Kept v (dealings (log ++ entries)) := by
  unfold Kept at h
  cases hw with
  | rest _ =>
      rw [List.append_nil]
      exact h
  | close hstage _ =>
      rw [hstage] at h
      rw [List.append_nil]
      exact h
  | take hstage _ _ =>
      rw [hstage] at h
      rw [dealings_snoc]
      exact ⟨dealings log, _, rfl, rfl, Counted.relay h worker _⟩
  | record hstage =>
      rw [hstage] at h
      obtain ⟨front, d, hds, hresult, hensures⟩ := h
      rw [List.append_nil]
      exact ⟨front, d, hds, hresult, hensures⟩
  | leave hstage _ =>
      rw [hstage] at h
      obtain ⟨front, d, hds, hresult, _⟩ := h
      rw [dealings_snoc, hds, Dealing.next, List.modifyLast_concat]
      exact ⟨_, List.mem_append_right _ (List.mem_singleton_self _), hresult⟩
  | ask r hstage _ =>
      rw [hstage] at h
      obtain ⟨front, d, hds, hresult, hensures⟩ := h
      rw [dealings_snoc, hds, Dealing.next, List.modifyLast_concat]
      refine ⟨front, _, rfl, hresult, (hensures r).mono fun xs m out hcounted => ?_⟩
      rw [List.append_assoc]
      exact hcounted
  | answer hstage _ =>
      rw [hstage] at h
      obtain ⟨front, d, hds, hresult, hcounted⟩ := h
      rw [dealings_snoc, hds, Dealing.next, List.modifyLast_concat]
      change Counted _ _ (front ++ [{ d with exchanges := d.exchanges ++ [], result := _ }])
        at hcounted
      rw [List.append_nil] at hcounted
      exact hcounted
  | drop hstage hheld =>
      -- a request in hand is always held
      obtain ⟨_, _, _, _, hsome⟩ := hrecorded.exists_hand hstage
      rw [hsome] at hheld
      cases hheld

theorem kept (worker : Worker) (node : Node σ) (s : σ) (capacity : Nat)
    (events : List World.Event) :
    Kept ((World.start s capacity).run worker node events)
      (dealings ((World.start s capacity).log worker node events)) := by
  have hstart : Kept (World.start s capacity) (dealings []) := ⟨[], .nil, booked_empty⟩
  refine (World.run_induction (P := fun w log => Logged worker w log ∧ Kept w (dealings log))
    ⟨logged_start worker s capacity, hstart⟩ ?_ events).2
  rintro w log e ⟨hlogged, h⟩
  refine ⟨hlogged.step e, ?_⟩
  cases e with
  | action a =>
      rw [dealings_enqueued]
      exact h.act a
  | work => exact h.works hlogged.recorded (World.works worker node w)

/-- Between two requests the books stand for all dealings. -/
theorem Kept.counted (h : Kept w ds) (hall : ∀ d ∈ ds, d.result ≠ none) :
    Counted w.metrics w.account ds := by
  unfold Kept at h
  split at h
  · exact h
  · exact h
  · obtain ⟨front, d, rfl, hresult, _⟩ := h
    exact absurd hresult (hall d (List.mem_append_right _ (List.mem_singleton_self d)))
  · obtain ⟨d, hd, hresult⟩ := h
    exact absurd hresult (hall d hd)
  · rcases h with ⟨d, hd, hresult⟩ | hcounted
    · exact absurd hresult (hall d hd)
    · exact hcounted

def Dealing.relayedAs (o : BroadcastOutcome) (d : Dealing) : Bool :=
  match d.result with
  | some (.ok _) => decide (responses d.exchanges = [o])
  | _ => false

def Dealing.failedAs (kind : String) (d : Dealing) : Bool :=
  match d.result with
  | some (.error e) => decide (e.kind = kind)
  | _ => false

theorem kind_ne_success (e : RelayError) : e.kind ≠ "success" := by
  cases e <;> simp [RelayError.kind]

theorem kind_ne_duplicate (e : RelayError) : e.kind ≠ "duplicate" := by
  cases e <;> simp [RelayError.kind]

theorem Dealing.Told.relayedAs_accepted {d : Dealing} {label : String} (h : d.Told label) :
    d.relayedAs .accepted = true ↔ label = "success" := by
  obtain ⟨result, hresult, htold⟩ := h
  unfold Dealing.relayedAs
  rw [hresult]
  cases htold with
  | accepted hash h => simp [h]
  | duplicate hash h => simp [h]
  | failed e => simp [kind_ne_success]

theorem Dealing.Told.relayedAs_duplicate {d : Dealing} {label : String} (h : d.Told label) :
    d.relayedAs .duplicatePending = true ↔ label = "duplicate" := by
  obtain ⟨result, hresult, htold⟩ := h
  unfold Dealing.relayedAs
  rw [hresult]
  cases htold with
  | accepted hash h => simp [h]
  | duplicate hash h => simp [h]
  | failed e => simp [kind_ne_duplicate]

theorem Dealing.Told.failedAs_iff {d : Dealing} {label kind : String} (h : d.Told label)
    (hsuccess : kind ≠ "success") (hduplicate : kind ≠ "duplicate") :
    d.failedAs kind = true ↔ label = kind := by
  obtain ⟨result, hresult, htold⟩ := h
  unfold Dealing.failedAs
  rw [hresult]
  cases htold with
  | accepted hash h => simp [Ne.symm hsuccess]
  | duplicate hash h => simp [Ne.symm hduplicate]
  | failed e => simp

theorem count_eq_countP {labels : List String} (h : List.Forall₂ Dealing.Told ds labels)
    {p : Dealing → Bool} {label : String}
    (hp : ∀ d l, d.Told l → (p d = true ↔ l = label)) : labels.count label = ds.countP p := by
  induction h with
  | nil => rfl
  | cons hd _ ih =>
      rw [List.count_cons, List.countP_cons, ih]
      simp only [hp _ _ hd, beq_iff_eq]

/-- The outcome counters stand for the dealings, each under one label. -/
theorem Counted.counters {m : Metrics} {a : AccountState} (h : Counted m a ds) :
    counter "success" m.outcomes = ds.countP (Dealing.relayedAs .accepted) ∧
    counter "duplicate" m.outcomes = ds.countP (Dealing.relayedAs .duplicatePending) ∧
    (∀ kind, kind ≠ "success" → kind ≠ "duplicate" →
      counter kind m.outcomes = ds.countP (Dealing.failedAs kind)) ∧
    (m.outcomes.map Prod.snd).sum = ds.length := by
  obtain ⟨labels, htold, hbooked⟩ := h
  rw [hbooked.outcomes]
  refine ⟨?_, ?_, fun kind hsuccess hduplicate => ?_, ?_⟩
  · rw [counter_tally]
    exact count_eq_countP htold fun d l hd => hd.relayedAs_accepted
  · rw [counter_tally]
    exact count_eq_countP htold fun d l hd => hd.relayedAs_duplicate
  · rw [counter_tally]
    exact count_eq_countP htold fun d l hd => hd.failedAs_iff hsuccess hduplicate
  · rw [sum_tally]
    exact htold.length_eq.symm

end

/-- Between two requests, which is whenever the worker waits for one or has ended, the counters of
outcomes count each request once, under the label of its result, and those of refreshes each account
query that returned. The gauge shows the sequence that the next envelope will be signed with. -/
theorem metrics_count_dealings {σ : Type} (worker : Worker) (node : Node σ) (s : σ)
    (capacity : Nat) (events : List World.Event) :
    let w := (World.start s capacity).run worker node events
    let log := (World.start s capacity).log worker node events
    let ds := dealings log
    (w.stage = .idle ∨ w.stage = .ended → ∀ d ∈ ds, d.result ≠ none) ∧
    ((∀ d ∈ ds, d.result ≠ none) →
      (counter "success" w.metrics.outcomes = ds.countP (Dealing.relayedAs .accepted) ∧
        counter "duplicate" w.metrics.outcomes =
          ds.countP (Dealing.relayedAs .duplicatePending) ∧
        (∀ kind, kind ≠ "success" → kind ≠ "duplicate" →
          counter kind w.metrics.outcomes = ds.countP (Dealing.failedAs kind)) ∧
        (w.metrics.outcomes.map Prod.snd).sum = ds.length) ∧
      (∀ success, counter (refreshLabel success) w.metrics.refreshes =
        (exchanges log).countP (Exchange.isRefresh success)) ∧
      (w.account.phase = .ready →
        w.metrics.sequence = Binary64.ofNat w.account.sequence.toNat)) := by
  intro w log ds
  have hlogged : Logged worker w log := logged worker node s capacity events
  have hkept : Kept w ds := kept worker node s capacity events
  refine ⟨fun hstage d hd => hlogged.result_ne_none hstage hd, fun hall => ?_⟩
  have hcounted : Counted w.metrics w.account ds := hkept.counted hall
  refine ⟨hcounted.counters, fun success => ?_, ?_⟩
  · obtain ⟨labels, _, hbooked⟩ := hcounted
    rw [hbooked.refreshes, counter_tally, count_refreshLabels, ← hlogged.exchanges_eq]
  · obtain ⟨labels, _, hbooked⟩ := hcounted
    exact hbooked.sequence

end Relay

end

end GasSponsor
