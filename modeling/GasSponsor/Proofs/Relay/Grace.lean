import GasSponsor.Proofs.Steps
import GasSponsor.Proofs.Relay.Progress

/-!
# How long a worker takes to stop

The request in hand makes at most five calls, with at most five records between them. A worker that
is told to stop has ended when it has made them, replied and looked at the flag, unless one of the
calls never returns. Nothing but an abort keeps it from that.
-/

namespace GasSponsor

open Program

theorem AccountState.within_ensureFresh (a : AccountState) (address : String) :
    (a.ensureFresh address).Within 3 := by
  unfold ensureFresh
  cases hsnapshot : a.snapshot with
  | some info => exact within_pure 3 _
  | none =>
      refine .ask_bind fun reply => ?_
      cases reply with
      | error e => exact .note_bind (within_pure 1 _)
      | ok info => exact .note_bind (.note_bind (within_pure 0 _))

theorem AccountState.within_advance (a : AccountState) : a.advance.Within 1 :=
  .note_bind (within_pure 0 _)

theorem FeeEstimator.within_price (e : FeeEstimator) (fee : Nat) : (e.price fee).Within 1 := by
  unfold price
  cases hpolicy : e.policy with
  | currentBaseFee => exact within_pure 1 _
  | lookahead =>
      refine .ask_bind fun params => ?_
      cases params with
      | error err => exact within_pure 0 _
      | ok denominator => exact within_pure 0 _

theorem FeeEstimator.within_estimate (e : FeeEstimator) (gas : UInt64) (denom : String) :
    (e.estimate gas denom).Within 4 := by
  refine .ask_bind fun block => ?_
  cases block with
  | error err => exact within_pure 3 _
  | ok height =>
      refine .ask_bind fun baseFee => ?_
      match baseFee with
      | .error err => exact within_pure 2 _
      | .ok none => exact within_pure 2 _
      | .ok (some 0) => exact within_pure 2 _
      | .ok (some (fee + 1)) =>
          refine Within.bind (k := 1) (e.within_price (fee + 1)) fun price => ?_
          cases price with
          | error err => exact within_pure 1 _
          | ok price => exact .note_bind (within_pure 0 _)

namespace Relay

theorem Worker.within_settle (a : AccountState) (r : BroadcastResponse) :
    (settle a r).Within 1 := by
  unfold settle
  cases hr : r.outcome with
  | accepted => exact Within.bind (k := 0) a.within_advance fun _ => within_pure 0 _
  | duplicatePending => exact Within.bind (k := 0) a.within_advance fun _ => within_pure 0 _
  | sequenceMismatch => exact within_pure 1 _
  | rejected => exact within_pure 1 _

theorem Worker.within_submit (w : Worker) (a : AccountState) (info : AccountInfo)
    (message : Ethereum.Message) (denom : String) : (w.submit a info message denom).Within 6 := by
  refine Within.bind (k := 2) (w.estimator.within_estimate message.gasLimit denom) fun quote => ?_
  cases quote with
  | error e => exact within_pure 2 _
  | ok fee =>
      dsimp only
      cases hbuild : w.builder.build message fee info with
      | error e => exact within_pure 2 _
      | ok envelope =>
          refine .ask_bind fun response => ?_
          cases response with
          | error e => exact within_pure 1 _
          | ok r => exact within_settle a r

theorem Worker.within_relay (w : Worker) (a : AccountState) (message : Ethereum.Message)
    (denom : String) : (w.relay a message denom).Within 10 := by
  refine Within.bind (k := 7) (a.within_ensureFresh w.builder.identity.bech32) fun fetched => ?_
  obtain ⟨b, info⟩ := fetched
  cases info with
  | error e => exact .note_bind (within_pure 6 _)
  | ok info =>
      refine Within.bind (k := 1) (w.within_submit b info message denom) fun submitted => ?_
      exact .note_bind (within_pure 0 _)

namespace World

def Event.isWork : Event → Bool
  | .work => true
  | .action _ => false

def Event.aborts : Event → Bool
  | .action .abort => true
  | _ => false

/-- A worker that is told to stop has ended after this many steps, or waits for the node in vain. -/
inductive Ending (k : Nat) : Stage → Prop
  | ended : Ending k .ended
  | stuck : Ending k .stuck
  | idle (hk : 1 ≤ k) : Ending k .idle
  | busy {n : Nat} {p : Program (AccountState × RelayResult)} (h : p.Within n) (hk : n + 2 ≤ k) :
      Ending k (.busy p)

variable {σ : Type} {worker : Worker} {node : Node σ} {w : World σ} {k : Nat}

theorem Ending.zero {stage : Stage} (h : Ending 0 stage) : stage = .ended ∨ stage = .stuck := by
  cases h with
  | ended => exact .inl rfl
  | stuck => exact .inr rfl
  | idle hk => exact absurd hk (Nat.not_succ_le_zero 0)
  | busy _ hk => exact absurd hk (Nat.not_succ_le_zero _)

theorem Ending.mono {j : Nat} {stage : Stage} (h : Ending k stage) (hle : k ≤ j) :
    Ending j stage := by
  cases h with
  | ended => exact .ended
  | stuck => exact .stuck
  | idle hk => exact .idle (Nat.le_trans hk hle)
  | busy hwithin hk => exact .busy hwithin (Nat.le_trans hk hle)

theorem Ending.work (worker : Worker) (node : Node σ) (h : Ending (k + 1) w.stage)
    (hshut : w.shutdown = true) :
    Ending k (w.step worker node .work).stage ∧ (w.step worker node .work).shutdown = true := by
  obtain ⟨s, channel, account, metrics, stage, shutdown, calls⟩ := w
  cases hshut
  cases h with
  | ended => exact ⟨.ended, rfl⟩
  | stuck => exact ⟨.stuck, rfl⟩
  | idle _ => exact ⟨.ended, rfl⟩
  | busy hwithin hk =>
      cases hwithin with
      | done n a =>
          have hidle : 1 ≤ k := by omega
          exact ⟨.idle hidle, rfl⟩
      | @record n p e hrest =>
          have hbusy : n + 2 ≤ k := by omega
          exact ⟨.busy hrest hbusy, rfl⟩
      | @call n c next hrest =>
          have hbusy : n + 2 ≤ k := by omega
          cases hnode : node s c with
          | mk reply t =>
              cases reply with
              | none =>
                  simp only [step, World.work, hnode, Option.getD_some]
                  exact ⟨.stuck, trivial⟩
              | some r =>
                  simp only [step, World.work, hnode, Option.getD_some]
                  exact ⟨.busy (hrest r) hbusy, trivial⟩

theorem Ending.act (h : Ending k w.stage) (hshut : w.shutdown = true) {a : Action}
    (ha : (Event.action a).aborts = false) :
    Ending k (w.act a).stage ∧ (w.act a).shutdown = true := by
  cases a with
  | submit message denom => exact ⟨h, hshut⟩
  | dropReceipt number => exact ⟨h, hshut⟩
  | shutDown => exact ⟨h, rfl⟩
  | abort => cases ha

/-- Every step of the worker brings it nearer to its end, and nothing else keeps it from it. -/
theorem Ending.run {events : List Event} (h : Ending (k + events.countP Event.isWork) w.stage)
    (hshut : w.shutdown = true) (hno : ∀ e ∈ events, e.aborts = false) :
    Ending k (w.run worker node events).stage := by
  induction events generalizing w with
  | nil => exact h
  | cons e events ih =>
      obtain ⟨he, hrest⟩ := List.forall_mem_cons.1 hno
      cases e with
      | work =>
          rw [List.countP_cons_of_pos rfl, ← Nat.add_assoc] at h
          obtain ⟨hnext, hstill⟩ := h.work worker node hshut
          exact ih hnext hstill hrest
      | action a =>
          rw [List.countP_cons_of_neg Bool.false_ne_true] at h
          obtain ⟨hnext, hstill⟩ := h.act hshut he
          exact ih hnext hstill hrest

end World

section

variable {σ : Type} {worker : Worker} {node : Node σ} {w : World σ} {log : List Entry}

theorem Logged.ending (h : Logged worker w log) (hrunning : w.isRunning = true) :
    World.Ending World.stepsPerRequest w.stage := by
  have hrecorded := h.recorded
  unfold World.isRunning at hrunning
  cases hstage : w.stage with
  | idle => exact .idle (by decide)
  | stuck => exact .stuck
  | ended =>
      rw [hstage] at hrunning
      cases hrunning
  | aborted =>
      rw [hstage] at hrunning
      cases hrunning
  | busy p =>
      rw [Recorded, hstage] at hrecorded
      obtain ⟨_, d, _, _, hreaches, _⟩ := hrecorded
      have hwithin : p.Within 10 := (worker.within_relay _ _ _).follows hreaches.2
      exact .busy hwithin (by decide)

/-- A worker that is stuck has made a call that never returned. -/
theorem Logged.exists_unanswered (h : Logged worker w log) (hstage : w.stage = .stuck) :
    ∃ x ∈ exchanges log, x.reply = none := by
  have hrecorded := h.recorded
  rw [Recorded, hstage] at hrecorded
  obtain ⟨front, d, hds, _, ⟨_, xs, c, next, hxs, _⟩, _⟩ := hrecorded
  have hd : d ∈ dealings log := hds ▸ List.mem_append_right _ (List.mem_singleton_self d)
  have hx : (⟨c, none⟩ : Exchange) ∈ d.exchanges :=
    hxs ▸ List.mem_append_right _ (List.mem_singleton_self _)
  refine ⟨⟨c, none⟩, ?_, rfl⟩
  rw [h.exchanges_eq]
  exact List.mem_flatMap.2 ⟨d, hd, hx⟩

/-- A worker that has been told to stop and is given the time for one request has ended, or has made
a call that never returned. -/
theorem Logged.ended_or_stuck (h : Logged worker w log) (node : Node σ) (hrunning : w.isRunning = true)
    (hshut : w.shutdown = true) {events : List World.Event}
    (hno : ∀ e ∈ events, e.aborts = false)
    (hgrace : World.stepsPerRequest ≤ events.countP World.Event.isWork) :
    (w.run worker node events).stage = .ended ∨ (w.run worker node events).stage = .stuck := by
  have hending : World.Ending (0 + events.countP World.Event.isWork) w.stage :=
    (h.ending hrunning).mono (by rw [Nat.zero_add]; exact hgrace)
  exact (hending.run hshut hno).zero

end

end Relay

end GasSponsor
