import GasSponsor.Proofs.Relay.Gone
import GasSponsor.Proofs.Relay.Grace

/-!
# Shutdown

From the moment at which the flag is set the worker takes no request, whatever the queue holds. All
that it still does is done about the request in hand, which is answered as ever if the calls return
in time. What is left then is lost with the worker: its callers hear that the worker is not there,
and so does who submits later. Replies that were given before stay where they are.
-/

namespace GasSponsor.Relay

/-- Nothing more was done, or only about the request in hand. -/
inductive Continued (held : List Request) (ds : List Dealing) :
    List Dealing → List Exchange → Prop
  | nothing : Continued held ds ds []
  | hand {front : List Dealing} {d : Dealing} (hds : ds = front ++ [d]) (hnone : d.result = none)
      (hheld : held = [d.request]) (more : List Exchange) (result : Option RelayResult) :
      Continued held ds (front ++ [⟨d.request, d.exchanges ++ more, result⟩]) more

section

variable {σ : Type} {worker : Worker} {node : Node σ} {w v : World σ} {log entries : List Entry}
  {held : List Request} {ds front : List Dealing} {more : List Exchange} {d : Dealing}

/-- What is done about the last dealing, which has no reply yet, is done about the request in hand.
-/
theorem Continued.extend (h : Continued held ds (front ++ [d]) more)
    (hhand : ∀ front d, ds = front ++ [d] → d.result = none → held = [d.request])
    (hnone : d.result = none) (xs : List Exchange) (result : Option RelayResult) :
    Continued held ds (front ++ [⟨d.request, d.exchanges ++ xs, result⟩]) (more ++ xs) := by
  generalize hlater : front ++ [d] = later at h
  cases h with
  | nothing =>
      subst hlater
      exact .hand rfl hnone (hhand front d rfl hnone) xs result
  | hand hds hfirst hheld more old =>
      obtain ⟨rfl, hlast⟩ := List.append_inj' hlater rfl
      cases hlast
      rw [List.append_assoc]
      exact .hand hds hfirst hheld (more ++ xs) result

/-- While the worker runs, the last dealing has no reply only if its request is in hand. -/
theorem Logged.held_of_none (h : Logged worker w log) (hrunning : w.isRunning = true)
    (hds : dealings log = front ++ [d]) (hnone : d.result = none) :
    w.channel.held = [d.request] := by
  have hd : d ∈ dealings log := hds ▸ List.mem_append_right _ (List.mem_singleton_self d)
  rcases h.recorded.held_cases with hheld | ⟨front', d', hds', _, hheld⟩
  · have hrecorded := h.recorded
    unfold World.isRunning at hrunning
    cases hstage : w.stage with
    | idle => exact absurd hnone (h.result_ne_none (.inl hstage) hd)
    | busy p =>
        obtain ⟨_, _, _, _, hsome⟩ := hrecorded.exists_hand hstage
        rw [hheld] at hsome
        cases hsome
    | stuck =>
        rw [Recorded, hstage] at hrecorded
        obtain ⟨_, _, _, _, _, hsome⟩ := hrecorded
        rw [hheld] at hsome
        cases hsome
    | ended | aborted =>
        rw [hstage] at hrunning
        cases hrunning
  · rw [hds] at hds'
    obtain ⟨_, hlast⟩ := List.append_inj' hds' rfl
    cases hlast
    exact hheld

/-- A worker that was told to stop takes no request. -/
theorem Continued.works (h : Continued held ds (dealings log) more)
    (hhand : ∀ front d, ds = front ++ [d] → d.result = none → held = [d.request])
    (hrecorded : Recorded worker w (dealings log)) (hshut : w.shutdown = true)
    (hw : World.Works worker node w entries v) :
    Continued held ds (dealings (log ++ entries)) (more ++ exchanges entries) ∧
      v.shutdown = true := by
  cases hw with
  | rest _ | close _ _ | record _ =>
      refine ⟨?_, hshut⟩
      rw [List.append_nil, exchanges, List.filterMap_nil, List.append_nil]
      exact h
  | take _ hrunning _ =>
      rw [hrunning] at hshut
      cases hshut
  | leave hstage _ | ask _ hstage _ =>
      obtain ⟨front, d, hds, hnone, _⟩ := hrecorded.exists_hand hstage
      rw [hds] at h
      rw [dealings_snoc, hds, Dealing.next, List.modifyLast_concat]
      exact ⟨h.extend hhand hnone [_] d.result, hshut⟩
  | @answer _ result _ _ hstage _ =>
      obtain ⟨front, d, hds, hnone, _⟩ := hrecorded.exists_hand hstage
      rw [hds] at h
      rw [dealings_snoc, hds, Dealing.next, List.modifyLast_concat]
      have hlast := h.extend hhand hnone [] (some result)
      rw [List.append_nil] at hlast
      exact ⟨hlast, hshut⟩
  | drop hstage hheld =>
      obtain ⟨_, _, _, _, hsome⟩ := hrecorded.exists_hand hstage
      rw [hsome] at hheld
      cases hheld

theorem shutdown_act (hshut : w.shutdown = true) (a : World.Action) :
    (w.act a).shutdown = true := by
  cases a with
  | submit message denom => exact hshut
  | dropReceipt number => exact hshut
  | shutDown => rfl
  | abort =>
      simp only [World.act]
      split
      · exact hshut
      · exact hshut

/-- From the moment at which a worker is told to stop, it only goes on with the request in hand. -/
theorem Logged.continued (h : Logged worker w log) (hshut : w.shutdown = true)
    (hrunning : w.isRunning = true) (events : List World.Event) :
    Continued w.channel.held (dealings log) (dealings (log ++ w.log worker node events))
      (exchanges (w.log worker node events)) := by
  have hhand : ∀ front d, dealings log = front ++ [d] → d.result = none →
      w.channel.held = [d.request] := fun front d hds hnone => h.held_of_none hrunning hds hnone
  refine (World.run_induction (P := fun v later => Logged worker v (log ++ later) ∧
    v.shutdown = true ∧ Continued w.channel.held (dealings log) (dealings (log ++ later))
      (exchanges later)) ?_ ?_ events).2.2
  · rw [List.append_nil]
    exact ⟨h, hshut, .nothing⟩
  · rintro v later e ⟨hlogged, hstill, hcontinued⟩
    rw [← List.append_assoc, exchanges_append]
    refine ⟨hlogged.step e, ?_⟩
    cases e with
    | action a =>
        refine ⟨shutdown_act hstill a, ?_⟩
        rw [dealings_enqueued, exchanges_actions, List.append_nil]
        exact hcontinued
    | work =>
        obtain ⟨hnext, hshut⟩ := hcontinued.works hhand hlogged.recorded hstill
          (World.works worker node v)
        exact ⟨hshut, hnext⟩

namespace World

theorem isEnded_iff (w : World σ) : w.isEnded = true ↔ w.stage = .ended := by
  unfold isEnded
  cases w.stage <;> simp

theorem isRunning_abort (w : World σ) : (w.act .abort).isRunning = false := by
  rw [act]
  by_cases h : w.isRunning = true
  · rw [if_pos h]
    rfl
  · rw [if_neg h]
    exact Bool.eq_false_iff.2 h

theorem ended_abort_iff (w : World σ) : (w.act .abort).stage = .ended ↔ w.stage = .ended := by
  rw [act]
  by_cases h : w.isRunning = true
  · rw [if_pos h]
    constructor
    · intro haborted
      cases haborted
    · intro hended
      rw [isRunning, hended] at h
      cases h
  · rw [if_neg h]

theorem aborts_working {n : Nat} {e : Event} (h : e ∈ working n) : e.aborts = false := by
  rw [List.eq_of_mem_replicate h]
  rfl

theorem countP_working (n : Nat) : (working n).countP Event.isWork = n := by
  rw [working, List.countP_replicate]
  rfl

/-- To stop a worker is to set the flag, to let it work for more than one request takes, and to abort
it. -/
theorem exists_stop_eq_run (worker : Worker) (node : Node σ) (w : World σ) : ∃ n,
    stepsPerRequest ≤ n ∧
    let v := w.run worker node (.action .shutDown :: working n)
    w.stop worker node = (v.isEnded, v.act .abort) := by
  have hgrace : stepsPerRequest ≤ stepsPerRequest * (w.channel.queue.length + 2) :=
    Nat.le_mul_of_pos_right _ (Nat.succ_pos _)
  have hstop : w.stop worker node =
      let v := workFor worker node (stepsPerRequest * (w.channel.queue.length + 2))
        (w.act .shutDown)
      (v.isEnded, v.act .abort) := rfl
  generalize stepsPerRequest * (w.channel.queue.length + 2) = n at hgrace hstop
  rw [workFor_eq_run] at hstop
  exact ⟨n, hgrace, hstop⟩

theorem run_shutDown (w : World σ) (before after : List Event) :
    w.run worker node (before ++ .action .shutDown :: after) =
      ((w.run worker node before).act .shutDown).run worker node after :=
  run_append w before _

theorem log_shutDown (w : World σ) (before after : List Event) :
    w.log worker node (before ++ .action .shutDown :: after) =
      w.log worker node before ++
        ((w.run worker node before).act .shutDown).log worker node after :=
  log_append w before _

end World

theorem Logged.shutDown (h : Logged worker w log) : Logged worker (w.act .shutDown) log :=
  ⟨h.recorded.act .shutDown, h.exchanges_eq⟩

section

variable (worker : Worker) (node : Node σ) (s : σ) (capacity : Nat)

theorem exists_continued (before after : List World.Event) :
    let w := (World.start s capacity).run worker node before
    let events := before ++ .action .shutDown :: after
    ∃ more, ((World.start s capacity).run worker node events).calls =
        w.calls ++ more.map Exchange.call ∧
      Continued w.channel.held (dealings ((World.start s capacity).log worker node before))
        (dealings ((World.start s capacity).log worker node events)) more := by
  intro w events
  have hlogged := (logged worker node s capacity before).shutDown
  have hcalls := calls_eq worker node s capacity events
  rw [World.log_shutDown, exchanges_append, List.map_append,
    ← calls_eq worker node s capacity before] at hcalls
  rw [World.log_shutDown]
  cases hrunning : w.isRunning with
  | true => exact ⟨_, hcalls, hlogged.continued rfl hrunning after⟩
  | false =>
      have hgone : Gone (w.act .shutDown) :=
        ((attended worker node s capacity before).act .shutDown).gone hrunning
      obtain ⟨_, _, _, hnothing⟩ := hgone.run worker node after
      rw [hnothing] at hcalls ⊢
      refine ⟨[], hcalls, ?_⟩
      rw [List.append_nil]
      exact .nothing

/-- A worker that has the time for one request ends by itself, unless a call never returns. -/
theorem ended_or_unanswered {before after : List World.Event}
    (hrunning : ((World.start s capacity).run worker node before).isRunning = true)
    (hno : ∀ e ∈ after, e.aborts = false)
    (hgrace : World.stepsPerRequest ≤ after.countP World.Event.isWork) :
    let events := before ++ .action .shutDown :: after
    ((World.start s capacity).run worker node events).stage = .ended ∨
      ∃ x ∈ exchanges ((World.start s capacity).log worker node events), x.reply = none := by
  intro events
  have hlogged := (logged worker node s capacity before).shutDown
  rcases hlogged.ended_or_stuck node hrunning rfl hno hgrace with hended | hstuck
  · refine .inl ?_
    rw [World.run_shutDown]
    exact hended
  · rw [← World.run_shutDown] at hstuck
    exact .inr ((logged worker node s capacity events).exists_unanswered hstuck)

theorem isKept_of_enqueued {events : List World.Event} {r : Request}
    (hr : r ∈ enqueued ((World.start s capacity).log worker node events))
    (hno : ∀ e ∈ events, e ≠ .action (.dropReceipt r.number)) :
    ((World.start s capacity).run worker node events).channel.isKept r.number = true := by
  have hordered := ordered worker node s capacity events
  have hmem : r.number ∈ List.range
      ((World.start s capacity).run worker node events).channel.tickets.length := by
    rw [← hordered.numbers]
    exact List.mem_map_of_mem hr
  have hstart : Unspent (World.start s capacity) r.number := fun hlt =>
    absurd hlt (Nat.not_lt_zero _)
  exact unspent_of_run _ hstart hno (List.mem_range.1 hmem)

theorem stop_sharp (events : List World.Event) :
    let v := (World.start s capacity).run worker node events
    let stopped := v.stop worker node
    ∃ n, let stopping := events ++ .action .shutDown :: World.working n ++ [.action .abort]
      stopped.2 = (World.start s capacity).run worker node stopping ∧
        stopped.2.isRunning = false ∧
        (stopped.1 = true ↔ stopped.2.stage = .ended) ∧
        (stopped.1 = false → v.stage = .aborted ∨
          ∃ x ∈ exchanges ((World.start s capacity).log worker node stopping),
            x.reply = none) := by
  intro v stopped
  obtain ⟨n, hgrace, hstop⟩ := World.exists_stop_eq_run worker node v
  have hstopped : stopped = _ := hstop
  rw [hstopped]
  have hrun : (World.start s capacity).run worker node
      (events ++ .action .shutDown :: World.working n) =
        v.run worker node (.action .shutDown :: World.working n) :=
    World.run_append _ _ _
  refine ⟨n, ?_, World.isRunning_abort _, ?_, fun hcut => ?_⟩
  · rw [World.run_append, hrun]
    rfl
  · rw [World.ended_abort_iff]
    exact World.isEnded_iff _
  · have hunended : (v.run worker node (.action .shutDown :: World.working n)).stage ≠ .ended := by
      rw [Ne, ← World.isEnded_iff]
      exact Bool.eq_false_iff.1 hcut
    cases hrunning : v.isRunning with
    | true =>
        have hcount : World.stepsPerRequest ≤ (World.working n).countP World.Event.isWork := by
          rw [World.countP_working]
          exact hgrace
        rcases ended_or_unanswered worker node s capacity hrunning
          (fun e he => World.aborts_working he) hcount with hended | ⟨x, hx, hreply⟩
        · rw [hrun] at hended
          exact absurd hended hunended
        · refine .inr ⟨x, ?_, hreply⟩
          rw [World.log_append, exchanges_append]
          exact List.mem_append_left _ hx
    | false =>
        refine .inl ?_
        have hgone : Gone v := (attended worker node s capacity events).gone hrunning
        obtain ⟨_, hstill, _⟩ := hgone.run worker node (.action .shutDown :: World.working n)
        rw [hstill] at hunended
        unfold World.isRunning at hrunning
        cases hstage : v.stage with
        | aborted => rfl
        | ended => exact absurd hstage hunended
        | idle | busy _ | stuck =>
            rw [hstage] at hrunning
            cases hrunning

end

end

/-- From the moment at which the flag is set, every call belongs to the request in hand, which ends as
it would have ended if the calls return and nobody aborts the worker; then the worker has ended. When
it is gone, by itself or cut off, a receipt that its caller has kept has the reply to its request, or
the news that there is none, and every later submission is refused. Stopping comes to that, and tells
of an end by itself unless the worker was aborted before or a call never returned. -/
theorem shutdown_sharp {σ : Type} (worker : Worker) (node : Node σ) (s : σ) (capacity : Nat)
    (events : List World.Event) :
    let v := (World.start s capacity).run worker node events
    let later := (World.start s capacity).log worker node events
    (∀ before after, events = before ++ .action .shutDown :: after →
      let w := (World.start s capacity).run worker node before
      let log := (World.start s capacity).log worker node before
      (∃ more, v.calls = w.calls ++ more.map Exchange.call ∧
        Continued w.channel.held (dealings log) (dealings later) more) ∧
      (w.isRunning = true → (∀ e ∈ after, e.aborts = false) →
        World.stepsPerRequest ≤ after.countP World.Event.isWork →
        (∀ x ∈ exchanges later, x.reply ≠ none) →
        v.stage = .ended ∧ ∀ front d back, dealings later = front ++ d :: back →
          ∃ result, d.result = some result ∧
            Ended worker (knownAfter none (front.flatMap Dealing.exchanges)) d.request.message
              d.request.denom d.exchanges result)) ∧
    (∀ r ∈ enqueued later, (∀ e ∈ events, e ≠ .action (.dropReceipt r.number)) →
      v.channel.isKept r.number = true) ∧
    (∀ d ∈ dealings later, ∀ result, d.result = some result →
      v.channel.isKept d.request.number = true →
      v.channel.peek d.request.number = .resolved result) ∧
    (v.isRunning = false →
      (∀ r ∈ enqueued later, v.channel.isKept r.number = true →
        (∀ d ∈ dealings later, d.request = r → d.result = none) →
        v.channel.peek r.number = .resolved (.error .workerUnavailable)) ∧
      ∀ more, let u := (World.start s capacity).run worker node (events ++ more)
        u.isRunning = false ∧ u.channel.isOpen = false ∧ u.calls = v.calls ∧
          (World.start s capacity).log worker node (events ++ more) = later ∧
          ∀ message denom, (u.channel.submit message denom).1 = .refused) ∧
    ∃ n, let stopping := events ++ .action .shutDown :: World.working n ++ [.action .abort]
      let stopped := v.stop worker node
      stopped.2 = (World.start s capacity).run worker node stopping ∧
        stopped.2.isRunning = false ∧
        (stopped.1 = true ↔ stopped.2.stage = .ended) ∧
        (stopped.1 = false → v.stage = .aborted ∨
          ∃ x ∈ exchanges ((World.start s capacity).log worker node stopping), x.reply = none) := by
  intro v later
  have hlogged : Logged worker v later := logged worker node s capacity events
  have hordered : Ordered v later := ordered worker node s capacity events
  have hdelivered : Delivered v later := delivered worker node s capacity events
  have hattended : Attended v := attended worker node s capacity events
  refine ⟨?_, fun r hr hno => isKept_of_enqueued worker node s capacity hr hno,
    fun d hd result hresult hkept => hdelivered.peek_of_kept hd hresult hkept, fun hgone => ⟨?_, ?_⟩,
    stop_sharp worker node s capacity events⟩
  · rintro before after rfl
    refine ⟨exists_continued worker node s capacity before after,
      fun hrunning hno hgrace hreturned => ?_⟩
    rcases ended_or_unanswered worker node s capacity hrunning hno hgrace with
      hended | ⟨x, hx, hreply⟩
    · refine ⟨hended, fun front d back hds => ?_⟩
      have hd : d ∈ dealings later := hds ▸ List.mem_append_right _ List.mem_cons_self
      obtain ⟨result, hresult⟩ :=
        Option.ne_none_iff_exists'.1 (hlogged.result_ne_none (.inr hended) hd)
      exact ⟨result, hresult, hlogged.ended hds hresult⟩
    · exact absurd hreply (hreturned x hx)
  · intro r hr hkept hnone
    refine hdelivered.peek_of_gone hlogged hattended hgone hkept fun d hd hnumber => ?_
    have hrequest : d.request = r := by
      have hmem : d.request ∈ enqueued later := by
        refine hordered.taken_isPrefix.subset ?_
        rw [← map_request_dealings]
        exact List.mem_map_of_mem hd
      exact List.inj_on_of_nodup_map hordered.nodup_numbers hmem hr hnumber
    exact hnone d hd hrequest
  · intro more u
    obtain ⟨hstill, _, hcalls, hnothing⟩ := (hattended.gone hgone).run worker node more
    have hu : u = v.run worker node more := World.run_append _ _ _
    rw [World.log_append, hnothing, List.append_nil, hu]
    refine ⟨hstill.stopped, hstill.closed, hcalls, rfl, fun message denom => ?_⟩
    rw [hstill.refuses message denom]

/-- A request that still waits when the flag is set is never taken. -/
example {σ : Type} (worker : Worker) (node : Node σ) (s : σ) (m : Ethereum.Message) (denom : String) :
    let w := (World.start s 1).run worker node
      [.action (.submit m denom), .action .shutDown, .work]
    w.calls = [] ∧ (w.channel.wait 0).1 = .resolved (.error .workerUnavailable) :=
  ⟨rfl, rfl⟩

end GasSponsor.Relay
