import GasSponsor.Proofs.Relay.Receipts

/-!
# When the worker is gone

While the worker runs, a request without a reply is queued or in hand. When it ends it loses all of
these and closes the channel, so that no receipt is left waiting. From then on nothing enters the
queue, nothing is called, and what stands at a receipt is not written over.
-/

namespace GasSponsor.Relay

namespace Channel

variable {c : Channel} {n : Nat}

theorem lt_of_reply? {r : Reply} (h : c.reply? n = some r) : n < c.tickets.length := by
  obtain ⟨t, ht, _⟩ := Option.map_eq_some_iff.1 h
  exact (List.getElem?_eq_some_iff.1 ht).1

/-- Who is not lost is not on the list. -/
theorem awaited_loseAll {rs : List Request} (h : (c.loseAll rs).reply? n = some .awaited) :
    n ∉ rs.map Request.number ∧ c.reply? n = some .awaited := by
  rw [reply?_loseAll] at h
  split at h
  · obtain ⟨_, _, hlost⟩ := Option.map_eq_some_iff.1 h
    cases hlost
  · next hmem => exact ⟨hmem, h⟩

theorem isKept_abandon : c.abandon.isKept n = c.isKept n :=
  (c.close.isKept_loseAll c.held n).trans (c.isKept_close n)

/-- A request that enters has a receipt that waits. -/
theorem awaited_submit (message : Ethereum.Message) (denom : String)
    (h : (c.submit message denom).2.reply? n = some .awaited) :
    c.reply? n = some .awaited ∨ n ∈ (c.submit message denom).2.queue.map Request.number := by
  rcases c.reply?_submit message denom n with hsame | ⟨hnone, _⟩
  · rw [hsame] at h
    exact .inl h
  · rcases c.submit_cases message denom with ⟨hs, _⟩ | ⟨hs, _⟩ | ⟨hs, _⟩
    · rw [hs, hnone] at h
      cases h
    · rw [hs, hnone] at h
      cases h
    · -- only the new receipt was not there before
      have hlt := lt_of_reply? h
      rw [hs, List.length_append, List.length_singleton] at hlt
      have hge : c.tickets.length ≤ n := by
        by_contra hlt
        obtain ⟨r, hr⟩ := c.reply?_of_lt (Nat.lt_of_not_le hlt)
        rw [hr] at hnone
        cases hnone
      have hn : n = c.tickets.length := Nat.le_antisymm (Nat.le_of_lt_succ hlt) hge
      refine .inr ?_
      rw [hs, hn, List.map_append]
      exact List.mem_append_right _ (List.mem_singleton_self _)

theorem submit_queue (message : Ethereum.Message) (denom : String) (r : Request)
    (hr : r ∈ c.queue) : r ∈ (c.submit message denom).2.queue := by
  rcases c.submit_cases message denom with ⟨hs, _⟩ | ⟨hs, _⟩ | ⟨hs, _⟩
  · rw [hs]
    exact hr
  · rw [hs]
    exact hr
  · rw [hs]
    exact List.mem_append_left _ hr

/-- A receipt is kept when its request enters. -/
theorem isKept_submit (message : Ethereum.Message) (denom : String)
    (h : n < c.tickets.length → c.isKept n = true)
    (hlt : n < (c.submit message denom).2.tickets.length) :
    (c.submit message denom).2.isKept n = true := by
  rcases c.submit_cases message denom with ⟨hs, _⟩ | ⟨hs, _⟩ | ⟨hs, _⟩
  · rw [hs] at hlt ⊢
    exact h hlt
  · rw [hs] at hlt ⊢
    exact h hlt
  · rw [hs] at hlt ⊢
    rw [List.length_append, List.length_singleton] at hlt
    unfold isKept at h ⊢
    rcases Nat.lt_or_eq_of_le (Nat.le_of_lt_succ hlt) with hold | rfl
    · rw [List.getElem?_append_left hold]
      exact h hold
    · rw [List.getElem?_concat_length]

end Channel

/-- The requests that have no reply are in hand or queued, and none is left when the worker is gone.
-/
structure Attended {σ : Type} (w : World σ) : Prop where
  awaited : ∀ n, w.channel.reply? n = some .awaited →
    n ∈ w.channel.held.map Request.number ∨ n ∈ w.channel.queue.map Request.number
  closed : w.isRunning = false → w.channel.isOpen = false ∧ w.channel.queue = []

section

variable {σ : Type} {worker : Worker} {node : Node σ} {w v : World σ} {log entries : List Entry}
  {n : Nat}

theorem Attended.congr (h : Attended w) (hchannel : v.channel = w.channel)
    (hrunning : v.isRunning = false → w.isRunning = false) : Attended v := by
  refine ⟨?_, fun hv => ?_⟩
  · rw [hchannel]
    exact h.awaited
  · rw [hchannel]
    exact h.closed (hrunning hv)

theorem Attended.submit (h : Attended w) (message : Ethereum.Message) (denom : String) :
    Attended (w.act (.submit message denom)) := by
  refine ⟨fun n hn => ?_, fun hgone => ?_⟩
  · rcases Channel.awaited_submit message denom hn with hold | hnew
    · rcases h.awaited n hold with hheld | hqueue
      · refine .inl ?_
        change n ∈ (w.channel.submit message denom).2.held.map Request.number
        rw [Channel.submit_held]
        exact hheld
      · obtain ⟨r, hr, hnumber⟩ := List.mem_map.1 hqueue
        exact .inr (List.mem_map.2 ⟨r, Channel.submit_queue message denom r hr, hnumber⟩)
    · exact .inr hnew
  · obtain ⟨hopen, hqueue⟩ := h.closed hgone
    have hrefused : w.channel.submit message denom = (.refused, w.channel) := by
      rw [Channel.submit, hopen]
      rfl
    change (w.channel.submit message denom).2.isOpen = false ∧
      (w.channel.submit message denom).2.queue = []
    rw [hrefused]
    exact ⟨hopen, hqueue⟩

theorem Attended.act (h : Attended w) (a : World.Action) : Attended (w.act a) := by
  cases a with
  | submit message denom => exact h.submit message denom
  | dropReceipt number =>
      refine ⟨fun n hn => ?_, h.closed⟩
      have hsame := w.channel.reply?_dropReceipt number n
      exact h.awaited n (hsame ▸ hn)
  | shutDown => exact h.congr rfl id
  | abort =>
      simp only [World.act]
      split
      · refine ⟨fun n hn => ?_, fun _ => ⟨Channel.abandon_isOpen _, Channel.abandon_queue _⟩⟩
        obtain ⟨hheld, hclosed⟩ := Channel.awaited_loseAll (c := w.channel.close) hn
        obtain ⟨hqueue, hold⟩ := Channel.awaited_loseAll hclosed
        rcases h.awaited n hold with hmem | hmem
        · exact absurd hmem hheld
        · exact absurd hmem hqueue
      · exact h

theorem Attended.works (h : Attended w) (hw : World.Works worker node w entries v) :
    Attended v := by
  cases hw with
  | rest _ => exact h
  | close _ _ =>
      refine ⟨fun n hn => ?_, fun _ => ⟨rfl, rfl⟩⟩
      obtain ⟨hqueue, hold⟩ := Channel.awaited_loseAll (c := w.channel) hn
      rcases h.awaited n hold with hmem | hmem
      · exact .inl ((Channel.close_held _).symm ▸ hmem)
      · exact absurd hmem hqueue
  | take hstage _ hqueue =>
      refine ⟨fun n hn => ?_, fun hgone => ?_⟩
      · rcases h.awaited n hn with hmem | hmem
        · refine .inl ?_
          rw [List.map_append]
          exact List.mem_append_left _ hmem
        · rw [hqueue] at hmem
          rcases List.mem_cons.1 hmem with rfl | hrest
          · refine .inl ?_
            rw [List.map_append]
            exact List.mem_append_right _ (List.mem_singleton_self _)
          · exact .inr hrest
      · cases hgone
  | record hstage => exact h.congr rfl fun hgone => by cases hgone
  | leave hstage _ => exact h.congr rfl fun hgone => by cases hgone
  | ask r hstage _ => exact h.congr rfl fun hgone => by cases hgone
  | drop hstage _ => exact h.congr rfl fun hgone => by cases hgone
  | @answer _ result r rest hstage hheld =>
      refine ⟨fun n hn => ?_, fun hgone => by cases hgone⟩
      rw [Channel.reply?_give] at hn
      split at hn
      · obtain ⟨_, _, hgiven⟩ := Option.map_eq_some_iff.1 hn
        cases hgiven
      · next hne =>
          rcases h.awaited n hn with hmem | hmem
          · rw [hheld] at hmem
            rcases List.mem_cons.1 hmem with heq | hrest
            · exact absurd heq.symm hne
            · exact .inl hrest
          · exact .inr hmem

theorem attended (worker : Worker) (node : Node σ) (s : σ) (capacity : Nat)
    (events : List World.Event) : Attended ((World.start s capacity).run worker node events) := by
  refine World.run_induction (P := fun w _ => Attended w) ⟨fun n hn => ?_, fun hgone => ?_⟩ ?_
    events
  · cases hn
  · cases hgone
  · intro w log e h
    cases e with
    | action a => exact h.act a
    | work => exact h.works (World.works worker node w)

theorem Recorded.held_of_gone {ds : List Dealing} (h : Recorded worker w ds)
    (hgone : w.isRunning = false) : w.channel.held = [] := by
  unfold World.isRunning at hgone
  unfold Recorded at h
  cases hstage : w.stage with
  | ended =>
      rw [hstage] at h
      exact h.2
  | aborted =>
      rw [hstage] at h
      exact h.1
  | idle | busy _ | stuck =>
      rw [hstage] at hgone
      cases hgone

/-- When the worker is gone, a caller that has kept the receipt of a request without a reply hears of
it. -/
theorem Delivered.peek_of_gone (h : Delivered w log) (hlogged : Logged worker w log)
    (hattended : Attended w) (hgone : w.isRunning = false) (hkept : w.channel.isKept n = true)
    (hnone : ∀ d ∈ dealings log, d.request.number = n → d.result = none) :
    w.channel.peek n = .resolved (.error .workerUnavailable) := by
  rw [Channel.peek_eq, if_pos hkept]
  obtain ⟨reply, hreply⟩ := w.channel.reply?_of_lt (w.channel.lt_of_isKept hkept)
  rw [hreply]
  cases reply with
  | lost => rfl
  | awaited =>
      have hmem := hattended.awaited n hreply
      rw [hlogged.recorded.held_of_gone hgone, (hattended.closed hgone).2] at hmem
      rcases hmem with hmem | hmem
      · cases hmem
      · cases hmem
  | given result =>
      obtain ⟨r, hmem, rfl⟩ := h.own n result hreply
      rw [h.answered_eq] at hmem
      obtain ⟨d, hd, hanswer⟩ := List.mem_filterMap.1 hmem
      obtain ⟨_, hsome, heq⟩ := Option.map_eq_some_iff.1 hanswer
      cases heq
      rw [hnone d hd rfl] at hsome
      cases hsome

/-- A reply stands at the receipt for as long as the caller keeps it. -/
theorem Delivered.peek_of_kept (h : Delivered w log) {d : Dealing} (hd : d ∈ dealings log)
    {result : RelayResult} (hresult : d.result = some result)
    (hkept : w.channel.isKept d.request.number = true) :
    w.channel.peek d.request.number = .resolved result := by
  rcases h.peek_of_result hd hresult with hresolved | hpeek
  · exact hresolved
  · rw [Channel.peek_eq, if_pos hkept] at hpeek
    split at hpeek <;> cases hpeek

structure Gone (w : World σ) : Prop where
  stopped : w.isRunning = false
  closed : w.channel.isOpen = false

theorem Gone.refuses (h : Gone w) (message : Ethereum.Message) (denom : String) :
    w.channel.submit message denom = (.refused, w.channel) := by
  rw [Channel.submit, h.closed]
  rfl

theorem Gone.step (h : Gone w) (worker : Worker) (node : Node σ) (e : World.Event) :
    Gone (w.step worker node e) ∧ (w.step worker node e).stage = w.stage ∧
      (w.step worker node e).calls = w.calls ∧ w.entries node e = [] := by
  cases e with
  | work =>
      obtain ⟨s, channel, account, metrics, stage, shutdown, calls⟩ := w
      have hstopped := h.stopped
      cases stage with
      | ended => exact ⟨h, rfl, rfl, rfl⟩
      | aborted => exact ⟨h, rfl, rfl, rfl⟩
      | idle | busy _ | stuck => cases hstopped
  | action a =>
      cases a with
      | submit message denom =>
          have hrefused := h.refuses message denom
          simp only [World.step, World.act, World.entries, hrefused]
          exact ⟨h, trivial, trivial, trivial⟩
      | dropReceipt number => exact ⟨⟨h.stopped, h.closed⟩, rfl, rfl, rfl⟩
      | shutDown => exact ⟨⟨h.stopped, h.closed⟩, rfl, rfl, rfl⟩
      | abort =>
          have hsame : w.step worker node (.action .abort) = w := by
            rw [World.step, World.act, h.stopped]
            rfl
          rw [hsame]
          exact ⟨h, rfl, rfl, rfl⟩

theorem Gone.run (h : Gone w) (worker : Worker) (node : Node σ) (events : List World.Event) :
    Gone (w.run worker node events) ∧ (w.run worker node events).stage = w.stage ∧
      (w.run worker node events).calls = w.calls ∧ w.log worker node events = [] := by
  induction events generalizing w with
  | nil => exact ⟨h, rfl, rfl, rfl⟩
  | cons e events ih =>
      obtain ⟨hstep, hstage, hcalls, hentries⟩ := h.step worker node e
      obtain ⟨hrun, hstill, hlater, hlog⟩ := ih hstep
      refine ⟨hrun, hstill.trans hstage, hlater.trans hcalls, ?_⟩
      rw [World.log, hentries, hlog, List.append_nil]

theorem Attended.gone (h : Attended w) (hgone : w.isRunning = false) : Gone w :=
  ⟨hgone, (h.closed hgone).1⟩

def Unspent (w : World σ) (n : Nat) : Prop :=
  n < w.channel.tickets.length → w.channel.isKept n = true

theorem Unspent.act (h : Unspent w n) {a : World.Action} (ha : a ≠ .dropReceipt n) :
    Unspent (w.act a) n := by
  cases a with
  | submit message denom =>
      exact Channel.isKept_submit message denom h
  | dropReceipt number =>
      intro hlt
      have hother : number ≠ n := fun heq => ha (heq ▸ rfl)
      have hold : n < w.channel.tickets.length := by
        have hlength := List.length_modify (fun t : Ticket => { t with kept := false })
          w.channel.tickets number
        exact hlength ▸ hlt
      have hkept := w.channel.isKept_dropReceipt number n
      rw [h hold, Bool.true_and, decide_eq_true hother] at hkept
      exact hkept
  | shutDown => exact h
  | abort =>
      simp only [World.act]
      split
      · intro hlt
        have hlength : w.channel.abandon.tickets.length = w.channel.tickets.length :=
          w.channel.length_tickets_abandon
        exact Channel.isKept_abandon.trans (h (hlength ▸ hlt))
      · exact h

theorem Unspent.works (h : Unspent w n) (hw : World.Works worker node w entries v) :
    Unspent v n := by
  cases hw with
  | rest _ => exact h
  | close _ _ =>
      intro hlt
      have hlength := w.channel.length_tickets_close
      exact (w.channel.isKept_close n).trans (h (hlength ▸ hlt))
  | take _ _ _ => exact h
  | record _ => exact h
  | leave _ _ => exact h
  | ask _ _ _ => exact h
  | drop _ _ => exact h
  | @answer _ result r rest hstage hheld =>
      intro hlt
      have hkept := Channel.isKept_setTicket { w.channel with held := rest } r.number n
        (f := fun t => { t with reply := .given result }) fun _ => rfl
      refine hkept.trans (h ?_)
      have hlength := List.length_modify (fun t : Ticket => { t with reply := .given result })
        w.channel.tickets r.number
      exact hlength ▸ hlt

theorem unspent_of_run (w : World σ) (h : Unspent w n) {events : List World.Event}
    (hno : ∀ e ∈ events, e ≠ .action (.dropReceipt n)) :
    Unspent (w.run worker node events) n := by
  induction events generalizing w with
  | nil => exact h
  | cons e events ih =>
      obtain ⟨he, hrest⟩ := List.forall_mem_cons.1 hno
      refine ih (w.step worker node e) ?_ hrest
      cases e with
      | action a => exact h.act fun heq => he (heq ▸ rfl)
      | work => exact h.works (World.works worker node w)

end

end GasSponsor.Relay
