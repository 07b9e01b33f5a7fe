import GasSponsor.Proofs.Relay.Progress

/-!
# Receipts that are given up

A caller may give up its receipt before its request is taken, while it is relayed, or when it has
been answered. Neither the worker nor the channel looks at the receipts that are kept, so that a run
is the same, but for the receipts themselves, as the run in which all of them are kept.
-/

namespace GasSponsor.Relay

def Ticket.keep (t : Ticket) : Ticket := { t with kept := true }

namespace Channel

def keepAll (c : Channel) : Channel := { c with tickets := c.tickets.map Ticket.keep }

section

variable (c : Channel)

theorem keepAll_setTicket (n : Nat) {f g : Ticket → Ticket} (hfg : ∀ t, (f t).keep = g t.keep) :
    (c.setTicket n f).keepAll = c.keepAll.setTicket n g := by
  have htickets : (c.tickets.modify n f).map Ticket.keep =
      (c.tickets.map Ticket.keep).modify n g := by
    refine List.ext_getElem? fun k => ?_
    rw [List.getElem?_map, List.getElem?_modify, List.getElem?_modify, List.getElem?_map]
    by_cases hn : n = k
    · simp only [if_pos hn, Option.map_eq_map, Option.map_map, Function.comp_def, hfg]
    · simp only [if_neg hn, Option.map_eq_map, Option.map_id']
  exact congrArg (fun tickets => { c with tickets }) htickets

theorem keepAll_dropReceipt (n : Nat) : (c.dropReceipt n).2.keepAll = c.keepAll := by
  have hsame : c.keepAll.setTicket n id = c.keepAll :=
    congrArg (fun tickets => { c.keepAll with tickets }) (List.modify_id n c.keepAll.tickets)
  have hdropped : (c.dropReceipt n).2.keepAll = c.keepAll.setTicket n id :=
    c.keepAll_setTicket n fun _ => rfl
  exact hdropped.trans hsame

theorem submit_keepAll (message : Ethereum.Message) (denom : String) :
    c.keepAll.submit message denom =
      ((c.submit message denom).1, (c.submit message denom).2.keepAll) := by
  obtain ⟨capacity, isOpen, queue, held, tickets⟩ := c
  cases isOpen with
  | false => rfl
  | true =>
      by_cases hfull : capacity ≤ queue.length
      · simp [submit, keepAll, hfull]
      · simp [submit, keepAll, hfull, Ticket.keep]

theorem keepAll_loseAll (rs : List Request) : (c.loseAll rs).keepAll = c.keepAll.loseAll rs := by
  induction rs generalizing c with
  | nil => rfl
  | cons r rs ih =>
      have hfirst : (c.setTicket r.number lose).keepAll = c.keepAll.setTicket r.number lose :=
        c.keepAll_setTicket r.number fun _ => rfl
      exact (ih (c.setTicket r.number lose)).trans (congrArg (loseAll · rs) hfirst)

theorem keepAll_close : c.close.keepAll = c.keepAll.close :=
  congrArg (fun d => { d with isOpen := false, queue := [] }) (c.keepAll_loseAll c.queue)

theorem keepAll_abandon : c.abandon.keepAll = c.keepAll.abandon := by
  have hclosed : (c.close.loseAll c.held).keepAll = c.keepAll.close.loseAll c.held := by
    rw [keepAll_loseAll, keepAll_close]
  exact congrArg (fun d => { d with held := [] }) hclosed

theorem isKept_keepAll (n : Nat) : c.keepAll.isKept n = decide (n < c.tickets.length) := by
  unfold isKept keepAll
  rw [List.getElem?_map]
  by_cases hn : n < c.tickets.length
  · simp [hn, Ticket.keep]
  · simp [hn]

theorem reply?_keepAll (n : Nat) : c.keepAll.reply? n = c.reply? n := by
  rw [reply?, reply?, keepAll, List.getElem?_map, Option.map_map]
  rfl

/-- A receipt that is kept reads the same. -/
theorem peek_keepAll {n : Nat} (h : c.isKept n = true) : c.keepAll.peek n = c.peek n := by
  have hlt : n < c.tickets.length := c.lt_of_isKept h
  rw [peek_eq, peek_eq, reply?_keepAll, isKept_keepAll, h, decide_eq_true hlt]

end

end Channel

namespace World

/-- Whether a caller gives up its receipt. A caller that has waited does so too, with or without a
result. -/
def Event.givesUp : Event → Bool
  | .action (.dropReceipt _) => true
  | _ => false

def patient (events : List Event) : List Event := events.filter fun e => !e.givesUp

variable {σ : Type} {worker : Worker} {node : Node σ}

def keepAll (w : World σ) : World σ := { w with channel := w.channel.keepAll }

theorem keepAll_act (w : World σ) {a : Action} (h : (Event.action a).givesUp = false) :
    (w.act a).keepAll = w.keepAll.act a := by
  cases a with
  | submit message denom =>
      have hchannel := w.channel.submit_keepAll message denom
      exact congrArg (fun out : Channel.Submission × Channel => { w with channel := out.2 })
        hchannel.symm
  | dropReceipt number => cases h
  | shutDown => rfl
  | abort =>
      obtain ⟨s, channel, account, metrics, stage, shutdown, calls⟩ := w
      cases stage with
      | ended => rfl
      | aborted => rfl
      | idle | busy _ | stuck =>
          exact congrArg (fun channel => World.mk s channel account metrics .aborted shutdown calls)
            channel.keepAll_abandon

theorem keepAll_work (w : World σ) :
    (w.step worker node .work).keepAll = w.keepAll.step worker node .work := by
  obtain ⟨s, channel, account, metrics, stage, shutdown, calls⟩ := w
  match stage with
  | .ended => rfl
  | .aborted => rfl
  | .stuck => rfl
  | .idle =>
      cases shutdown with
      | true =>
          exact congrArg (fun channel => World.mk s channel account metrics .ended true calls)
            channel.keepAll_close
      | false =>
          obtain ⟨capacity, isOpen, queue, held, tickets⟩ := channel
          cases queue with
          | nil => rfl
          | cons r rest => rfl
  | .busy (.record e p) => rfl
  | .busy (.call c next) =>
      cases hnode : node s c with
      | mk reply t =>
          cases reply with
          | none => simp [step, work, keepAll, hnode]
          | some r => simp [step, work, keepAll, hnode]
  | .busy (.done (b, result)) =>
      obtain ⟨capacity, isOpen, queue, held, tickets⟩ := channel
      cases held with
      | nil => rfl
      | cons r rest =>
          have hgiven := Channel.keepAll_setTicket ⟨capacity, isOpen, queue, rest, tickets⟩ r.number
            (f := fun t => { t with reply := .given result })
            (g := fun t => { t with reply := .given result }) fun _ => rfl
          exact congrArg (fun channel => World.mk s channel b metrics .idle shutdown calls) hgiven

theorem entries_keepAll (w : World σ) (e : Event) : w.keepAll.entries node e = w.entries node e := by
  cases e with
  | work => rfl
  | action a =>
      cases a with
      | submit message denom =>
          have hsubmission := congrArg Prod.fst (w.channel.submit_keepAll message denom)
          simp only [entries]
          rw [← hsubmission]
          rfl
      | dropReceipt number => rfl
      | shutDown => rfl
      | abort => rfl

/-- A step leaves the world that it leaves if all receipts are kept, or is a receipt given up. -/
theorem keepAll_step (w : World σ) {e : Event} (h : e.givesUp = false) :
    (w.step worker node e).keepAll = w.keepAll.step worker node e := by
  cases e with
  | action a => exact w.keepAll_act h
  | work => exact w.keepAll_work

variable (worker node)

theorem keepAll_step_of_givesUp (w : World σ) {e : Event} (h : e.givesUp = true) :
    (w.step worker node e).keepAll = w.keepAll ∧ w.entries node e = [] := by
  match e with
  | .work => cases h
  | .action (.submit message denom) => cases h
  | .action .shutDown => cases h
  | .action .abort => cases h
  | .action (.dropReceipt number) =>
      exact ⟨congrArg (fun channel => { w with channel }) (w.channel.keepAll_dropReceipt number),
        rfl⟩

/-- A run leaves the world and the log of the run in which nobody gives up, but for the receipts. -/
theorem run_patient (w : World σ) (events : List Event) :
    (w.run worker node events).keepAll = w.keepAll.run worker node (patient events) ∧
      w.keepAll.log worker node (patient events) = w.log worker node events := by
  induction events generalizing w with
  | nil => exact ⟨rfl, rfl⟩
  | cons e events ih =>
      obtain ⟨hrun, hlog⟩ := ih (w.step worker node e)
      cases he : e.givesUp with
      | true =>
          have hpatient : patient (e :: events) = patient events := by simp [patient, he]
          obtain ⟨hstep, hentries⟩ := keepAll_step_of_givesUp worker node w he
          rw [hstep] at hrun hlog
          rw [hpatient]
          refine ⟨hrun, ?_⟩
          rw [hlog, log, hentries, List.nil_append]
      | false =>
          have hpatient : patient (e :: events) = e :: patient events := by simp [patient, he]
          rw [w.keepAll_step he] at hrun hlog
          rw [hpatient]
          refine ⟨hrun, ?_⟩
          rw [log, hlog, log, entries_keepAll]

/-- To wait at a receipt is to let the worker go on and to give the receipt up. -/
theorem exists_await_eq_run (w : World σ) (n : Nat) : ∃ k,
    (w.await worker node n).2 =
      w.run worker node (working k ++ [.action (.dropReceipt n)]) := by
  unfold await
  cases hpeek : w.channel.peek n with
  | gone => exact ⟨0, rfl⟩
  | resolved result => exact ⟨0, rfl⟩
  | awaited =>
      refine ⟨stepsPerRequest * (w.channel.queue.length + 2), ?_⟩
      rw [run_append, ← workFor_eq_run]
      rfl

end World

/-- Whoever gives up, before or after its request was taken or answered, makes no difference to
anybody else: the node, the calls, the account, the metrics and what happened are those of the run in
which nobody gives up, at every moment, and a receipt that is kept finds what it would find there. A
wait that ends, in time or not, is one of these ways to give up. -/
theorem giving_up_harmless {σ : Type} (worker : Worker) (node : Node σ) (s : σ) (capacity : Nat)
    (events : List World.Event) :
    let w := (World.start s capacity).run worker node events
    let v := (World.start s capacity).run worker node (World.patient events)
    (w.node = v.node ∧ w.calls = v.calls ∧ w.account = v.account ∧ w.metrics = v.metrics ∧
      w.stage = v.stage ∧ w.shutdown = v.shutdown) ∧
    (World.start s capacity).log worker node events =
      (World.start s capacity).log worker node (World.patient events) ∧
    (w.channel.queue = v.channel.queue ∧ w.channel.held = v.channel.held ∧
      w.channel.isOpen = v.channel.isOpen ∧
      w.channel.tickets.length = v.channel.tickets.length) ∧
    (∀ n < w.channel.tickets.length, v.channel.isKept n = true) ∧
    (∀ n, w.channel.isKept n = true → (w.channel.wait n).1 = (v.channel.wait n).1) ∧
    ∀ n, ∃ k, (w.await worker node n).2 =
      (World.start s capacity).run worker node
        (events ++ World.working k ++ [.action (.dropReceipt n)]) := by
  intro w v
  obtain ⟨hrun, hlog⟩ := World.run_patient worker node (World.start s capacity) events
  have hv : v = w.keepAll := hrun.symm
  rw [hv]
  refine ⟨⟨rfl, rfl, rfl, rfl, rfl, rfl⟩, hlog.symm,
    ⟨rfl, rfl, rfl, (List.length_map _).symm⟩, fun n hn => ?_, fun n hn => ?_, fun n => ?_⟩
  · exact (w.channel.isKept_keepAll n).trans (decide_eq_true hn)
  · exact (w.channel.peek_keepAll hn).symm
  · obtain ⟨k, hk⟩ := World.exists_await_eq_run worker node w n
    refine ⟨k, ?_⟩
    rw [hk, List.append_assoc, World.run_append (World.start s capacity)]

end GasSponsor.Relay
