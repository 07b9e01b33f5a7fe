import Mathlib.Data.List.ModifyLast
import GasSponsor.Relay.World
import GasSponsor.Proofs.Relay.Account
import GasSponsor.Proofs.Relay.Channel

/-!
# The history of a run

The log of a run lists what happened: requests that entered the queue, requests that the worker
took, calls with their answers, and replies. A dealing gathers what was done about one request. In
every run each dealing but the last is a whole transcript of its request, begun with the account
that the one before it left, and the last may have been interrupted anywhere.
-/

namespace GasSponsor.Relay

open Program

inductive Entry
  | enqueued (r : Request)
  | taken (r : Request)
  | exchanged (x : Exchange)
  | answered (r : Request) (result : RelayResult)

namespace Entry

def enqueued? : Entry → Option Request
  | enqueued r => some r
  | _ => none

def taken? : Entry → Option Request
  | taken r => some r
  | _ => none

def exchange? : Entry → Option Exchange
  | exchanged x => some x
  | _ => none

end Entry

/-- A request that the worker took, with the calls made for it and the result told to its caller. -/
structure Dealing where
  request : Request
  exchanges : List Exchange
  result : Option RelayResult

def Dealing.next (ds : List Dealing) : Entry → List Dealing
  | .enqueued _ => ds
  | .taken r => ds ++ [⟨r, [], none⟩]
  | .exchanged x => ds.modifyLast fun d => { d with exchanges := d.exchanges ++ [x] }
  | .answered _ result => ds.modifyLast fun d => { d with result := some result }

def dealings (log : List Entry) : List Dealing := log.foldl Dealing.next []

def exchanges (log : List Entry) : List Exchange := log.filterMap Entry.exchange?

def enqueued (log : List Entry) : List Request := log.filterMap Entry.enqueued?

namespace World

variable {σ : Type} (worker : Worker) (node : Node σ)

def entries (w : World σ) : Event → List Entry
  | .action (.submit message denom) =>
    match (w.channel.submit message denom).1 with
    | .accepted number => [.enqueued ⟨number, message, denom⟩]
    | _ => []
  | .action _ => []
  | .work =>
    match w.stage with
    | .idle => if w.shutdown then [] else w.channel.queue.head?.toList.map .taken
    | .busy (.call c _) => [.exchanged ⟨c, (node w.node c).1⟩]
    | .busy (.done (_, result)) => w.channel.held.head?.toList.map (.answered · result)
    | _ => []

def log (w : World σ) : List Event → List Entry
  | [] => []
  | e :: events => w.entries node e ++ log (w.step worker node e) events

variable {worker node}

theorem run_append (w : World σ) (events more : List Event) :
    w.run worker node (events ++ more) = (w.run worker node events).run worker node more :=
  List.foldl_append

theorem log_append (w : World σ) (events more : List Event) :
    w.log worker node (events ++ more) =
      w.log worker node events ++ (w.run worker node events).log worker node more := by
  induction events generalizing w with
  | nil => rfl
  | cons e events ih =>
      rw [List.cons_append, log, log, ih, List.append_assoc]
      rfl

/-- What holds at the start and is kept by every step holds of every run and its log. -/
theorem run_induction {P : World σ → List Entry → Prop} {w : World σ} (start : P w [])
    (step : ∀ v log e, P v log → P (v.step worker node e) (log ++ v.entries node e))
    (events : List Event) : P (w.run worker node events) (w.log worker node events) := by
  have hrun : ∀ (events : List Event) (v : World σ) (log : List Entry), P v log →
      P (v.run worker node events) (log ++ v.log worker node events) := by
    intro events
    induction events with
    | nil =>
        intro v log h
        rw [World.log, List.append_nil]
        exact h
    | cons e events ih =>
        intro v log h
        rw [World.log, ← List.append_assoc]
        exact ih _ _ (step v log e h)
  exact hrun events w [] start

inductive Works (worker : Worker) (node : Node σ) : World σ → List Entry → World σ → Prop
  | rest {w : World σ} (h : w.work worker node = none) : Works worker node w [] w
  | close {w : World σ} (hstage : w.stage = .idle) (hshut : w.shutdown = true) :
      Works worker node w [] { w with stage := .ended, channel := w.channel.close }
  | take {w : World σ} {r : Request} {rest : List Request} (hstage : w.stage = .idle)
      (hshut : w.shutdown = false) (hqueue : w.channel.queue = r :: rest) :
      Works worker node w [.taken r] { w with
        channel := { w.channel with queue := rest, held := w.channel.held ++ [r] }
        stage := .busy (worker.relay w.account r.message r.denom) }
  | record {w : World σ} {e : Metrics.Event} {p : Program (AccountState × RelayResult)}
      (hstage : w.stage = .busy (.record e p)) :
      Works worker node w [] { w with metrics := w.metrics.record e, stage := .busy p }
  | leave {w : World σ} {c : Call}
      {next : GasSponsor.Reply c → Program (AccountState × RelayResult)} {s : σ}
      (hstage : w.stage = .busy (.call c next)) (hnode : node w.node c = (none, s)) :
      Works worker node w [.exchanged ⟨c, none⟩]
        { w with node := s, calls := w.calls ++ [c], stage := .stuck }
  | ask {w : World σ} {c : Call}
      {next : GasSponsor.Reply c → Program (AccountState × RelayResult)} {s : σ}
      (r : GasSponsor.Reply c) (hstage : w.stage = .busy (.call c next))
      (hnode : node w.node c = (some r, s)) :
      Works worker node w [.exchanged ⟨c, some r⟩]
        { w with node := s, calls := w.calls ++ [c], stage := .busy (next r) }
  | answer {w : World σ} {account : AccountState} {result : RelayResult} {r : Request}
      {rest : List Request} (hstage : w.stage = .busy (.done (account, result)))
      (hheld : w.channel.held = r :: rest) :
      Works worker node w [.answered r result] { w with
        account
        channel := { w.channel with held := rest }.setTicket r.number
          fun t => { t with reply := .given result }
        stage := .idle }
  | drop {w : World σ} {account : AccountState} {result : RelayResult}
      (hstage : w.stage = .busy (.done (account, result))) (hheld : w.channel.held = []) :
      Works worker node w [] { w with account, stage := .idle }

theorem works (worker : Worker) (node : Node σ) (w : World σ) :
    Works worker node w (w.entries node .work) (w.step worker node .work) := by
  obtain ⟨s, channel, account, metrics, stage, shutdown, calls⟩ := w
  match stage with
  | .ended => exact .rest rfl
  | .aborted => exact .rest rfl
  | .stuck => exact .rest rfl
  | .idle =>
      cases shutdown with
      | true => exact .close rfl rfl
      | false =>
          obtain ⟨capacity, isOpen, queue, held, tickets⟩ := channel
          cases queue with
          | nil => exact .rest rfl
          | cons r rest => exact .take rfl rfl rfl
  | .busy (.record e p) => exact .record rfl
  | .busy (.call c next) =>
      cases hnode : node s c with
      | mk reply s' =>
          cases reply with
          | none =>
              simp only [entries, step, work, hnode]
              exact .leave rfl hnode
          | some r =>
              simp only [entries, step, work, hnode]
              exact .ask r rfl hnode
  | .busy (.done (b, result)) =>
      obtain ⟨capacity, isOpen, queue, held, tickets⟩ := channel
      cases held with
      | nil => exact .drop rfl rfl
      | cons r rest => exact .answer rfl rfl

end World

section Dealings

variable {worker : Worker}

def Dealing.Finished (worker : Worker) (d : Dealing) (a b : AccountState) : Prop :=
  ∃ result, d.result = some result ∧
    Completes (worker.relay a d.request.message d.request.denom) d.exchanges (b, result)

def Dealing.Reaches (worker : Worker) (d : Dealing) (a : AccountState)
    (p : Program (AccountState × RelayResult)) : Prop :=
  d.result = none ∧ Follows (worker.relay a d.request.message d.request.denom) d.exchanges p

def Dealing.Left (worker : Worker) (d : Dealing) (a : AccountState) : Prop :=
  d.result = none ∧ ∃ xs c next, d.exchanges = xs ++ [⟨c, none⟩] ∧
    Follows (worker.relay a d.request.message d.request.denom) xs (.call c next)

/-- Dealings brought to their ends one after another, with the account that they leave. -/
inductive AllFinished (worker : Worker) : List Dealing → AccountState → Prop
  | nil : AllFinished worker [] .initial
  | snoc {ds : List Dealing} {a b : AccountState} {d : Dealing} (h : AllFinished worker ds a)
      (hd : d.Finished worker a b) : AllFinished worker (ds ++ [d]) b

/-- The worker's stage and account are what its dealings make of them. -/
def Recorded {σ : Type} (worker : Worker) (w : World σ) (ds : List Dealing) : Prop :=
  match w.stage with
  | .idle | .ended => AllFinished worker ds w.account ∧ w.channel.held = []
  | .busy p => ∃ front d, ds = front ++ [d] ∧ AllFinished worker front w.account ∧
      d.Reaches worker w.account p ∧ w.channel.held = [d.request]
  | .stuck => ∃ front d, ds = front ++ [d] ∧ AllFinished worker front w.account ∧
      d.Left worker w.account ∧ w.channel.held = [d.request]
  | .aborted => w.channel.held = [] ∧ (AllFinished worker ds w.account ∨
      ∃ front d, ds = front ++ [d] ∧ AllFinished worker front w.account ∧
        ((∃ p, d.Reaches worker w.account p) ∨ d.Left worker w.account))

inductive Dealing.Begun (worker : Worker) (d : Dealing) (a : AccountState) : Prop
  | finished {b : AccountState} (h : d.Finished worker a b)
  | reaches {p : Program (AccountState × RelayResult)} (h : d.Reaches worker a p)
  | left (h : d.Left worker a)

/-- A dealing had come to each of its calls, answered or not. -/
theorem Dealing.Begun.exists_call {d : Dealing} {a : AccountState} (h : d.Begun worker a)
    {older newer : List Exchange} {x : Exchange} (hd : d.exchanges = older ++ x :: newer) :
    ∃ next, Follows (worker.relay a d.request.message d.request.denom) older
      (.call x.call next) := by
  cases h with
  | finished h =>
      obtain ⟨_, _, hcompletes⟩ := h
      rw [hd] at hcompletes
      exact Follows.exists_call hcompletes
  | reaches h =>
      have hfollows := h.2
      rw [hd] at hfollows
      exact hfollows.exists_call
  | left h =>
      obtain ⟨_, xs, c, next, hxs, hfollows⟩ := h
      rw [hxs] at hd
      induction newer using List.reverseRecOn with
      | nil =>
          obtain ⟨rfl, hlast⟩ := List.append_inj' hd rfl
          cases hlast
          exact ⟨next, hfollows⟩
      | append_singleton newer _ _ =>
          rw [← List.cons_append, ← List.append_assoc] at hd
          obtain ⟨rfl, _⟩ := List.append_inj' hd rfl
          exact hfollows.exists_call

theorem AllFinished.exists_front {front back : List Dealing} {d : Dealing} {c : AccountState}
    (h : AllFinished worker (front ++ d :: back) c) :
    ∃ a b, AllFinished worker front a ∧ d.Finished worker a b := by
  induction back using List.reverseRecOn generalizing c with
  | nil =>
      generalize hds : front ++ [d] = ds at h
      cases h with
      | nil => simp at hds
      | snoc h hd =>
          obtain ⟨rfl, hlast⟩ := List.append_inj' hds rfl
          cases hlast
          exact ⟨_, _, h, hd⟩
  | append_singleton back e ih =>
      rw [← List.cons_append, ← List.append_assoc] at h
      generalize hds : front ++ d :: back ++ [e] = ds at h
      cases h with
      | nil => simp at hds
      | snoc h _ =>
          obtain ⟨rfl, _⟩ := List.append_inj' hds rfl
          exact ih h

theorem AllFinished.exists_result {ds : List Dealing} {a : AccountState}
    (h : AllFinished worker ds a) {d : Dealing} (hd : d ∈ ds) :
    ∃ result, d.result = some result := by
  obtain ⟨front, back, rfl⟩ := List.append_of_mem hd
  obtain ⟨_, _, _, result, hresult, _⟩ := h.exists_front
  exact ⟨result, hresult⟩

theorem begun_of_last {front before after : List Dealing} {d e : Dealing} {a : AccountState}
    (hds : before ++ e :: after = front ++ [d]) (hfront : AllFinished worker front a)
    (hd : d.Begun worker a) : ∃ b, AllFinished worker before b ∧ e.Begun worker b := by
  induction after using List.reverseRecOn with
  | nil =>
      obtain ⟨rfl, hlast⟩ := List.append_inj' hds rfl
      cases hlast
      exact ⟨a, hfront, hd⟩
  | append_singleton after _ _ =>
      rw [← List.cons_append, ← List.append_assoc] at hds
      obtain ⟨rfl, _⟩ := List.append_inj' hds rfl
      obtain ⟨b, _, hbefore, he⟩ := hfront.exists_front
      exact ⟨b, hbefore, .finished he⟩

/-- Every dealing was begun with the account that those before it left. -/
theorem Recorded.begun {σ : Type} {w : World σ} {front back : List Dealing} {d : Dealing}
    (h : Recorded worker w (front ++ d :: back)) :
    ∃ a, AllFinished worker front a ∧ d.Begun worker a := by
  unfold Recorded at h
  split at h
  · obtain ⟨a, _, hfront, hd⟩ := h.1.exists_front
    exact ⟨a, hfront, .finished hd⟩
  · obtain ⟨a, _, hfront, hd⟩ := h.1.exists_front
    exact ⟨a, hfront, .finished hd⟩
  · obtain ⟨_, _, hds, hfront, hd, _⟩ := h
    exact begun_of_last hds hfront (.reaches hd)
  · obtain ⟨_, _, hds, hfront, hd, _⟩ := h
    exact begun_of_last hds hfront (.left hd)
  · rcases h.2 with hds | ⟨_, _, hds, hfront, ⟨p, hd⟩ | hd⟩
    · obtain ⟨a, _, hfront, hd⟩ := hds.exists_front
      exact ⟨a, hfront, .finished hd⟩
    · exact begun_of_last hds hfront (.reaches hd)
    · exact begun_of_last hds hfront (.left hd)

theorem dealings_snoc (log : List Entry) (e : Entry) :
    dealings (log ++ [e]) = Dealing.next (dealings log) e :=
  List.foldl_append

theorem Recorded.congr {σ : Type} {w v : World σ} {ds : List Dealing} (h : Recorded worker w ds)
    (hstage : v.stage = w.stage) (haccount : v.account = w.account)
    (hheld : v.channel.held = w.channel.held) : Recorded worker v ds := by
  unfold Recorded at h ⊢
  rw [hstage, haccount, hheld]
  exact h

theorem Recorded.abort {σ : Type} {w : World σ} {ds : List Dealing} (h : Recorded worker w ds) :
    Recorded worker (w.act .abort) ds := by
  cases hstage : w.stage with
  | ended =>
      simp only [World.act, World.isRunning, hstage, Bool.false_eq_true, if_false]
      exact h
  | aborted =>
      simp only [World.act, World.isRunning, hstage, Bool.false_eq_true, if_false]
      exact h
  | idle =>
      simp only [Recorded, hstage] at h
      simp only [World.act, World.isRunning, hstage, if_true]
      exact ⟨rfl, .inl h.1⟩
  | busy p =>
      simp only [Recorded, hstage] at h
      obtain ⟨front, d, hds, hfront, hd, _⟩ := h
      simp only [World.act, World.isRunning, hstage, if_true]
      exact ⟨rfl, .inr ⟨front, d, hds, hfront, .inl ⟨p, hd⟩⟩⟩
  | stuck =>
      simp only [Recorded, hstage] at h
      obtain ⟨front, d, hds, hfront, hd, _⟩ := h
      simp only [World.act, World.isRunning, hstage, if_true]
      exact ⟨rfl, .inr ⟨front, d, hds, hfront, .inr hd⟩⟩

theorem Recorded.act {σ : Type} {w : World σ} {ds : List Dealing} (h : Recorded worker w ds)
    (a : World.Action) : Recorded worker (w.act a) ds := by
  cases a with
  | submit message denom => exact h.congr rfl rfl (Channel.submit_held _ _ _)
  | dropReceipt number => exact h.congr rfl rfl rfl
  | shutDown => exact h.congr rfl rfl rfl
  | abort => exact h.abort

theorem Recorded.works {σ : Type} {node : Node σ} {w v : World σ} {entries : List Entry}
    {log : List Entry} (h : Recorded worker w (dealings log))
    (hw : World.Works worker node w entries v) : Recorded worker v (dealings (log ++ entries)) := by
  cases hw with
  | rest _ => simpa using h
  | close hstage _ =>
      rw [List.append_nil]
      rw [Recorded, hstage] at h
      exact ⟨h.1, (Channel.close_held _).trans h.2⟩
  | take hstage _ hqueue =>
      rw [Recorded, hstage] at h
      obtain ⟨hds, hheld⟩ := h
      rw [dealings_snoc]
      refine ⟨dealings log, _, rfl, hds, ⟨rfl, .nothing _⟩, ?_⟩
      simp only [hheld, List.nil_append]
  | record hstage =>
      rw [Recorded, hstage] at h
      obtain ⟨front, d, hds, hfront, ⟨hresult, hfollows⟩, hheld⟩ := h
      rw [List.append_nil]
      exact ⟨front, d, hds, hfront, ⟨hresult, hfollows.of_record⟩, hheld⟩
  | leave hstage _ =>
      rw [Recorded, hstage] at h
      obtain ⟨front, d, hds, hfront, ⟨hresult, hfollows⟩, hheld⟩ := h
      rw [dealings_snoc, hds, Dealing.next, List.modifyLast_concat]
      exact ⟨front, _, rfl, hfront, ⟨hresult, _, _, _, rfl, hfollows⟩, hheld⟩
  | ask r hstage _ =>
      rw [Recorded, hstage] at h
      obtain ⟨front, d, hds, hfront, ⟨hresult, hfollows⟩, hheld⟩ := h
      rw [dealings_snoc, hds, Dealing.next, List.modifyLast_concat]
      exact ⟨front, _, rfl, hfront, ⟨hresult, hfollows.snoc r⟩, hheld⟩
  | answer hstage hqueue =>
      rw [Recorded, hstage] at h
      obtain ⟨front, d, hds, hfront, ⟨hresult, hfollows⟩, hheld⟩ := h
      rw [dealings_snoc, hds, Dealing.next, List.modifyLast_concat]
      refine ⟨hfront.snoc ⟨_, rfl, hfollows⟩, ?_⟩
      rw [hheld] at hqueue
      cases hqueue
      rfl
  | drop hstage hqueue =>
      rw [Recorded, hstage] at h
      obtain ⟨_, _, _, _, _, hheld⟩ := h
      rw [hheld] at hqueue
      cases hqueue

theorem dealings_enqueued {σ : Type} {node : Node σ} (w : World σ) (log : List Entry)
    (a : World.Action) : dealings (log ++ w.entries node (.action a)) = dealings log := by
  cases a with
  | submit message denom =>
      simp only [World.entries]
      split
      · rw [dealings_snoc, Dealing.next]
      · rw [List.append_nil]
  | dropReceipt number => simp only [World.entries, List.append_nil]
  | shutDown => simp only [World.entries, List.append_nil]
  | abort => simp only [World.entries, List.append_nil]

theorem exchanges_append (log more : List Entry) :
    exchanges (log ++ more) = exchanges log ++ exchanges more :=
  List.filterMap_append

theorem exchanges_actions {σ : Type} {node : Node σ} (w : World σ) (a : World.Action) :
    exchanges (w.entries node (.action a)) = [] := by
  cases a with
  | submit message denom =>
      simp only [World.entries]
      split <;> rfl
  | dropReceipt number => rfl
  | shutDown => rfl
  | abort => rfl

theorem calls_works {σ : Type} {node : Node σ} {w v : World σ} {entries : List Entry}
    (hw : World.Works worker node w entries v) :
    v.calls = w.calls ++ (exchanges entries).map Exchange.call := by
  cases hw with
  | leave _ _ | ask _ _ _ => rfl
  | rest _ | close _ _ | take _ _ _ | record _ | answer _ _ | drop _ _ =>
      exact (List.append_nil _).symm

theorem act_calls {σ : Type} (w : World σ) (a : World.Action) : (w.act a).calls = w.calls := by
  cases a with
  | submit message denom => rfl
  | dropReceipt number => rfl
  | shutDown => rfl
  | abort =>
      simp only [World.act]
      split <;> rfl

/-- The log has every call that was made, in order. -/
theorem calls_eq {σ : Type} (worker : Worker) (node : Node σ) (s : σ) (capacity : Nat)
    (events : List World.Event) :
    ((World.start s capacity).run worker node events).calls =
      (exchanges ((World.start s capacity).log worker node events)).map Exchange.call := by
  refine World.run_induction (P := fun w log => w.calls = (exchanges log).map Exchange.call) rfl ?_
    events
  intro v log e h
  rw [exchanges_append, List.map_append, ← h]
  cases e with
  | action a =>
      rw [exchanges_actions]
      exact (act_calls v a).trans (List.append_nil _).symm
  | work => exact calls_works (World.works worker node v)

/-- The request that keeps a worker busy is in hand, and is the one dealt with last. -/
theorem Recorded.exists_hand {σ : Type} {w : World σ} {ds : List Dealing}
    {p : Program (AccountState × RelayResult)} (h : Recorded worker w ds)
    (hstage : w.stage = .busy p) :
    ∃ front d, ds = front ++ [d] ∧ d.result = none ∧ w.channel.held = [d.request] := by
  rw [Recorded, hstage] at h
  obtain ⟨front, d, hds, _, hreaches, hheld⟩ := h
  exact ⟨front, d, hds, hreaches.1, hheld⟩

theorem exchanges_works {σ : Type} {node : Node σ} {w v : World σ} {entries : List Entry}
    {log : List Entry} (h : Recorded worker w (dealings log))
    (hlog : exchanges log = (dealings log).flatMap Dealing.exchanges)
    (hw : World.Works worker node w entries v) :
    exchanges (log ++ entries) = (dealings (log ++ entries)).flatMap Dealing.exchanges := by
  rw [exchanges_append, hlog]
  cases hw with
  | rest _ | close _ _ | record _ | drop _ _ => simp [exchanges]
  | take _ _ _ => simp [exchanges, Entry.exchange?, dealings_snoc, Dealing.next]
  | leave hstage _ | ask _ hstage _ | answer hstage _ =>
      obtain ⟨front, d, hds, _⟩ := h.exists_hand hstage
      rw [dealings_snoc, hds, Dealing.next, List.modifyLast_concat]
      simp [exchanges, Entry.exchange?]

/-- The log tells what the worker is doing, and every call in it belongs to a dealing. -/
structure Logged {σ : Type} (worker : Worker) (w : World σ) (log : List Entry) : Prop where
  recorded : Recorded worker w (dealings log)
  exchanges_eq : exchanges log = (dealings log).flatMap Dealing.exchanges

theorem logged_start {σ : Type} (worker : Worker) (s : σ) (capacity : Nat) :
    Logged worker (World.start s capacity) [] :=
  ⟨⟨.nil, rfl⟩, rfl⟩

theorem Logged.step {σ : Type} {node : Node σ} {w : World σ} {log : List Entry}
    (h : Logged worker w log) (e : World.Event) :
    Logged worker (w.step worker node e) (log ++ w.entries node e) := by
  cases e with
  | action a =>
      refine ⟨?_, ?_⟩
      · rw [dealings_enqueued]
        exact h.recorded.act a
      · rw [exchanges_append, exchanges_actions, List.append_nil, dealings_enqueued]
        exact h.exchanges_eq
  | work =>
      have hw := World.works worker node w
      exact ⟨h.recorded.works hw, exchanges_works h.recorded h.exchanges_eq hw⟩

theorem logged {σ : Type} (worker : Worker) (node : Node σ) (s : σ) (capacity : Nat)
    (events : List World.Event) :
    Logged worker ((World.start s capacity).run worker node events)
      ((World.start s capacity).log worker node events) :=
  World.run_induction (logged_start worker s capacity) (fun _ _ e h => h.step e) events

/-- A worker that has no request in hand has answered all that it took. -/
theorem Logged.result_ne_none {σ : Type} {w : World σ} {log : List Entry} (h : Logged worker w log)
    (hstage : w.stage = .idle ∨ w.stage = .ended) {d : Dealing} (hd : d ∈ dealings log) :
    d.result ≠ none := by
  have hrecorded := h.recorded
  rw [Recorded] at hrecorded
  refine Option.ne_none_iff_exists'.2 ?_
  rcases hstage with hstage | hstage
  · rw [hstage] at hrecorded
    exact hrecorded.1.exists_result hd
  · rw [hstage] at hrecorded
    exact hrecorded.1.exists_result hd

end Dealings

end GasSponsor.Relay
