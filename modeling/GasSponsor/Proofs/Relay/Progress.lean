import GasSponsor.Proofs.Relay.Queue

/-!
# What a worker comes to

A worker that is left to itself answers the request in hand and then those in the queue, one after
another, unless the node leaves a call unanswered or the worker has been told to stop. No request
keeps it busy for ever.
-/

namespace GasSponsor.Relay

namespace World

variable {σ : Type} (worker : Worker) (node : Node σ)

def working (n : Nat) : List Event := List.replicate n .work

theorem run_working_add (w : World σ) (n m : Nat) :
    (w.run worker node (working n)).run worker node (working m) =
      w.run worker node (working (n + m)) := by
  rw [← run_append, working, working, List.replicate_append_replicate]
  rfl

theorem run_work (w : World σ) (n : Nat) :
    (w.step worker node .work).run worker node (working n) = w.run worker node (working (n + 1)) :=
  rfl

/-- What the worker does when it is let go on is to work that many times. -/
theorem workFor_eq_run (n : Nat) (w : World σ) :
    workFor worker node n w = w.run worker node (working n) := by
  induction n generalizing w with
  | zero => rfl
  | succ n ih =>
      rw [← run_work worker node, workFor]
      cases hwork : w.work worker node with
      | some v =>
          have hstep : w.step worker node .work = v := by simp [step, hwork]
          rw [hstep]
          exact ih v
      | none =>
          -- a worker that has nothing to do now has nothing to do later
          have hstep : w.step worker node .work = w := by simp [step, hwork]
          rw [hstep, ← ih, workFor.eq_def]
          cases n with
          | zero => rfl
          | succ n => simp [hwork]

theorem exists_unbusy (p : Program (AccountState × RelayResult)) (w : World σ)
    (hstage : w.stage = .busy p) : ∃ n,
      let v := w.run worker node (working n)
      (v.stage = .idle ∨ v.stage = .stuck) ∧ v.channel.queue = w.channel.queue := by
  -- each step of the worker takes the program one node down its tree
  induction p generalizing w with
  | done result =>
      obtain ⟨s, channel, account, metrics, stage, shutdown, calls⟩ := w
      cases hstage
      refine ⟨1, .inl rfl, ?_⟩
      obtain ⟨capacity, isOpen, queue, held, tickets⟩ := channel
      cases held with
      | nil => rfl
      | cons r rest => rfl
  | record e next ih =>
      obtain ⟨s, channel, account, metrics, stage, shutdown, calls⟩ := w
      cases hstage
      obtain ⟨n, hn⟩ := ih ⟨s, channel, account, metrics.record e, .busy next, shutdown, calls⟩ rfl
      exact ⟨n + 1, hn⟩
  | call c next ih =>
      obtain ⟨s, channel, account, metrics, stage, shutdown, calls⟩ := w
      cases hstage
      cases hnode : node s c with
      | mk reply t =>
          cases reply with
          | none =>
              refine ⟨1, ?_⟩
              simp [working, run, step, work, hnode]
          | some r =>
              obtain ⟨n, hn⟩ :=
                ih r ⟨t, channel, account, metrics, .busy (next r), shutdown, calls ++ [c]⟩ rfl
              refine ⟨n + 1, ?_⟩
              rw [← run_work worker node]
              simpa only [step, work, hnode, Option.getD_some] using hn

def Settled (w : World σ) : Prop :=
  w.stage = .stuck ∨ w.isRunning = false ∨ (w.stage = .idle ∧ w.channel.queue = [])

theorem exists_settled_of_idle (k : Nat) (w : World σ) (hstage : w.stage = .idle)
    (hlength : w.channel.queue.length = k) :
    ∃ n, (w.run worker node (working n)).Settled := by
  induction k generalizing w with
  | zero => exact ⟨0, .inr (.inr ⟨hstage, List.eq_nil_of_length_eq_zero hlength⟩)⟩
  | succ k ih =>
      obtain ⟨s, ⟨capacity, isOpen, queue, held, tickets⟩, account, metrics, stage, shutdown, calls⟩
        := w
      cases hstage
      cases shutdown with
      | true => exact ⟨1, .inr (.inl rfl)⟩
      | false =>
          cases queue with
          | nil => cases hlength
          | cons r rest =>
              have hwork := exists_unbusy worker node
                (worker.relay account r.message r.denom)
                ⟨s, ⟨capacity, isOpen, rest, held ++ [r], tickets⟩, account, metrics, _, false,
                  calls⟩ rfl
              obtain ⟨n, hn | hn, hqueue⟩ := hwork
              · obtain ⟨m, hm⟩ := ih _ hn (by rw [hqueue]; exact Nat.succ.inj hlength)
                rw [run_working_add worker node] at hm
                exact ⟨n + m + 1, hm⟩
              · exact ⟨n + 1, .inl hn⟩

/-- A worker that is left to itself comes to rest. -/
theorem exists_settled (w : World σ) : ∃ n, (w.run worker node (working n)).Settled := by
  cases hstage : w.stage with
  | idle => exact exists_settled_of_idle worker node _ w hstage rfl
  | stuck => exact ⟨0, .inl hstage⟩
  | ended =>
      have hended : w.isRunning = false := by rw [isRunning, hstage]
      exact ⟨0, .inr (.inl hended)⟩
  | aborted =>
      have haborted : w.isRunning = false := by rw [isRunning, hstage]
      exact ⟨0, .inr (.inl haborted)⟩
  | busy p =>
      obtain ⟨n, hn | hn, _⟩ := exists_unbusy worker node p w hstage
      · obtain ⟨m, hm⟩ := exists_settled_of_idle worker node _ _ hn rfl
        rw [run_working_add worker node] at hm
        exact ⟨n + m, hm⟩
      · exact ⟨n, .inl hn⟩

end World

section

variable {σ : Type} {worker : Worker} {w : World σ} {log : List Entry}

/-- A worker at rest has answered everything that entered its queue. -/
theorem all_answered (hlogged : Logged worker w log) (hordered : Ordered w log)
    (hstage : w.stage = .idle) (hqueue : w.channel.queue = []) :
    (dealings log).map Dealing.request = enqueued log ∧
      ∀ d ∈ dealings log, ∃ result, d.result = some result := by
  constructor
  · obtain ⟨lost, henqueued, hlost⟩ := hordered.places
    rw [hlost (hordered.isOpen (isRunning_of_idle hstage)), hqueue, List.append_nil,
      List.append_nil] at henqueued
    rw [henqueued, map_request_dealings]
  · intro d hd
    exact Option.ne_none_iff_exists'.1 (hlogged.result_ne_none (.inl hstage) hd)

end

/-- A worker that is left to itself answers everything, unless it waits for the node in vain or has
stopped. -/
theorem exists_all_answered {σ : Type} (worker : Worker) (node : Node σ) (s : σ) (capacity : Nat)
    (events : List World.Event) : ∃ n,
      let w := (World.start s capacity).run worker node (events ++ World.working n)
      let log := (World.start s capacity).log worker node (events ++ World.working n)
      w.stage = .stuck ∨ w.isRunning = false ∨
        ((dealings log).map Dealing.request = enqueued log ∧
          ∀ d ∈ dealings log, ∃ result, d.result = some result) := by
  obtain ⟨n, hn⟩ := World.exists_settled worker node
    ((World.start s capacity).run worker node events)
  rw [← World.run_append] at hn
  rcases hn with hstuck | hended | ⟨hidle, hqueue⟩
  · exact ⟨n, .inl hstuck⟩
  · exact ⟨n, .inr (.inl hended)⟩
  · exact ⟨n, .inr (.inr (all_answered (logged worker node s capacity _)
      (ordered worker node s capacity _) hidle hqueue))⟩

end GasSponsor.Relay
