import GasSponsor.Proofs.Relay.Conservation
import GasSponsor.Proofs.Relay.Receipts

/-!
# What others do with a channel

Between two looks of a caller at the channel the others may do anything with it, as long as they leave
the caller its receipt. The caller then finds the answer that its request was given since it entered,
or that it was dropped, or that it is still waited for. A relay worker does nothing to a channel but
receive, answer and close, so that its channel is always one that was made by operations.
-/

namespace GasSponsor.Relay

namespace Channel

def Operation.receipt? : Operation → Option Nat
  | .dropReceipt number => some number
  | .wait number => some number
  | _ => none

theorem performAll_append (c : Channel) (operations more : List Operation) :
    c.performAll (operations ++ more) = (c.performAll operations).performAll more :=
  List.foldl_append

theorem receipt?_of_spent {c : Channel} {o : Operation} {n : Nat}
    (h : (c.perform o).1.spent? = some n) : o.receipt? = some n := by
  cases o with
  | submit message denom => cases h
  | receive =>
      rw [perform] at h
      split at h <;> cases h
  | reply number result =>
      rw [perform] at h
      split at h <;> cases h
  | discard number =>
      rw [perform] at h
      split at h <;> cases h
  | dropReceipt number =>
      change (Use.released number (c.isKept number)).spent? = some n at h
      cases hkept : c.isKept number with
      | false =>
          rw [hkept] at h
          cases h
      | true =>
          rw [hkept] at h
          exact h
  | wait number =>
      change (Use.waited number (c.peek number)).spent? = some n at h
      cases hpeek : c.peek number with
      | gone =>
          rw [hpeek] at h
          cases h
      | resolved result =>
          rw [hpeek] at h
          exact h
      | awaited =>
          rw [hpeek] at h
          exact h
  | close => cases h

theorem not_mem_spent_history {c : Channel} {operations : List Operation} {n : Nat}
    (h : ∀ o ∈ operations, o.receipt? ≠ some n) : n ∉ spent (c.history operations) := by
  induction operations generalizing c with
  | nil => exact List.not_mem_nil
  | cons o operations ih =>
      intro hn
      obtain ⟨u, hu, hspent⟩ := List.mem_filterMap.1 hn
      rcases List.mem_cons.1 hu with rfl | hu
      · exact h o List.mem_cons_self (receipt?_of_spent hspent)
      · exact ih (fun o ho => h o (List.mem_cons_of_mem _ ho))
          (List.mem_filterMap.2 ⟨u, hu, hspent⟩)

theorem place?_eq_answered {past : List Use} {n : Nat} {result : RelayResult} :
    place? past n = some (.answered result) ↔
      n ∈ (received past).map Request.number ∧ (answers past).lookup n = some result := by
  rw [place?]
  by_cases hreceived : n ∈ (received past).map Request.number
  · rw [if_pos hreceived]
    cases (answers past).lookup n with
    | some other => simp [hreceived]
    | none => by_cases hdropped : n ∈ dropped past <;> simp [hdropped]
  · rw [if_neg hreceived]
    split
    · cases isClosed past <;> simp [hreceived]
    · simp [hreceived]

theorem lookup_eq_some_iff {α : Type} {l : List (Nat × α)} (h : (l.map Prod.fst).Nodup) {n : Nat}
    {x : α} : l.lookup n = some x ↔ (n, x) ∈ l := by
  induction l with
  | nil => simp
  | cons p l ih =>
      obtain ⟨k, y⟩ := p
      obtain ⟨hk, hl⟩ := List.nodup_cons.1 h
      by_cases heq : n = k
      · subst heq
        rw [List.lookup_cons_self, List.mem_cons, Option.some.injEq, Prod.mk.injEq]
        constructor
        · exact fun hx => .inl ⟨rfl, hx.symm⟩
        · rintro (⟨_, hx⟩ | hmem)
          · exact hx.symm
          · exact absurd (List.mem_map_of_mem hmem) hk
      · rw [List.lookup_cons, beq_false_of_ne heq, List.mem_cons, Prod.mk.injEq]
        simp only [heq, false_and, false_or]
        exact ih hl

section

variable {capacity : Nat} {c d : Channel} {past : List Use} {n : Nat} {message : Ethereum.Message}
  {denom : String} {wait : List Operation}

/-- The caller of a request that entered finds what became of it since, if the others leave it its
receipt. -/
theorem Conserved.fate (h : Conserved capacity c past)
    (hn : n ∉ (accepted past).map Request.number)
    (hentered : Conserved capacity d (past ++ [.submitted message denom (.accepted n)]))
    (hwait : ∀ o ∈ wait, o.receipt? ≠ some n) :
    ∃ place,
      place? (past ++ .submitted message denom (.accepted n) :: d.history wait) n = some place ∧
      (d.performAll wait).peek n = place.waiting ∧
      ∀ result, place = .answered result ↔ (n, result) ∈ answers (d.history wait) := by
  obtain ⟨hlast, -⟩ := hentered.performAll wait
  rw [List.append_assoc, List.singleton_append] at hlast
  have hreceived : n ∉ (received past).map Request.number := fun hmem =>
    hn (h.received_accepted n hmem)
  have hkept : Kept (past ++ .submitted message denom (.accepted n) :: d.history wait) n := by
    refine ⟨?_, ?_⟩
    · simp [accepted]
    · have hpast : n ∉ spent past := fun hmem => hn (h.spent_accepted n hmem)
      have hsince : n ∉ spent (d.history wait) := not_mem_spent_history hwait
      rw [spent, List.filterMap_append, List.filterMap_cons_none rfl, List.mem_append, not_or]
      exact ⟨hpast, hsince⟩
  have hanswers : answers (past ++ .submitted message denom (.accepted n) :: d.history wait) =
      answers past ++ answers (d.history wait) := by
    rw [answers, List.filterMap_append, List.filterMap_cons_none rfl, answers, answers]
  rcases hlast.peek_eq with ⟨hgone, -⟩ | ⟨-, place, hplace, hpeek⟩
  · exact absurd hkept hgone
  refine ⟨place, hplace, hpeek, fun result => ?_⟩
  have hnodup := (List.nodup_append.1 hlast.dealt_nodup).1
  have hbefore : (n, result) ∉ answers past := fun hmem =>
    hreceived (h.dealt_received n (mem_dealt.2 (.inl (List.mem_map_of_mem hmem))))
  constructor
  · rintro rfl
    have hmem := (lookup_eq_some_iff hnodup).1 (place?_eq_answered.1 hplace).2
    rw [hanswers] at hmem
    exact (List.mem_append.1 hmem).resolve_left hbefore
  · intro hmem
    have hall : (n, result) ∈
        answers (past ++ .submitted message denom (.accepted n) :: d.history wait) := by
      rw [hanswers]
      exact List.mem_append_right _ hmem
    have hdealt := hlast.dealt_received n (mem_dealt.2 (.inl (List.mem_map_of_mem hall)))
    have hanswered := place?_eq_answered.2 ⟨hdealt, (lookup_eq_some_iff hnodup).2 hall⟩
    exact Option.some.inj (hplace.symm.trans hanswered)

end

theorem discardAll_eq (c : Channel) (held : List Request) :
    ({ c with held } : Channel).performAll (held.map fun r => .discard r.number) =
      { c.loseAll held with held := [] } := by
  induction held generalizing c with
  | nil => rfl
  | cons r held ih =>
      have hfirst : (({ c with held := r :: held } : Channel).perform (.discard r.number)).2 =
          { c.setTicket r.number lose with held } := by
        rw [perform, if_pos (by simp), discardOf, List.eraseP_cons_of_pos (by simp)]
        rfl
      rw [List.map_cons, performAll, List.foldl_cons, hfirst]
      exact ih (c.setTicket r.number lose)

/-- To abandon a channel is to close it and to drop what is held. -/
theorem abandon_eq (c : Channel) :
    c.abandon = c.performAll (.close :: c.held.map fun r => .discard r.number) := by
  have hdiscard := discardAll_eq c.close c.held
  have hclose : ({ c.close with held := c.held } : Channel) = c.close := by
    rw [← c.close_held]
  rw [hclose] at hdiscard
  exact hdiscard.symm

end Channel

namespace World

open Channel (Operation)

variable {σ : Type} {worker : Worker} {node : Node σ}

/-- What the worker does to the channel are operations of a receiver. -/
theorem Works.exists_operations {w v : World σ} {entries : List Entry}
    (h : Works worker node w entries v) : ∃ operations : List Operation,
      v.channel = w.channel.performAll operations ∧ ∀ o ∈ operations, o.receipt? = none := by
  cases h with
  | rest _ => exact ⟨[], rfl, by simp⟩
  | close _ _ => exact ⟨[.close], rfl, by simp [Operation.receipt?]⟩
  | take _ _ hqueue =>
      refine ⟨[.receive], ?_, by simp [Operation.receipt?]⟩
      simp [Channel.performAll, Channel.perform, Channel.receive, hqueue]
  | record _ => exact ⟨[], rfl, by simp⟩
  | leave _ _ => exact ⟨[], rfl, by simp⟩
  | ask _ _ _ => exact ⟨[], rfl, by simp⟩
  | @answer _ result r rest _ hheld =>
      refine ⟨[.reply r.number result], ?_, by simp [Operation.receipt?]⟩
      simp [Channel.performAll, Channel.perform, Channel.replyTo, hheld]
  | drop _ _ => exact ⟨[], rfl, by simp⟩

theorem exists_operations_act (w : World σ) (a : Action) : ∃ operations : List Operation,
    (w.act a).channel = w.channel.performAll operations ∧
      ∀ n, a ≠ .dropReceipt n → ∀ o ∈ operations, o.receipt? ≠ some n := by
  cases a with
  | submit message denom =>
      exact ⟨[.submit message denom], rfl, by simp [Operation.receipt?]⟩
  | dropReceipt number => exact ⟨[.dropReceipt number], rfl, by simp [Operation.receipt?]⟩
  | shutDown => exact ⟨[], rfl, by simp⟩
  | abort =>
      rw [act]
      split
      · refine ⟨_, Channel.abandon_eq w.channel, ?_⟩
        intro n _ o ho
        rcases List.mem_cons.1 ho with rfl | ho
        · exact (Option.some_ne_none n).symm
        · obtain ⟨r, _, rfl⟩ := List.mem_map.1 ho
          exact (Option.some_ne_none n).symm
      · exact ⟨[], rfl, by simp⟩

/-- The channel of a world is used only by operations, and a receipt is taken only where a caller gives
it up. -/
theorem exists_operations (worker : Worker) (node : Node σ) (w : World σ) (events : List Event) :
    ∃ operations : List Operation,
    (w.run worker node events).channel = w.channel.performAll operations ∧
      ∀ n, .action (.dropReceipt n) ∉ events → ∀ o ∈ operations, o.receipt? ≠ some n := by
  induction events generalizing w with
  | nil => exact ⟨[], rfl, by simp⟩
  | cons e events ih =>
      obtain ⟨more, hmore, hreceipts⟩ := ih (w.step worker node e)
      obtain ⟨first, hfirst, hreceipt⟩ : ∃ operations : List Operation,
          (w.step worker node e).channel = w.channel.performAll operations ∧
            ∀ n, e ≠ .action (.dropReceipt n) → ∀ o ∈ operations, o.receipt? ≠ some n := by
        cases e with
        | action a =>
            obtain ⟨operations, hchannel, hact⟩ := w.exists_operations_act a
            exact ⟨operations, hchannel, fun n hne => hact n fun heq => hne (heq ▸ rfl)⟩
        | work =>
            obtain ⟨operations, hchannel, hnone⟩ := (works worker node w).exists_operations
            refine ⟨operations, hchannel, fun n _ o ho => ?_⟩
            rw [hnone o ho]
            exact (Option.some_ne_none n).symm
      refine ⟨first ++ more, ?_, ?_⟩
      · rw [Channel.performAll_append, ← hfirst]
        exact hmore
      · intro n hn o ho
        rcases List.mem_append.1 ho with ho | ho
        · exact hreceipt n (fun heq => hn (heq ▸ List.mem_cons_self)) o ho
        · exact hreceipts n (fun hmem => hn (List.mem_cons_of_mem _ hmem)) o ho

/-- A caller that finds a hash at the receipt of its request finds that of its own message. -/
theorem hash_of_peek {s : σ} {capacity : Nat} {events later : List Event}
    {message : Ethereum.Message} {denom : String} {n : Nat} {hash : Digest}
    (hsubmit : (((start s capacity).run worker node events).channel.submit message denom).1 =
      .accepted n)
    (hpeek : ((start s capacity).run worker node
      (events ++ .action (.submit message denom) :: later)).channel.peek n =
        .resolved (.ok hash)) : hash = message.hash := by
  have hlogged := logged worker node s capacity (events ++ .action (.submit message denom) :: later)
  have hordered := ordered worker node s capacity
    (events ++ .action (.submit message denom) :: later)
  have hdelivered := delivered worker node s capacity
    (events ++ .action (.submit message denom) :: later)
  have hmem : (⟨n, message, denom⟩ : Request) ∈ enqueued ((start s capacity).log worker node
      (events ++ .action (.submit message denom) :: later)) := by
    have hentry : ((start s capacity).run worker node events).entries node
        (.action (.submit message denom)) = [.enqueued ⟨n, message, denom⟩] := by
      simp only [entries, hsubmit]
    rw [log_append, log, hentry, enqueued_append, enqueued_append, enqueued_one]
    simp
  rcases hdelivered.result_of_peek hordered hmem hpeek with ⟨dealing, hd, hrequest, hresult⟩ | h
  · obtain ⟨front, back, hds⟩ := List.append_of_mem hd
    have hok := ((hlogged.ended hds hresult).ok_iff hash).1 rfl
    rw [hok.1, hrequest]
  · exact absurd h.2.1 (by simp)

end World

end GasSponsor.Relay
