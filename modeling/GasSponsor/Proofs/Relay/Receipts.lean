import Mathlib.Data.List.Nodup
import GasSponsor.Proofs.Ethereum.Message
import GasSponsor.Proofs.Relay.Outcome
import GasSponsor.Proofs.Relay.Progress

/-!
# Receipts

What is written at a receipt is the reply to its own request, or the news that the request was lost
with the worker. Every reply of the worker is written at the receipt of the request in hand, which
no other request has, and nothing is written over it.
-/

namespace GasSponsor.Relay

def Entry.answered? : Entry → Option (Request × RelayResult)
  | .answered r result => some (r, result)
  | _ => none

def answered (log : List Entry) : List (Request × RelayResult) := log.filterMap Entry.answered?

def Dealing.answer? (d : Dealing) : Option (Request × RelayResult) :=
  d.result.map fun result => (d.request, result)

theorem answered_append (log more : List Entry) :
    answered (log ++ more) = answered log ++ answered more :=
  List.filterMap_append

theorem filterMap_answer_next (ds : List Dealing) {e : Entry} (he : e.answered? = none) :
    (Dealing.next ds e).filterMap Dealing.answer? = ds.filterMap Dealing.answer? := by
  cases e with
  | enqueued r => rfl
  | taken r => simp [Dealing.next, Dealing.answer?]
  | exchanged x =>
      induction ds using List.reverseRecOn with
      | nil => rfl
      | append_singleton ds d _ =>
          rw [Dealing.next, List.modifyLast_concat, List.filterMap_append, List.filterMap_append]
          rfl
  | answered r result => cases he

theorem filterMap_answer_dealings (log entries : List Entry) (h : answered entries = []) :
    (dealings (log ++ entries)).filterMap Dealing.answer? =
      (dealings log).filterMap Dealing.answer? := by
  induction entries using List.reverseRecOn with
  | nil => rw [List.append_nil]
  | append_singleton entries e ih =>
      rw [answered_append] at h
      obtain ⟨hentries, he⟩ := List.append_eq_nil_iff.1 h
      rw [← List.append_assoc, dealings_snoc, filterMap_answer_next _ ?_, ih hentries]
      cases e with
      | answered r result => cases he
      | enqueued _ | taken _ | exchanged _ => rfl

/-- What is written at the receipts is what the log tells. -/
structure Delivered {σ : Type} (w : World σ) (log : List Entry) : Prop where
  answered_eq : answered log = (dealings log).filterMap Dealing.answer?
  given : ∀ r result, (r, result) ∈ answered log →
    w.channel.reply? r.number = some (.given result)
  own : ∀ n result, w.channel.reply? n = some (.given result) →
    ∃ r, (r, result) ∈ answered log ∧ r.number = n
  lost : ∀ n, w.channel.reply? n = some .lost → w.isRunning = false

section

variable {σ : Type} {worker : Worker} {node : Node σ} {w v : World σ} {log entries : List Entry}

theorem Delivered.congr (h : Delivered w log)
    (hreply : ∀ n, v.channel.reply? n = w.channel.reply? n ∨
      (w.channel.reply? n = none ∧ v.channel.reply? n = some .awaited))
    (hrunning : w.isRunning = true ∨ v.isRunning = w.isRunning)
    (hentries : answered entries = []) :
    Delivered v (log ++ entries) := by
  have hanswered : answered (log ++ entries) = answered log := by
    rw [answered_append, hentries, List.append_nil]
  refine ⟨?_, ?_, ?_, ?_⟩
  · rw [hanswered, filterMap_answer_dealings log entries hentries]
    exact h.answered_eq
  · intro r result hr
    rw [hanswered] at hr
    have hgiven := h.given r result hr
    rcases hreply r.number with heq | ⟨hnone, _⟩
    · rw [heq]
      exact hgiven
    · rw [hnone] at hgiven
      cases hgiven
  · intro n result hn
    rw [hanswered]
    rcases hreply n with heq | ⟨_, hawaited⟩
    · rw [heq] at hn
      exact h.own n result hn
    · rw [hawaited] at hn
      cases hn
  · intro n hn
    rcases hreply n with heq | ⟨_, hawaited⟩
    · rw [heq] at hn
      have hstopped := h.lost n hn
      rcases hrunning with hrunning | hrunning
      · rw [hrunning] at hstopped
        cases hstopped
      · exact hrunning.trans hstopped
    · rw [hawaited] at hn
      cases hn

/-- Replies that were given outlast the worker. -/
theorem Delivered.stop (h : Delivered w log) (hstop : v.isRunning = false)
    (hreply : ∀ n, v.channel.reply? n = w.channel.reply? n ∨
      ((∀ r result, (r, result) ∈ answered log → r.number ≠ n) ∧
        v.channel.reply? n = (w.channel.reply? n).map fun _ => .lost)) : Delivered v log := by
  refine ⟨h.answered_eq, ?_, ?_, fun _ _ => hstop⟩
  · intro r result hr
    rcases hreply r.number with heq | ⟨hne, _⟩
    · rw [heq]
      exact h.given r result hr
    · exact absurd rfl (hne r result hr)
  · intro n result hn
    rcases hreply n with heq | ⟨_, hlost⟩
    · rw [heq] at hn
      exact h.own n result hn
    · rw [hlost] at hn
      cases hw : w.channel.reply? n with
      | none =>
          rw [hw] at hn
          cases hn
      | some _ =>
          rw [hw] at hn
          cases hn

theorem Recorded.held_cases {ds : List Dealing} (h : Recorded worker w ds) :
    w.channel.held = [] ∨ ∃ front d, ds = front ++ [d] ∧ d.result = none ∧
      w.channel.held = [d.request] := by
  unfold Recorded at h
  split at h
  · exact .inl h.2
  · exact .inl h.2
  · obtain ⟨front, d, hds, _, hd, hheld⟩ := h
    exact .inr ⟨front, d, hds, hd.1, hheld⟩
  · obtain ⟨front, d, hds, _, hd, hheld⟩ := h
    exact .inr ⟨front, d, hds, hd.1, hheld⟩
  · exact .inl h.1

theorem Delivered.mem_taken (h : Delivered w log) {r : Request} {result : RelayResult}
    (hr : (r, result) ∈ answered log) : r ∈ taken log := by
  rw [h.answered_eq] at hr
  obtain ⟨d, hd, hanswer⟩ := List.mem_filterMap.1 hr
  obtain ⟨_, _, heq⟩ := Option.map_eq_some_iff.1 hanswer
  cases heq
  rw [← map_request_dealings]
  exact List.mem_map_of_mem hd

theorem Delivered.not_mem_queue (h : Delivered w log) (hordered : Ordered w log) {r : Request}
    {result : RelayResult} (hr : (r, result) ∈ answered log) :
    r.number ∉ w.channel.queue.map Request.number := by
  have hnodup := hordered.nodup_places
  rw [List.map_append] at hnodup
  intro hmem
  exact (List.nodup_append.1 hnodup).2.2 _ (List.mem_map_of_mem (h.mem_taken hr)) _ hmem rfl

/-- The request in hand has a number that no answered request has. -/
theorem Delivered.ne_last (h : Delivered w log) (hordered : Ordered w log)
    {front : List Dealing} {d : Dealing} (hds : dealings log = front ++ [d])
    (hresult : d.result = none) {r : Request} {result : RelayResult}
    (hr : (r, result) ∈ answered log) : r.number ≠ d.request.number := by
  rw [h.answered_eq, hds, List.filterMap_append] at hr
  have hd : List.filterMap Dealing.answer? [d] = [] := by simp [Dealing.answer?, hresult]
  rw [hd, List.append_nil] at hr
  obtain ⟨e, he, hanswer⟩ := List.mem_filterMap.1 hr
  obtain ⟨_, _, heq⟩ := Option.map_eq_some_iff.1 hanswer
  cases heq
  have hnodup := hordered.nodup_places
  rw [← map_request_dealings, hds, List.map_append, List.map_append, List.map_append] at hnodup
  have hfront := (List.nodup_append.1 hnodup).1
  exact (List.nodup_append.1 hfront).2.2 _ (List.mem_map_of_mem (List.mem_map_of_mem he)) _
    (by simp)

theorem Delivered.not_mem_held (h : Delivered w log) (hlogged : Logged worker w log)
    (hordered : Ordered w log) {r : Request} {result : RelayResult}
    (hr : (r, result) ∈ answered log) : r.number ∉ w.channel.held.map Request.number := by
  rcases hlogged.recorded.held_cases with hheld | ⟨front, d, hds, hresult, hheld⟩
  · simp [hheld]
  · rw [hheld]
    simpa using h.ne_last hordered hds hresult hr

theorem answered_actions (w : World σ) (a : World.Action) :
    answered (w.entries node (.action a)) = [] := by
  cases a with
  | submit message denom =>
      simp only [World.entries]
      split <;> rfl
  | dropReceipt number => rfl
  | shutDown => rfl
  | abort => rfl

theorem abandon_cases {c : Channel} {replies : List (Request × RelayResult)} {n : Nat}
    (h : ∀ r result, (r, result) ∈ replies → r.number ∉ c.queue.map Request.number ∧
      r.number ∉ c.held.map Request.number) :
    c.abandon.reply? n = c.reply? n ∨
      ((∀ r result, (r, result) ∈ replies → r.number ≠ n) ∧
        c.abandon.reply? n = (c.reply? n).map fun _ => .lost) := by
  rw [Channel.reply?_abandon, Channel.reply?_close]
  by_cases hqueue : n ∈ c.queue.map Request.number
  · refine .inr ⟨fun r result hr heq => (h r result hr).1 (heq ▸ hqueue), ?_⟩
    rw [if_pos hqueue]
    split
    · rw [Option.map_map]
      rfl
    · rfl
  · rw [if_neg hqueue]
    by_cases hheld : n ∈ c.held.map Request.number
    · rw [if_pos hheld]
      exact .inr ⟨fun r result hr heq => (h r result hr).2 (heq ▸ hheld), rfl⟩
    · rw [if_neg hheld]
      exact .inl rfl

theorem Delivered.act (h : Delivered w log) (hlogged : Logged worker w log)
    (hordered : Ordered w log) (a : World.Action) :
    Delivered (w.act a) (log ++ w.entries node (.action a)) := by
  cases a with
  | submit message denom =>
      exact h.congr (w.channel.reply?_submit message denom) (.inr rfl) (answered_actions w _)
  | dropReceipt number =>
      exact h.congr (fun n => .inl (w.channel.reply?_dropReceipt number n)) (.inr rfl) rfl
  | shutDown => exact h.congr (fun _ => .inl rfl) (.inr rfl) rfl
  | abort =>
      simp only [World.entries, List.append_nil, World.act]
      split
      · exact h.stop rfl fun n => abandon_cases fun r result hr => ⟨h.not_mem_queue hordered hr,
          h.not_mem_held hlogged hordered hr⟩
      · exact h

/-- A reply is written at the receipt of the request in hand. -/
theorem Delivered.answer (h : Delivered w log) (hlogged : Logged worker w log)
    (hordered : Ordered w log) {r : Request} {rest : List Request} {result : RelayResult}
    (hrunning : w.isRunning = true) (hheld : w.channel.held = r :: rest)
    (hreply : ∀ n, v.channel.reply? n = if r.number = n
      then (w.channel.reply? n).map fun _ => .given result else w.channel.reply? n) :
    Delivered v (log ++ [.answered r result]) := by
  rcases hlogged.recorded.held_cases with hnone | ⟨front, d, hds, hresult, hlast⟩
  · rw [hheld] at hnone
    cases hnone
  rw [hheld] at hlast
  cases hlast
  -- the request in hand is the last one taken, so that no older reply is written over
  have hanswered : answered (log ++ [.answered d.request result]) =
      answered log ++ [(d.request, result)] := answered_append log _
  refine ⟨?_, ?_, ?_, ?_⟩
  · rw [hanswered, h.answered_eq, dealings_snoc, hds, Dealing.next, List.modifyLast_concat,
      List.filterMap_append, List.filterMap_append]
    simp [Dealing.answer?, hresult]
  · intro r' result' hr
    rw [hanswered] at hr
    rcases List.mem_append.1 hr with hr | hr
    · rw [hreply, if_neg (h.ne_last hordered hds hresult hr).symm]
      exact h.given r' result' hr
    · cases List.mem_singleton.1 hr
      have htaken : d.request ∈ taken log := by
        rw [← map_request_dealings, hds]
        simp
      obtain ⟨before, hbefore⟩ := w.channel.reply?_of_lt (hordered.number_lt htaken)
      rw [hreply, if_pos rfl, hbefore]
      rfl
  · intro n result' hn
    rw [hanswered]
    rw [hreply] at hn
    split at hn
    · next heq =>
        obtain ⟨_, _, hsame⟩ := Option.map_eq_some_iff.1 hn
        cases hsame
        exact ⟨d.request, by simp, heq⟩
    · obtain ⟨r', hr, heq⟩ := h.own n result' hn
      exact ⟨r', List.mem_append_left _ hr, heq⟩
  · intro n hn
    rw [hreply] at hn
    split at hn
    · obtain ⟨_, _, hsame⟩ := Option.map_eq_some_iff.1 hn
      cases hsame
    · have hstopped := h.lost n hn
      rw [hrunning] at hstopped
      cases hstopped

theorem Delivered.works (h : Delivered w log) (hlogged : Logged worker w log)
    (hordered : Ordered w log) (hw : World.Works worker node w entries v) :
    Delivered v (log ++ entries) := by
  cases hw with
  | rest _ => exact h.congr (fun _ => .inl rfl) (.inr rfl) rfl
  | close _ _ =>
      rw [List.append_nil]
      refine h.stop rfl fun n => ?_
      rw [Channel.reply?_close]
      split
      · next hmem =>
          refine .inr ⟨fun r result hr heq => ?_, rfl⟩
          rw [← heq] at hmem
          exact h.not_mem_queue hordered hr hmem
      · exact .inl rfl
  | take hstage _ _ =>
      exact h.congr (fun _ => .inl rfl) (.inl (isRunning_of_idle hstage)) rfl
  | record hstage =>
      exact h.congr (fun _ => .inl rfl) (.inl (isRunning_of_busy hstage)) rfl
  | leave hstage _ =>
      exact h.congr (fun _ => .inl rfl) (.inl (isRunning_of_busy hstage)) rfl
  | ask r hstage _ =>
      exact h.congr (fun _ => .inl rfl) (.inl (isRunning_of_busy hstage)) rfl
  | drop hstage _ =>
      exact h.congr (fun _ => .inl rfl) (.inl (isRunning_of_busy hstage)) rfl
  | answer hstage hheld =>
      exact h.answer hlogged hordered (isRunning_of_busy hstage) hheld fun n =>
        Channel.reply?_give _ _ n _

theorem delivered (worker : Worker) (node : Node σ) (s : σ) (capacity : Nat)
    (events : List World.Event) :
    Delivered ((World.start s capacity).run worker node events)
      ((World.start s capacity).log worker node events) := by
  have hstart : Delivered (World.start s capacity) [] := by
    refine ⟨rfl, ?_, ?_, ?_⟩
    · intro r result hr
      cases hr
    · intro n result hn
      cases hn
    · intro n hn
      cases hn
  refine (World.run_induction (P := fun w log => Logged worker w log ∧ Ordered w log ∧
    Delivered w log) ⟨logged_start worker s capacity, ?_, hstart⟩ ?_ events).2.2
  · exact ⟨⟨[], rfl, fun _ => rfl⟩, rfl, fun _ => rfl⟩
  · rintro w log e ⟨hlogged, hordered, h⟩
    refine ⟨hlogged.step e, hordered.step e, ?_⟩
    cases e with
    | action a => exact h.act hlogged hordered a
    | work => exact h.works hlogged hordered (World.works worker node w)

theorem peek_resolved {c : Channel} {n : Nat} {result : RelayResult}
    (h : c.peek n = .resolved result) :
    c.reply? n = some (.given result) ∨
      (c.reply? n = some .lost ∧ result = .error .workerUnavailable) := by
  unfold Channel.peek at h
  cases hn : c.tickets[n]? with
  | none =>
      rw [hn] at h
      cases h
  | some t =>
      rw [hn] at h
      rw [Channel.reply?, hn]
      dsimp only at h
      split at h
      · split at h
        · cases h
        · next hreply =>
            cases h
            exact .inl (congrArg some hreply)
        · next hreply =>
            cases h
            exact .inr ⟨congrArg some hreply, rfl⟩
      · cases h

/-- A caller that waits gets the result of its own request, or hears that the worker has stopped
without one. -/
theorem Delivered.result_of_peek (h : Delivered w log) (hordered : Ordered w log) {r : Request}
    (hr : r ∈ enqueued log) {result : RelayResult}
    (hpeek : w.channel.peek r.number = .resolved result) :
    (∃ d ∈ dealings log, d.request = r ∧ d.result = some result) ∨
      (w.isRunning = false ∧ result = .error .workerUnavailable ∧
        ∀ d ∈ dealings log, d.request = r → d.result = none) := by
  rcases peek_resolved hpeek with hgiven | ⟨hlost, hresult⟩
  · obtain ⟨r', hmem, hnumber⟩ := h.own _ _ hgiven
    have hr' : r' ∈ enqueued log := hordered.taken_isPrefix.subset (h.mem_taken hmem)
    obtain rfl : r' = r := List.inj_on_of_nodup_map hordered.nodup_numbers hr' hr hnumber
    rw [h.answered_eq] at hmem
    obtain ⟨d, hd, hanswer⟩ := List.mem_filterMap.1 hmem
    obtain ⟨_, hsome, heq⟩ := Option.map_eq_some_iff.1 hanswer
    cases heq
    exact .inl ⟨d, hd, rfl, hsome⟩
  · refine .inr ⟨h.lost _ hlost, hresult, fun d hd hrequest => ?_⟩
    cases hsome : d.result with
    | none => rfl
    | some given =>
        have hmem : (r, given) ∈ answered log := by
          rw [h.answered_eq]
          refine List.mem_filterMap.2 ⟨d, hd, ?_⟩
          rw [Dealing.answer?, hsome, ← hrequest]
          rfl
        rw [h.given r given hmem] at hlost
        cases hlost

/-- What was replied to a request stands at its receipt until the caller gives that up. -/
theorem Delivered.peek_of_result (h : Delivered w log) {d : Dealing} (hd : d ∈ dealings log)
    {result : RelayResult} (hresult : d.result = some result) :
    w.channel.peek d.request.number = .resolved result ∨
      w.channel.peek d.request.number = .gone := by
  have hmem : (d.request, result) ∈ answered log := by
    rw [h.answered_eq]
    refine List.mem_filterMap.2 ⟨d, hd, ?_⟩
    rw [Dealing.answer?, hresult]
    rfl
  have hgiven := h.given _ _ hmem
  obtain ⟨t, ht, hreply⟩ := Option.map_eq_some_iff.1 hgiven
  unfold Channel.peek
  rw [ht]
  dsimp only
  rw [hreply]
  cases t.kept with
  | true => exact .inl rfl
  | false => exact .inr rfl

/-- Requests are taken in order, each is broadcast at most once, is answered with the hash of its
own message exactly if that broadcast was admitted and else with its own first fault, and its answer
reaches its own receipt and no other. -/
theorem replies_faithful (worker : Worker) (node : Node σ) (s : σ) (capacity : Nat)
    (events : List World.Event) :
    let w := (World.start s capacity).run worker node events
    let log := (World.start s capacity).log worker node events
    ((dealings log).map Dealing.request <+: enqueued log ∧
      ((enqueued log).map Request.number).Nodup) ∧
    (∀ d ∈ dealings log, (d.exchanges.map Exchange.call).countP Call.isBroadcast ≤ 1 ∧
      (∀ tx, .broadcast tx ∈ d.exchanges.map Exchange.call →
        CarriesHash tx d.request.message.hash) ∧
      ∀ raw, Ethereum.Message.decode raw = .ok d.request.message →
        d.request.message.hash = Keccak.hash raw) ∧
    (∀ front d back, dealings log = front ++ d :: back → ∀ result, d.result = some result →
      (∀ hash, result = .ok hash ↔
        hash = d.request.message.hash ∧ ∃ x ∈ d.exchanges, x.admits = true) ∧
      Ended worker (knownAfter none (front.flatMap Dealing.exchanges)) d.request.message
        d.request.denom d.exchanges result) ∧
    (∀ r ∈ enqueued log, ∀ result, w.channel.peek r.number = .resolved result →
      (∃ d ∈ dealings log, d.request = r ∧ d.result = some result) ∨
      (w.isRunning = false ∧ result = .error .workerUnavailable ∧
        ∀ d ∈ dealings log, d.request = r → d.result = none)) ∧
    (∀ d ∈ dealings log, ∀ result, d.result = some result →
      w.channel.peek d.request.number = .resolved result ∨
        w.channel.peek d.request.number = .gone) ∧
    ∃ n,
      let v := (World.start s capacity).run worker node (events ++ World.working n)
      let later := (World.start s capacity).log worker node (events ++ World.working n)
      v.stage = .stuck ∨ v.isRunning = false ∨
        ((dealings later).map Dealing.request = enqueued later ∧
          ∀ d ∈ dealings later, ∃ result, d.result = some result) := by
  intro w log
  have hlogged : Logged worker w log := logged worker node s capacity events
  have hordered : Ordered w log := ordered worker node s capacity events
  have hdelivered : Delivered w log := delivered worker node s capacity events
  refine ⟨⟨?_, hordered.nodup_numbers⟩, ?_, ?_, ?_, ?_,
    exists_all_answered worker node s capacity events⟩
  · rw [map_request_dealings]
    exact hordered.taken_isPrefix
  · intro d hd
    exact ⟨hlogged.countP_isBroadcast_le hd, fun tx htx => hlogged.carriesHash hd htx,
      fun raw hraw => Ethereum.Message.hash_of_decode hraw⟩
  · intro front d back hds result hresult
    have hended := hlogged.ended hds hresult
    exact ⟨hended.ok_iff, hended⟩
  · intro r hr result hpeek
    exact hdelivered.result_of_peek hordered hr hpeek
  · intro d hd result hresult
    exact hdelivered.peek_of_result hd hresult

end

end GasSponsor.Relay
