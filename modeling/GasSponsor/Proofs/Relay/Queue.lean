import GasSponsor.Proofs.Relay.History

/-!
# The order of requests

The worker takes requests in the order in which they entered the queue, and takes none twice. What
entered the queue was taken, still waits, or was lost when the channel closed. Every request has the
number of those that entered before it.
-/

namespace GasSponsor.Relay

def taken (log : List Entry) : List Request := log.filterMap Entry.taken?

theorem map_request_next (ds : List Dealing) (e : Entry) :
    (Dealing.next ds e).map Dealing.request = ds.map Dealing.request ++ e.taken?.toList := by
  cases e with
  | enqueued r => simp [Dealing.next, Entry.taken?]
  | taken r => simp [Dealing.next, Entry.taken?]
  | exchanged x =>
      induction ds using List.reverseRecOn with
      | nil => rfl
      | append_singleton ds d _ => simp [Dealing.next, Entry.taken?, List.modifyLast_concat]
  | answered r result =>
      induction ds using List.reverseRecOn with
      | nil => rfl
      | append_singleton ds d _ => simp [Dealing.next, Entry.taken?, List.modifyLast_concat]

theorem map_request_dealings (log : List Entry) :
    (dealings log).map Dealing.request = taken log := by
  induction log using List.reverseRecOn with
  | nil => rfl
  | append_singleton log e ih =>
      rw [dealings_snoc, map_request_next, ih, taken, taken, List.filterMap_append]
      cases he : e.taken? <;> simp [he]

theorem taken_append (log more : List Entry) : taken (log ++ more) = taken log ++ taken more :=
  List.filterMap_append

theorem enqueued_append (log more : List Entry) :
    enqueued (log ++ more) = enqueued log ++ enqueued more :=
  List.filterMap_append

theorem enqueued_one (r : Request) : enqueued [.enqueued r] = [r] := rfl

theorem enqueued_taken (r : Request) : enqueued [.taken r] = [] := rfl

theorem taken_one (r : Request) : taken [.taken r] = [r] := rfl

theorem taken_enqueued (r : Request) : taken [.enqueued r] = [] := rfl

structure Ordered {σ : Type} (w : World σ) (log : List Entry) : Prop where
  places : ∃ lost, enqueued log = taken log ++ w.channel.queue ++ lost ∧
    (w.channel.isOpen = true → lost = [])
  numbers : (enqueued log).map Request.number = List.range w.channel.tickets.length
  isOpen : w.isRunning = true → w.channel.isOpen = true

section

variable {σ : Type} {worker : Worker} {node : Node σ} {w v : World σ} {log entries : List Entry}

theorem isRunning_of_idle (hstage : w.stage = .idle) : w.isRunning = true := by
  rw [World.isRunning, hstage]

theorem isRunning_of_busy {p : Program (AccountState × RelayResult)} (hstage : w.stage = .busy p) :
    w.isRunning = true := by
  rw [World.isRunning, hstage]

theorem Ordered.congr (h : Ordered w log) (hqueue : v.channel.queue = w.channel.queue)
    (hopen : v.channel.isOpen = w.channel.isOpen)
    (htickets : v.channel.tickets.length = w.channel.tickets.length)
    (hrunning : v.isRunning = true → w.isRunning = true)
    (henqueued : enqueued entries = []) (htaken : taken entries = []) :
    Ordered v (log ++ entries) := by
  obtain ⟨hplaces, hnumbers, hisOpen⟩ := h
  rw [← hqueue, ← hopen] at hplaces
  rw [← htickets] at hnumbers
  refine ⟨?_, ?_, fun hv => hopen ▸ hisOpen (hrunning hv)⟩
  · rw [enqueued_append, taken_append, henqueued, htaken, List.append_nil, List.append_nil]
    exact hplaces
  · rw [enqueued_append, henqueued, List.append_nil]
    exact hnumbers

theorem Ordered.close (h : Ordered w log) (hqueue : v.channel.queue = [])
    (hopen : v.channel.isOpen = false) (hrunning : v.isRunning = false)
    (htickets : v.channel.tickets.length = w.channel.tickets.length) : Ordered v log := by
  obtain ⟨⟨lost, henqueued, _⟩, hnumbers, _⟩ := h
  refine ⟨⟨w.channel.queue ++ lost, ?_, ?_⟩, htickets ▸ hnumbers, fun hv => ?_⟩
  · rw [henqueued, hqueue, List.append_nil, List.append_assoc]
  · intro h
    rw [hopen] at h
    cases h
  · rw [hrunning] at hv
    cases hv

theorem Ordered.submit (h : Ordered w log) (message : Ethereum.Message) (denom : String) :
    Ordered (w.act (.submit message denom))
      (log ++ w.entries node (.action (.submit message denom))) := by
  rcases w.channel.submit_cases message denom with ⟨hs, _⟩ | ⟨hs, _⟩ | ⟨hs, hopen, _⟩
  · simp only [World.act, World.entries, hs]
    exact h.congr rfl rfl rfl id rfl rfl
  · simp only [World.act, World.entries, hs]
    exact h.congr rfl rfl rfl id rfl rfl
  · simp only [World.act, World.entries, hs]
    obtain ⟨⟨lost, henqueued, hlost⟩, hnumbers, _⟩ := h
    obtain rfl := hlost hopen
    refine ⟨⟨[], ?_, fun _ => rfl⟩, ?_, fun _ => hopen⟩
    · rw [enqueued_append, taken_append, henqueued]
      simp [enqueued_one, taken_enqueued]
    · rw [enqueued_append, List.map_append, hnumbers]
      simp [enqueued_one, List.range_succ]

theorem Ordered.act (h : Ordered w log) (a : World.Action) :
    Ordered (w.act a) (log ++ w.entries node (.action a)) := by
  cases a with
  | submit message denom => exact h.submit message denom
  | dropReceipt number => exact h.congr rfl rfl (List.length_modify _ _ _) id rfl rfl
  | shutDown => exact h.congr rfl rfl rfl id rfl rfl
  | abort =>
      simp only [World.entries, List.append_nil, World.act]
      split
      · exact h.close (Channel.abandon_queue _) (Channel.abandon_isOpen _) rfl
          (Channel.length_tickets_abandon _)
      · exact h

theorem Ordered.works (h : Ordered w log) (hw : World.Works worker node w entries v) :
    Ordered v (log ++ entries) := by
  cases hw with
  | rest _ => exact h.congr rfl rfl rfl id rfl rfl
  | close _ _ =>
      rw [List.append_nil]
      exact h.close rfl rfl rfl (Channel.length_tickets_close _)
  | take hstage _ hqueue =>
      obtain ⟨⟨lost, henqueued, hlost⟩, hnumbers, hisOpen⟩ := h
      refine ⟨⟨lost, ?_, hlost⟩, ?_, fun _ => hisOpen (isRunning_of_idle hstage)⟩
      · rw [enqueued_append, taken_append, henqueued, hqueue]
        simp [enqueued_taken, taken_one]
      · rw [enqueued_append, enqueued_taken, List.append_nil]
        exact hnumbers
  | record hstage => exact h.congr rfl rfl rfl (fun _ => isRunning_of_busy hstage) rfl rfl
  | leave hstage _ => exact h.congr rfl rfl rfl (fun _ => isRunning_of_busy hstage) rfl rfl
  | ask r hstage _ => exact h.congr rfl rfl rfl (fun _ => isRunning_of_busy hstage) rfl rfl
  | answer hstage _ =>
      exact h.congr rfl rfl (List.length_modify _ _ _) (fun _ => isRunning_of_busy hstage) rfl rfl
  | drop hstage _ => exact h.congr rfl rfl rfl (fun _ => isRunning_of_busy hstage) rfl rfl

theorem Ordered.step (h : Ordered w log) (e : World.Event) :
    Ordered (w.step worker node e) (log ++ w.entries node e) := by
  cases e with
  | action a => exact h.act a
  | work => exact h.works (World.works worker node w)

theorem ordered (worker : Worker) (node : Node σ) (s : σ) (capacity : Nat)
    (events : List World.Event) :
    Ordered ((World.start s capacity).run worker node events)
      ((World.start s capacity).log worker node events) :=
  World.run_induction ⟨⟨[], rfl, fun _ => rfl⟩, rfl, fun _ => rfl⟩ (fun _ _ e h => h.step e) events

/-- The worker takes requests in the order in which they entered. -/
theorem Ordered.taken_isPrefix (h : Ordered w log) : taken log <+: enqueued log := by
  obtain ⟨lost, henqueued, _⟩ := h.places
  rw [henqueued, List.append_assoc]
  exact List.prefix_append _ _

theorem Ordered.nodup_numbers (h : Ordered w log) :
    ((enqueued log).map Request.number).Nodup := by
  rw [h.numbers]
  exact List.nodup_range

/-- No request is taken while it waits, and none twice. -/
theorem Ordered.nodup_places (h : Ordered w log) :
    ((taken log ++ w.channel.queue).map Request.number).Nodup := by
  obtain ⟨lost, henqueued, _⟩ := h.places
  have hnodup := h.nodup_numbers
  rw [henqueued, List.map_append] at hnodup
  exact (List.nodup_append.1 hnodup).1

theorem Ordered.number_lt (h : Ordered w log) {r : Request} (hr : r ∈ taken log) :
    r.number < w.channel.tickets.length := by
  have hmem : r.number ∈ (enqueued log).map Request.number :=
    List.mem_map_of_mem (h.taken_isPrefix.subset hr)
  rw [h.numbers] at hmem
  exact List.mem_range.1 hmem

end

end GasSponsor.Relay
