import GasSponsor.Api.Backend
import GasSponsor.Proofs.Api.Response
import GasSponsor.Proofs.Ethereum.Rebuilt
import GasSponsor.Proofs.Relay.Contiguous
import GasSponsor.Proofs.Relay.Usage

/-!
# Submissions answered

A raw transaction that does not decode is answered without a look at the channel. One that decodes is
put into the channel once, under the configured denomination, and its caller is told what became of
that request before the time was up: the hash that it was answered with, its error, that it was dropped,
or that there is no reply yet. Nothing is assumed about the others but that they use the channel by its
operations and leave the caller its receipt. With a relay worker at the other end the hash is that of
the bytes that were handed in.
-/

namespace GasSponsor.Api.Service

open Relay Relay.Channel

variable {β σ : Type} (service : Service)

/-- The channel when the message is put into it: a caller that finds it full has waited for room. -/
def arrive (backend : Backend β) (c : Channel) (s : β) (message : Ethereum.Message) : Channel × β :=
  match c.submit message service.denom with
  | (.full, _) => backend c s
  | _ => (c, s)

/-- What the others do to the channel while a caller waits for room, and while it waits for the reply
without their taking its receipt. -/
structure Course (backend : Backend β) (c : Channel) (s : β) (message : Ethereum.Message)
    (room wait : List Operation) : Prop where
  room_eq : (service.arrive backend c s message).1 = c.performAll room
  wait_eq : ∀ n d, (service.arrive backend c s message).1.submit message service.denom =
    (.accepted n, d) →
      (backend d (service.arrive backend c s message).2).1 = d.performAll wait ∧
        ∀ o ∈ wait, o.receipt? ≠ some n

structure Answered (past since : List Use) (n : Nat) (response : Response) : Prop where
  relayed : ∀ hash, Names response hash ↔ (n, .ok hash) ∈ answers since
  failed : ∀ e, (n, .error e) ∈ answers since → Explains response e
  late : response = ⟨504, .failure .timeout⟩ ↔
    place? (past ++ since) n = some .queued ∨ place? (past ++ since) n = some .held
  lost : place? (past ++ since) n = some .discarded → Explains response .workerUnavailable
  settled : (∃ result, (n, result) ∈ answers since) ∨ place? (past ++ since) n = some .queued ∨
    place? (past ++ since) n = some .held ∨ place? (past ++ since) n = some .discarded

/-- What becomes of a message that comes to a channel with a history: it is refused, it waits on, or it
enters once, and its caller takes nothing from the channel but its own receipt. -/
structure Submitted (capacity : Nat) (past : List Use) (arrived : Channel)
    (message : Ethereum.Message) (denom : String) (wait : List Operation)
    (response : Option Response) (after : Channel) : Prop where
  gone : isClosed past = true →
    (∃ told, response = some told ∧ Explains told .workerUnavailable) ∧ after = arrived
  full : isClosed past = false → waitingCount past = capacity → response = none ∧ after = arrived
  entered : isClosed past = false → waitingCount past < capacity →
    let n := (accepted past).length
    let entered := arrived.performAll [.submit message denom]
    accepted (past ++ arrived.history [.submit message denom]) =
        accepted past ++ [⟨n, message, denom⟩] ∧
      after = entered.performAll (wait ++ [.wait n]) ∧
      ∃ told, response = some told ∧
        Answered (past ++ arrived.history [.submit message denom]) (entered.history wait) n told

theorem relay_eq (backend : Backend β) (c : Channel) (s : β) (message : Ethereum.Message) :
    service.relay backend c s message =
      match (service.arrive backend c s message).1.submit message service.denom with
      | (.accepted receipt, d) =>
        let (response, d, s) := await backend d (service.arrive backend c s message).2 receipt
        (some response, d, s)
      | (.full, d) => (none, d, (service.arrive backend c s message).2)
      | (.refused, d) => (some (.failure (.relay .workerUnavailable)), d,
          (service.arrive backend c s message).2) := rfl

/-- The raw transaction decides whether the channel is looked at. -/
theorem answer_eq {r : Request} {raw : String} (hroute : route r = .submission)
    (hraw : r.raw = .ok raw) (backend : Backend β) (c : Channel) (s : β) :
    service.answer backend c s r =
      match Ethereum.Message.decodeHex raw with
      | .error e => (some (.failure (.relay (.build e.toBuildError))), c, s)
      | .ok message => service.relay backend c s message := by
  cases hread : Ethereum.Message.decodeHex raw <;>
    simp only [answer, hroute, submit, hraw, hread]

theorem names_ofReceipt {waiting : Waiting} {hash : Digest} :
    Names (.ofReceipt waiting) hash ↔ waiting = .resolved (.ok hash) := by
  constructor
  · intro h
    cases waiting with
    | gone => exact absurd h.status (by decide)
    | awaited => exact absurd h.status (by decide)
    | resolved result =>
        cases result with
        | ok other => rw [h.unique (names_relayed other)]
        | error e =>
            have hstatus : HasStatus e 200 := by
              rw [← h.status]
              exact hasStatus e
            nomatch hstatus
  · rintro rfl
    exact names_relayed hash

theorem waiting_eq_resolved {place : Place} {hash : Digest} :
    place.waiting = .resolved (.ok hash) ↔ place = .answered (.ok hash) := by
  cases place <;> simp [Place.waiting]

theorem ofReceipt_eq_timeout {place : Place} :
    Response.ofReceipt place.waiting = ⟨504, .failure .timeout⟩ ↔
      place = .queued ∨ place = .held := by
  cases place with
  | queued => exact ⟨fun _ => .inl rfl, fun _ => rfl⟩
  | held => exact ⟨fun _ => .inr rfl, fun _ => rfl⟩
  | discarded => simp [Place.waiting, Response.ofReceipt, Response.failure]
  | answered result => cases result <;> simp [Place.waiting, Response.ofReceipt, Response.failure]

/-- What a caller finds at its receipt is what it is told. -/
theorem answered_ofReceipt {past since : List Use} {n : Nat} {place : Place}
    (hplace : place? (past ++ since) n = some place)
    (hanswers : ∀ result, place = .answered result ↔ (n, result) ∈ answers since) :
    Answered past since n (.ofReceipt place.waiting) where
  relayed hash := names_ofReceipt.trans (waiting_eq_resolved.trans (hanswers (.ok hash)))
  failed e hmem := by
    obtain rfl := (hanswers (.error e)).2 hmem
    exact explains_failure e
  late := by
    rw [ofReceipt_eq_timeout, hplace, Option.some.injEq, Option.some.injEq]
  lost h := by
    obtain rfl := Option.some.inj (hplace.symm.trans h)
    exact explains_failure .workerUnavailable
  settled := by
    rw [hplace]
    cases place with
    | queued => exact .inr (.inl rfl)
    | held => exact .inr (.inr (.inl rfl))
    | discarded => exact .inr (.inr (.inr rfl))
    | answered result => exact .inl ⟨result, (hanswers result).1 rfl⟩

def enter (c : Channel) (message : Ethereum.Message) (denom : String) : Channel :=
  { c with
    queue := c.queue ++ [⟨c.tickets.length, message, denom⟩]
    tickets := c.tickets ++ [⟨true, .awaited⟩] }

theorem peek_enter (c : Channel) (message : Ethereum.Message) (denom : String) :
    (enter c message denom).peek c.tickets.length = .awaited := by
  rw [enter, peek, List.getElem?_concat_length]
  rfl

theorem await_of_awaited (backend : Backend β) {c : Channel} (s : β) {n : Nat}
    (h : c.peek n = .awaited) : await backend c s n =
      (.ofReceipt ((backend c s).1.peek n), ((backend c s).1.wait n).2, (backend c s).2) := by
  rw [await, h]
  rfl

/-- A message is refused, waits on, or enters the queue, and only then is its receipt looked at. -/
theorem relay_cases (backend : Backend β) (c : Channel) (s : β)
    (message : Ethereum.Message) :
    let arrived := (service.arrive backend c s message).1
    let t := (service.arrive backend c s message).2
    (arrived.submit message service.denom = (.refused, arrived) ∧ arrived.isOpen = false ∧
      service.relay backend c s message =
        (some (.failure (.relay .workerUnavailable)), arrived, t)) ∨
    (arrived.submit message service.denom = (.full, arrived) ∧ arrived.isOpen = true ∧
      arrived.capacity ≤ arrived.queue.length ∧
      service.relay backend c s message = (none, arrived, t)) ∨
    (arrived.submit message service.denom =
        (.accepted arrived.tickets.length, enter arrived message service.denom) ∧
      arrived.isOpen = true ∧ arrived.queue.length < arrived.capacity ∧
      let later := backend (enter arrived message service.denom) t
      service.relay backend c s message =
        (some (.ofReceipt (later.1.peek arrived.tickets.length)),
          (later.1.wait arrived.tickets.length).2, later.2)) := by
  intro arrived t
  rcases arrived.submit_cases message service.denom with
    ⟨hs, hopen⟩ | ⟨hs, hopen, hfull⟩ | ⟨hs, hopen, hroom⟩
  · refine .inl ⟨hs, hopen, ?_⟩
    rw [relay_eq, hs]
  · refine .inr (.inl ⟨hs, hopen, hfull, ?_⟩)
    rw [relay_eq, hs]
  · refine .inr (.inr ⟨hs, hopen, hroom, ?_⟩)
    have hawait := await_of_awaited backend t (peek_enter arrived message service.denom)
    rw [enter] at hawait
    rw [relay_eq, hs]
    dsimp only
    rw [hawait]
    rfl

section

variable {service} {backend : Backend β} {c : Channel} {s : β} {message : Ethereum.Message}
  {room wait : List Operation} {capacity : Nat} {past : List Use}

theorem Course.submitted (h : service.Course backend c s message room wait)
    (hpast : Conserved capacity (c.performAll room) past) :
    Submitted capacity past (c.performAll room) message service.denom wait
      (service.relay backend c s message).1 (service.relay backend c s message).2.1 := by
  rcases service.relay_cases backend c s message with
    ⟨hs, hopen, heq⟩ | ⟨hs, hopen, hfull, heq⟩ | ⟨hs, hopen, hroom, heq⟩
  · have hclosed : isClosed past = true := by
      rw [hpast.isClosed_eq, ← h.room_eq, hopen, Bool.not_false]
    rw [heq]
    refine ⟨fun _ => ⟨⟨_, rfl, explains_failure _⟩, h.room_eq⟩, fun hopen => ?_, fun hopen => ?_⟩
    · exact absurd (hclosed.symm.trans hopen) (by decide)
    · exact absurd (hclosed.symm.trans hopen) (by decide)
  · have hclosed : isClosed past = false := by
      rw [hpast.isClosed_eq, ← h.room_eq, hopen, Bool.not_true]
    have hcount := hpast.waitingCount_eq hclosed
    rw [h.room_eq, hpast.capacity_eq] at hfull
    rw [heq]
    refine ⟨fun hshut => ?_, fun _ _ => ⟨rfl, h.room_eq⟩, fun _ hless => ?_⟩
    · exact absurd (hclosed.symm.trans hshut) (by decide)
    · omega
  · obtain ⟨hwait, hreceipt⟩ := h.wait_eq _ _ hs
    rw [h.room_eq] at hs hopen hroom heq hwait hreceipt
    have hclosed : isClosed past = false := by rw [hpast.isClosed_eq, hopen, Bool.not_true]
    have hcount := hpast.waitingCount_eq hclosed
    rw [hpast.capacity_eq] at hroom
    have hnumber : (c.performAll room).tickets.length = (accepted past).length := by
      rw [← List.length_map Request.number, hpast.numbers, List.length_range]
    have hfresh : (c.performAll room).tickets.length ∉ (accepted past).map Request.number :=
      fun hmem => Nat.lt_irrefl _ (hpast.mem_accepted.1 hmem)
    have hhistory : (c.performAll room).history [.submit message service.denom] =
        [.submitted message service.denom (.accepted (c.performAll room).tickets.length)] := by
      rw [history, perform, hs]
      rfl
    have henter : (c.performAll room).performAll [.submit message service.denom] =
        enter (c.performAll room) message service.denom := by
      rw [Channel.performAll, List.foldl_cons, perform, hs]
      rfl
    have hentered := hpast.enter hopen hroom message service.denom
    obtain ⟨place, hplace, hpeek, hanswers⟩ := hpast.fate hfresh hentered hreceipt
    rw [heq]
    refine ⟨fun hshut => ?_, fun _ hall => ?_, fun _ _ => ?_⟩
    · exact absurd (hclosed.symm.trans hshut) (by decide)
    · omega
    · rw [hhistory, henter, ← hnumber]
      refine ⟨by simp, ?_, _, rfl, ?_⟩
      · rw [performAll_append, ← hwait]
        rfl
      · change ((enter _ _ _).performAll wait).peek _ = place.waiting at hpeek
        rw [hwait, hpeek]
        refine answered_ofReceipt ?_ hanswers
        rw [List.append_assoc, List.singleton_append]
        exact hplace

end

section

open World (working)

variable {service} {worker : Worker} {node : Node σ} {c : Channel} {w : World σ}
  {message : Ethereum.Message}

/-- The worker goes on with the channel that it is given. -/
theorem worker_eq_run (worker : Worker) (node : Node σ) (c : Channel) (w : World σ) : ∃ k,
    let v := ({ w with channel := c } : World σ).run worker node (working k)
    Backend.worker worker node c w = (v.channel, v) :=
  ⟨_, by rw [Backend.worker, World.settle, World.workFor_eq_run]⟩

theorem arrive_eq_run (service : Service) (worker : Worker) (node : Node σ) (c : Channel)
    (w : World σ) (message : Ethereum.Message) : ∃ k,
    let x := service.arrive (Backend.worker worker node) c w message
    ({ x.2 with channel := x.1 } : World σ) =
      ({ w with channel := c } : World σ).run worker node (working k) := by
  obtain ⟨k, hk⟩ := worker_eq_run worker node c w
  rw [arrive]
  split
  · refine ⟨k, ?_⟩
    rw [hk]
  · exact ⟨0, rfl⟩

theorem not_mem_working (k n : Nat) : .action (.dropReceipt n) ∉ working k := fun h =>
  World.Event.noConfusion (List.eq_of_mem_replicate h)

/-- A relay worker takes no receipt from a caller. -/
theorem exists_course (service : Service) (worker : Worker) (node : Node σ) (c : Channel)
    (w : World σ) (message : Ethereum.Message) :
    ∃ room wait, service.Course (Backend.worker worker node) c w message room wait := by
  obtain ⟨k, hk⟩ := arrive_eq_run service worker node c w message
  obtain ⟨room, hroom, -⟩ := World.exists_operations worker node
    { w with channel := c } (working k)
  rw [← hk] at hroom
  let x := service.arrive (Backend.worker worker node) c w message
  obtain ⟨m, hm⟩ := worker_eq_run worker node
    (x.1.submit message service.denom).2 x.2
  obtain ⟨wait, hwait, hreceipt⟩ := World.exists_operations worker node
    { x.2 with channel := (x.1.submit message service.denom).2 } (working m)
  refine ⟨room, wait, hroom, fun n d hs => ?_⟩
  have hd : d = (x.1.submit message service.denom).2 := by rw [hs]
  rw [hd]
  change (Backend.worker worker node _ x.2).1 = _ ∧ _
  rw [hm]
  exact ⟨hwait, hreceipt n (not_mem_working m n)⟩

theorem enter_eq_run (worker : Worker) (node : Node σ) (w : World σ) {n : Nat} {d : Channel}
    (hs : c.submit message service.denom = (.accepted n, d)) : ∃ m,
    let v := ({ w with channel := c } : World σ).run worker node
      (.action (.submit message service.denom) :: working m)
    Backend.worker worker node d w = (v.channel, v) := by
  obtain ⟨m, hm⟩ := worker_eq_run worker node d w
  refine ⟨m, ?_⟩
  have hstep : ({ w with channel := c } : World σ).step worker node
      (.action (.submit message service.denom)) = { w with channel := d } := by
    simp only [World.step, World.act, hs]
  rw [World.run, List.foldl_cons, hstep]
  exact hm

/-- A submission is an event like others: its message was not taken in and the world has only gone on,
or it was, and the receipt is looked at when the worker has had its turn. -/
theorem relay_eq_run (service : Service) (worker : Worker) (node : Node σ) (c : Channel)
    (w : World σ) (message : Ethereum.Message) : ∃ k,
    let before := ({ w with channel := c } : World σ).run worker node (working k)
    let answer := service.relay (Backend.worker worker node) c w message
    (({ answer.2.2 with channel := answer.2.1 } : World σ) = before ∧
      ∀ told, answer.1 = some told → told = .failure (.relay .workerUnavailable)) ∨
    ∃ n m, let after := before.run worker node (.action (.submit message service.denom) :: working m)
      (before.channel.submit message service.denom).1 = .accepted n ∧
        answer = (some (.ofReceipt (after.channel.peek n)), (after.channel.wait n).2, after) := by
  obtain ⟨k, hk⟩ := arrive_eq_run service worker node c w message
  refine ⟨k, ?_⟩
  dsimp only at hk ⊢
  rw [← hk]
  rcases service.relay_cases (Backend.worker worker node) c w message with
    ⟨-, -, heq⟩ | ⟨-, -, -, heq⟩ | ⟨hs, -, -, heq⟩
  · rw [heq]
    exact .inl ⟨rfl, fun told htold => (Option.some.inj htold).symm⟩
  · rw [heq]
    exact .inl ⟨rfl, fun told htold => nomatch htold⟩
  · obtain ⟨m, hm⟩ := enter_eq_run worker node
      (service.arrive (Backend.worker worker node) c w message).2 hs
    dsimp only at heq hm
    rw [hm] at heq
    exact .inr ⟨_, m, by rw [hs], heq⟩

theorem exists_run (service : Service) (worker : Worker) (node : Node σ) (c : Channel)
    (w : World σ) (message : Ethereum.Message) : ∃ more,
    let answer := service.relay (Backend.worker worker node) c w message
    ({ answer.2.2 with channel := answer.2.1 } : World σ) =
      ({ w with channel := c } : World σ).run worker node more := by
  obtain ⟨k, ⟨heq, -⟩ | ⟨n, m, -, heq⟩⟩ := relay_eq_run service worker node c w message
  · exact ⟨working k, heq⟩
  · refine ⟨working k ++ .action (.submit message service.denom) :: working m ++
      [.action (.dropReceipt n)], ?_⟩
    rw [heq, World.run_append, World.run_append]
    rfl

/-- A hash that a relay worker answers with is that of the message that was handed in. -/
theorem hash_of_names {s₀ : σ} {capacity : Nat} {events : List World.Event}
    (hworld : ({ w with channel := c } : World σ) =
      (World.start s₀ capacity).run worker node events) {told : Response} {hash : Digest}
    (htold : (service.relay (Backend.worker worker node) c w message).1 = some told)
    (hnames : Names told hash) : hash = message.hash := by
  obtain ⟨k, ⟨-, hrefused⟩ | ⟨n, m, hsubmit, heq⟩⟩ := relay_eq_run service worker node c w message
  · rw [hrefused told htold] at hnames
    exact absurd hnames.status (by decide)
  · rw [heq] at htold
    cases htold
    have hpeek := names_ofReceipt.1 hnames
    rw [hworld, ← World.run_append] at hsubmit
    rw [hworld, ← World.run_append, ← World.run_append, ← List.append_assoc] at hpeek
    exact World.hash_of_peek hsubmit hpeek

end

/-- A submission is answered by what becomes of it and of nothing else: a raw transaction that does not
decode leaves the channel alone, one that does enters at most once and is answered with what its own
request came to, and the hash from a relay worker is that of the bytes that were handed in. -/
theorem submission_faithful (service : Service) {r : Request} {raw : String}
    (hroute : route r = .submission) (hraw : r.raw = .ok raw) :
    (∀ e, Ethereum.Message.decodeHex raw = .error e →
      ∀ {β : Type} (backend : Backend β) (c : Channel) (s : β), ∃ told,
        service.answer backend c s r = (some told, c, s) ∧ told.status = 400 ∧
          Explains told (.build e.toBuildError) ∧
          (RelayError.build e.toBuildError).isRetryable = false) ∧
    ∀ message, Ethereum.Message.decodeHex raw = .ok message →
      (∀ {β : Type} (backend : Backend β) (s : β) (capacity : Nat)
        (before room wait : List Operation),
        let c := (create capacity).performAll before
        let answer := service.answer backend c s r
        service.Course backend c s message room wait →
          Submitted capacity ((create capacity).history (before ++ room)) (c.performAll room)
            message service.denom wait answer.1 answer.2.1) ∧
      ∀ {σ : Type} (worker : Worker) (node : Node σ) (s₀ : σ) (capacity : Nat)
        (events : List World.Event) (c : Channel) (w : World σ),
        ({ w with channel := c } : World σ) =
          (World.start s₀ capacity).run worker node events →
        let answer := service.answer (Backend.worker worker node) c w r
        (∃ before room wait, c = (create capacity).performAll before ∧
          service.Course (Backend.worker worker node) c w message room wait) ∧
        (∀ told hash, answer.1 = some told → Names told hash → ∃ bytes,
          Hex.decode (Hex.dropMark raw) = .ok bytes ∧ hash = Keccak.hash bytes) ∧
        ∃ more, ({ answer.2.2 with channel := answer.2.1 } : World σ) =
          (World.start s₀ capacity).run worker node (events ++ more) := by
  refine ⟨fun e herror β backend c s => ?_, fun message hdecode => ⟨?_, ?_⟩⟩
  · rw [service.answer_eq hroute hraw, herror]
    exact ⟨_, rfl, rfl, explains_failure _, rfl⟩
  · intro β backend s capacity before room wait c answer hcourse
    have hpast := ((Conserved.start capacity).performAll (before ++ room)).1
    rw [performAll_append, List.nil_append] at hpast
    have hanswer : answer = service.relay backend c s message := by
      change service.answer backend c s r = _
      rw [service.answer_eq hroute hraw, hdecode]
    rw [hanswer]
    exact hcourse.submitted hpast
  · intro σ worker node s₀ capacity events c w hworld answer
    have hanswer : answer = service.relay (Backend.worker worker node) c w message := by
      change service.answer (Backend.worker worker node) c w r = _
      rw [service.answer_eq hroute hraw, hdecode]
    rw [hanswer]
    refine ⟨?_, fun told hash htold hnames => ?_, ?_⟩
    · obtain ⟨before, hbefore, -⟩ := World.exists_operations worker node
        (World.start s₀ capacity) events
      obtain ⟨room, wait, hcourse⟩ := exists_course service worker node c w message
      refine ⟨before, room, wait, ?_, hcourse⟩
      rw [← hworld] at hbefore
      exact hbefore
    · obtain ⟨bytes, hbytes, hread⟩ := Ethereum.Message.decodeHex_eq_ok.1 hdecode
      refine ⟨bytes, hbytes, ?_⟩
      rw [hash_of_names hworld htold hnames, Ethereum.Message.hash_of_decode hread]
    · obtain ⟨more, hmore⟩ := exists_run service worker node c w message
      refine ⟨more, ?_⟩
      rw [World.run_append, ← hworld]
      exact hmore

theorem eq_ok_of_toOption {ε α : Type} {x : Except ε α} {a : α} (h : x.toOption = some a) :
    x = .ok a := by
  cases x with
  | error e => cases h
  | ok b =>
      cases h
      rfl

def silent : Node Unit := fun s _ => (none, s)

/-- A text without digits and a contract creation: at a queue that nobody reads, at a receiver that
answers with the hash, and at a worker whose node never answers. -/
theorem submission_faithful_creation :
    let service : Service := ⟨"aevmos", "evmos1payer"⟩
    let empty : Request :=
      ⟨"POST", "/v1/transactions", some "application/json", "\x7b\"raw\":\"0x\"\x7d"⟩
    let creation : Request := ⟨"POST", "/v1/transactions", some "application/json",
      "\x7b\"raw\":\"0xcb80808252088080801b0101\"\x7d"⟩
    (∃ told, service.answer Backend.idle (create 1) () empty = (some told, create 1, ()) ∧
      told.status = 400) ∧
    (service.answer Backend.idle (create 1) () creation).1 = some ⟨504, .failure .timeout⟩ ∧
    (∃ told message, (service.answer Backend.scripted (create 1) [.hash] creation).1 = some told ∧
      Ethereum.Message.decodeHex "0xcb80808252088080801b0101" = .ok message ∧
      Names told message.hash) ∧
    let answer := service.answer (Backend.worker sampleWorker silent) (create 1)
      (World.start () 1) creation
    ∃ more, ({ answer.2.2 with channel := answer.2.1 } : World Unit) =
      (World.start () 1).run sampleWorker silent more := by
  intro service empty creation
  have hempty : empty.raw = .ok "0x" := eq_ok_of_toOption (by decide +kernel)
  have hcreation : creation.raw = .ok "0xcb80808252088080801b0101" :=
    eq_ok_of_toOption (by decide +kernel)
  obtain ⟨message, hdecode⟩ : ∃ message,
      Ethereum.Message.decodeHex "0xcb80808252088080801b0101" = .ok message := by
    obtain ⟨message, hread, -⟩ := Ethereum.exists_decode_creation []
    rw [List.append_nil, Ethereum.signedBytes_creation] at hread
    exact ⟨message, Ethereum.Message.decodeHex_eq_ok.2
      ⟨_, eq_ok_of_toOption (by decide +kernel), hread⟩⟩
  obtain ⟨hrefused, -⟩ := service.submission_faithful (r := empty) (by decide +kernel) hempty
  obtain ⟨-, haccepted⟩ := service.submission_faithful (r := creation) (by decide +kernel) hcreation
  obtain ⟨hqueue, hworker⟩ := haccepted message hdecode
  refine ⟨?_, ?_, ?_, ?_⟩
  · obtain ⟨told, htold, hstatus, -⟩ := hrefused .empty rfl Backend.idle (create 1) ()
    exact ⟨told, htold, hstatus⟩
  · have hcourse : service.Course Backend.idle (create 1) () message [] [] :=
      ⟨rfl, fun n d _ => ⟨rfl, by simp⟩⟩
    obtain ⟨-, -, hentered⟩ := hqueue Backend.idle () 1 [] [] [] hcourse
    obtain ⟨-, -, told, hanswer, htold⟩ := hentered rfl (by decide)
    have hlate : told = ⟨504, .failure .timeout⟩ := htold.late.2 (.inl rfl)
    rw [← hlate]
    exact hanswer
  · have hcourse : service.Course Backend.scripted (create 1) [.hash] message []
        [.receive, .reply 0 (.ok message.hash), .close] := by
      refine ⟨rfl, fun n d hs => ?_⟩
      cases hs
      exact ⟨rfl, by simp [Operation.receipt?]⟩
    obtain ⟨-, -, hentered⟩ := hqueue Backend.scripted [.hash] 1 [] [] _ hcourse
    obtain ⟨-, -, told, hanswer, htold⟩ := hentered rfl (by decide)
    exact ⟨told, message, hanswer, hdecode, (htold.relayed message.hash).2 (.head _)⟩
  · exact (hworker sampleWorker silent () 1 [] (create 1) (World.start () 1) rfl).2.2

end GasSponsor.Api.Service
