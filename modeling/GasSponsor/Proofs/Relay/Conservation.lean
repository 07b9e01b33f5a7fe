import GasSponsor.Proofs.Relay.Channel

/-!
# Conservation of requests

Callers and the receiver use the channel in any order, and a history lists the uses with what each
came back with. By the history alone every request that entered is in one place: it is queued, held,
answered or discarded. The channel agrees with its history after every use, so that what a use comes
back with is settled by the uses before it.
-/

namespace GasSponsor.Relay

namespace Channel

/-- Answers a held request, which need not be the one held longest. -/
def replyTo (c : Channel) (number : Nat) (result : RelayResult) : Bool × Channel :=
  (c.isKept number,
    { c with held := c.held.eraseP (·.number = number) }.setTicket number
      fun t => { t with reply := .given result })

def discardOf (c : Channel) (number : Nat) : Channel :=
  { c with held := c.held.eraseP (·.number = number) }.setTicket number lose

theorem reply_eq_replyTo {c : Channel} {r : Request} {rest : List Request} (h : c.held = r :: rest)
    (result : RelayResult) : c.reply result = some (c.replyTo r.number result) := by
  rw [reply, replyTo, h, List.eraseP_cons_of_pos (by simp)]

theorem discard_eq_discardOf {c : Channel} {r : Request} {rest : List Request}
    (h : c.held = r :: rest) : c.discard = some (c.discardOf r.number) := by
  rw [discard, discardOf, h, List.eraseP_cons_of_pos (by simp)]

inductive Operation
  | submit (message : Ethereum.Message) (denom : String)
  | receive
  | reply (number : Nat) (result : RelayResult)
  | discard (number : Nat)
  | dropReceipt (number : Nat)
  | wait (number : Nat)
  | close

/-- An operation with what it came back with. A request can only be answered or discarded while it
is held. -/
inductive Use
  | submitted (message : Ethereum.Message) (denom : String) (submission : Submission)
  | received (request : Option Request)
  | replied (number : Nat) (result : RelayResult) (delivered : Option Bool)
  | discarded (number : Nat) (held : Bool)
  | released (number : Nat) (kept : Bool)
  | waited (number : Nat) (waiting : Waiting)
  | closed

def perform (c : Channel) : Operation → Use × Channel
  | .submit message denom =>
    let (submission, c) := c.submit message denom
    (.submitted message denom submission, c)
  | .receive =>
    match c.receive with
    | none => (.received none, c)
    | some (r, c) => (.received (some r), c)
  | .reply number result =>
    if number ∈ c.held.map Request.number then
      let (delivered, c) := c.replyTo number result
      (.replied number result (some delivered), c)
    else (.replied number result none, c)
  | .discard number =>
    if number ∈ c.held.map Request.number then (.discarded number true, c.discardOf number)
    else (.discarded number false, c)
  | .dropReceipt number =>
    let (kept, c) := c.dropReceipt number
    (.released number kept, c)
  | .wait number =>
    let (waiting, c) := c.wait number
    (.waited number waiting, c)
  | .close => (.closed, c.close)

def performAll (c : Channel) (operations : List Operation) : Channel :=
  operations.foldl (fun c o => (c.perform o).2) c

def history (c : Channel) : List Operation → List Use
  | [] => []
  | o :: operations => (c.perform o).1 :: history (c.perform o).2 operations

namespace Use

@[simp] def accepted? : Use → Option Request
  | submitted message denom (.accepted number) => some ⟨number, message, denom⟩
  | _ => none

@[simp] def received? : Use → Option Request
  | received request => request
  | _ => none

@[simp] def answered? : Use → Option (Nat × RelayResult)
  | replied number result (some _) => some (number, result)
  | _ => none

@[simp] def dropped? : Use → Option Nat
  | discarded number true => some number
  | _ => none

/-- The receipt that a use takes from its caller. -/
@[simp] def spent? : Use → Option Nat
  | released number true => some number
  | waited _ .gone => none
  | waited number _ => some number
  | _ => none

@[simp] def isClosing : Use → Bool
  | closed => true
  | _ => false

end Use

def accepted (past : List Use) : List Request := past.filterMap Use.accepted?

def received (past : List Use) : List Request := past.filterMap Use.received?

def answers (past : List Use) : List (Nat × RelayResult) := past.filterMap Use.answered?

def dropped (past : List Use) : List Nat := past.filterMap Use.dropped?

def spent (past : List Use) : List Nat := past.filterMap Use.spent?

def isClosed (past : List Use) : Bool := past.any Use.isClosing

def waitingCount (past : List Use) : Nat := (accepted past).length - (received past).length

inductive Place
  | queued
  | held
  | answered (result : RelayResult)
  | discarded

/-- Where a request is by the history alone. One that was received is held until it is answered or
dropped; one that was not is queued until the channel closes, which discards it. -/
def place? (past : List Use) (number : Nat) : Option Place :=
  if number ∈ (received past).map Request.number then
    match (answers past).lookup number with
    | some result => some (.answered result)
    | none => if number ∈ dropped past then some .discarded else some .held
  else if number ∈ (accepted past).map Request.number then
    if isClosed past then some .discarded else some .queued
  else none

def Place.waiting : Place → Waiting
  | queued => .awaited
  | held => .awaited
  | answered result => .resolved result
  | discarded => .resolved (.error .workerUnavailable)

def Kept (past : List Use) (number : Nat) : Prop :=
  number ∈ (accepted past).map Request.number ∧ number ∉ spent past

def Lawful (capacity : Nat) (past : List Use) : Use → Prop
  | .submitted _ _ .refused => isClosed past = true
  | .submitted _ _ .full => isClosed past = false ∧ waitingCount past = capacity
  | .submitted _ _ (.accepted number) => isClosed past = false ∧ waitingCount past < capacity ∧
      number = (accepted past).length
  | .received none => isClosed past = true ∨ waitingCount past = 0
  | .received (some r) => isClosed past = false ∧
      (accepted past)[(received past).length]? = some r
  | .replied number _ none => place? past number ≠ some .held
  | .replied number _ (some delivered) => place? past number = some .held ∧
      (delivered = true ↔ number ∉ spent past)
  | .discarded number held => held = true ↔ place? past number = some .held
  | .released number kept => kept = true ↔ Kept past number
  | .waited number waiting =>
      (¬ Kept past number ∧ waiting = .gone) ∨
        (Kept past number ∧ ∃ place, place? past number = some place ∧ waiting = place.waiting)
  | .closed => True

section

variable (past : List Use) (u : Use)

@[simp] theorem accepted_snoc : accepted (past ++ [u]) = accepted past ++ u.accepted?.toList := by
  rw [accepted, List.filterMap_append, List.filterMap_cons, accepted]
  cases u.accepted? <;> rfl

@[simp] theorem received_snoc : received (past ++ [u]) = received past ++ u.received?.toList := by
  rw [received, List.filterMap_append, List.filterMap_cons, received]
  cases u.received? <;> rfl

@[simp] theorem answers_snoc : answers (past ++ [u]) = answers past ++ u.answered?.toList := by
  rw [answers, List.filterMap_append, List.filterMap_cons, answers]
  cases u.answered? <;> rfl

@[simp] theorem dropped_snoc : dropped (past ++ [u]) = dropped past ++ u.dropped?.toList := by
  rw [dropped, List.filterMap_append, List.filterMap_cons, dropped]
  cases u.dropped? <;> rfl

@[simp] theorem spent_snoc : spent (past ++ [u]) = spent past ++ u.spent?.toList := by
  rw [spent, List.filterMap_append, List.filterMap_cons, spent]
  cases u.spent? <;> rfl

@[simp] theorem isClosed_snoc : isClosed (past ++ [u]) = (isClosed past || u.isClosing) := by
  rw [isClosed, List.any_append, List.any_cons, List.any_nil, Bool.or_false, isClosed]

end

def dealt (past : List Use) : List Nat := (answers past).map Prod.fst ++ dropped past

def Place.reply : Place → Reply
  | queued => .awaited
  | held => .awaited
  | answered result => .given result
  | discarded => .lost

def Use.isStill : Use → Bool
  | submitted _ _ (.accepted _) => false
  | received (some _) => false
  | replied _ _ (some _) => false
  | discarded _ true => false
  | closed => false
  | _ => true

structure Conserved (capacity : Nat) (c : Channel) (past : List Use) : Prop where
  capacity_eq : c.capacity = capacity
  isOpen_eq : c.isOpen = !isClosed past
  order : received past ++ c.queue <+: accepted past
  whole : isClosed past = false → accepted past = received past ++ c.queue
  emptied : isClosed past = true → c.queue = []
  bound : c.queue.length ≤ capacity
  numbers : (accepted past).map Request.number = List.range c.tickets.length
  held_eq : c.held = (received past).filter fun r => decide (r.number ∉ dealt past)
  dealt_received : ∀ n ∈ dealt past, n ∈ (received past).map Request.number
  dealt_nodup : (dealt past).Nodup
  spent_accepted : ∀ n ∈ spent past, n ∈ (accepted past).map Request.number
  kept : ∀ n, c.isKept n = true ↔ Kept past n
  reply : ∀ n, c.reply? n = (place? past n).map Place.reply

theorem capacity_loseAll (c : Channel) (rs : List Request) :
    (c.loseAll rs).capacity = c.capacity := by
  induction rs generalizing c with
  | nil => rfl
  | cons r rs ih => exact ih _

theorem getElem?_concat (ts : List Ticket) (t : Ticket) (n : Nat) :
    (ts ++ [t])[n]? = if n = ts.length then some t else ts[n]? := by
  rcases Nat.lt_trichotomy n ts.length with hlt | rfl | hgt
  · rw [if_neg (Nat.ne_of_lt hlt), List.getElem?_append_left hlt]
  · rw [if_pos rfl, List.getElem?_concat_length]
  · rw [if_neg (Nat.ne_of_gt hgt), List.getElem?_eq_none (Nat.le_of_lt hgt),
      List.getElem?_eq_none (by rw [List.length_append]; exact hgt)]

/-- Of requests with different numbers, erasing by number is filtering. -/
theorem eraseP_eq_filter {rs : List Request} (h : (rs.map Request.number).Nodup) (n : Nat) :
    rs.eraseP (·.number = n) = rs.filter fun r => decide (r.number ≠ n) := by
  induction rs with
  | nil => rfl
  | cons r rs ih =>
      obtain ⟨hr, hrs⟩ := List.nodup_cons.1 h
      by_cases hn : r.number = n
      · rw [List.eraseP_cons_of_pos (by simpa using hn), List.filter_cons_of_neg (by simpa using hn),
          List.filter_eq_self.2]
        intro s hs
        refine decide_eq_true fun heq => hr ?_
        rw [hn, ← heq]
        exact List.mem_map_of_mem hs
      · rw [List.eraseP_cons_of_neg (by simpa using hn), List.filter_cons_of_pos (by simpa using hn),
          ih hrs]

section

variable {capacity : Nat} {c d : Channel} {past : List Use} {u : Use} {n : Nat}

theorem mem_dealt : n ∈ dealt past ↔ n ∈ (answers past).map Prod.fst ∨ n ∈ dropped past :=
  List.mem_append

theorem lookup_eq_none : (answers past).lookup n = none ↔ n ∉ (answers past).map Prod.fst := by
  rw [List.lookup_eq_none_iff]
  simp only [List.mem_map, not_exists, not_and, bne_iff_ne]
  exact ⟨fun h p hp heq => h p hp heq.symm, fun h p hp heq => h p hp heq.symm⟩

theorem not_mem_dealt : n ∉ dealt past ↔ (answers past).lookup n = none ∧ n ∉ dropped past := by
  rw [mem_dealt, not_or, lookup_eq_none]

theorem place?_eq_held : place? past n = some .held ↔
    n ∈ (received past).map Request.number ∧ n ∉ dealt past := by
  rw [not_mem_dealt, place?]
  by_cases hreceived : n ∈ (received past).map Request.number
  · rw [if_pos hreceived]
    cases hlookup : (answers past).lookup n with
    | some result => simp
    | none => by_cases hdropped : n ∈ dropped past <;> simp [hreceived, hdropped]
  · rw [if_neg hreceived]
    split
    · cases isClosed past <;> simp [hreceived]
    · simp [hreceived]

theorem place?_eq_queued : place? past n = some .queued ↔ isClosed past = false ∧
    n ∈ (accepted past).map Request.number ∧ n ∉ (received past).map Request.number := by
  rw [place?]
  by_cases hreceived : n ∈ (received past).map Request.number
  · rw [if_pos hreceived]
    cases (answers past).lookup n with
    | some result => simp [hreceived]
    | none => by_cases hdropped : n ∈ dropped past <;> simp [hreceived, hdropped]
  · rw [if_neg hreceived]
    by_cases haccepted : n ∈ (accepted past).map Request.number
    · rw [if_pos haccepted]
      cases isClosed past <;> simp [haccepted, hreceived]
    · simp [haccepted]

theorem exists_place (h : n ∈ (accepted past).map Request.number) :
    ∃ place, place? past n = some place := by
  rw [place?, if_pos h]
  by_cases hreceived : n ∈ (received past).map Request.number
  · rw [if_pos hreceived]
    cases (answers past).lookup n with
    | some result => exact ⟨_, rfl⟩
    | none => by_cases hdropped : n ∈ dropped past <;> simp [hdropped]
  · rw [if_neg hreceived]
    cases isClosed past <;> simp

theorem still_snoc (past : List Use) (h : u.isStill = true) :
    accepted (past ++ [u]) = accepted past ∧ received (past ++ [u]) = received past ∧
      answers (past ++ [u]) = answers past ∧ dropped (past ++ [u]) = dropped past ∧
      isClosed (past ++ [u]) = isClosed past := by
  cases u with
  | submitted message denom submission => cases submission <;> simp_all [Use.isStill]
  | received request => cases request <;> simp_all [Use.isStill]
  | replied number result delivered => cases delivered <;> simp_all [Use.isStill]
  | discarded number held => cases held <;> simp_all [Use.isStill]
  | released number kept => simp
  | waited number waiting => simp
  | closed => cases h

namespace Conserved

theorem received_accepted (h : Conserved capacity c past) :
    ∀ n ∈ (received past).map Request.number, n ∈ (accepted past).map Request.number := by
  intro n hn
  rw [List.mem_map] at hn ⊢
  obtain ⟨r, hr, heq⟩ := hn
  exact ⟨r, h.order.subset (List.mem_append_left _ hr), heq⟩

theorem mem_accepted (h : Conserved capacity c past) :
    n ∈ (accepted past).map Request.number ↔ n < c.tickets.length := by
  rw [h.numbers, List.mem_range]

theorem nodup_places (h : Conserved capacity c past) :
    ((received past ++ c.queue).map Request.number).Nodup := by
  have hall : ((accepted past).map Request.number).Nodup := by
    rw [h.numbers]
    exact List.nodup_range
  exact (h.order.map Request.number).sublist.nodup hall

theorem waitingCount_eq (h : Conserved capacity c past) (hclosed : isClosed past = false) :
    waitingCount past = c.queue.length := by
  rw [waitingCount, h.whole hclosed, List.length_append, Nat.add_sub_cancel_left]

theorem open_of_queue (h : Conserved capacity c past) {r : Request} {rest : List Request}
    (hqueue : c.queue = r :: rest) : isClosed past = false := by
  cases hclosed : isClosed past with
  | false => rfl
  | true =>
      rw [h.emptied hclosed] at hqueue
      cases hqueue

theorem mem_queue (h : Conserved capacity c past) :
    n ∈ c.queue.map Request.number ↔ place? past n = some .queued := by
  rw [place?_eq_queued]
  cases hclosed : isClosed past with
  | true => simp [h.emptied hclosed]
  | false =>
      have hnodup := h.nodup_places
      rw [List.map_append] at hnodup
      rw [h.whole hclosed, List.map_append, List.mem_append]
      constructor
      · exact fun hq => ⟨rfl, .inr hq, fun hr => (List.nodup_append.1 hnodup).2.2 _ hr _ hq rfl⟩
      · rintro ⟨_, hr | hq, hnot⟩
        · exact absurd hr hnot
        · exact hq

theorem mem_held (h : Conserved capacity c past) :
    n ∈ c.held.map Request.number ↔ place? past n = some .held := by
  rw [place?_eq_held, h.held_eq]
  simp only [List.mem_map, List.mem_filter, decide_eq_true_eq]
  constructor
  · rintro ⟨r, ⟨hr, hdealt⟩, rfl⟩
    exact ⟨⟨r, hr, rfl⟩, hdealt⟩
  · rintro ⟨⟨r, hr, rfl⟩, hdealt⟩
    exact ⟨r, ⟨hr, hdealt⟩, rfl⟩

/-- A use that moves no request keeps the agreement if it keeps account of the receipts. -/
theorem still (h : Conserved capacity c past) (hu : u.isStill = true)
    (hcapacity : d.capacity = c.capacity) (hopen : d.isOpen = c.isOpen) (hqueue : d.queue = c.queue)
    (hheld : d.held = c.held) (htickets : d.tickets.length = c.tickets.length)
    (hreply : ∀ n, d.reply? n = c.reply? n)
    (hspent : ∀ n ∈ u.spent?, n ∈ (accepted past).map Request.number)
    (hkept : ∀ n, d.isKept n = true ↔ c.isKept n = true ∧ n ∉ u.spent?) :
    Conserved capacity d (past ++ [u]) := by
  obtain ⟨haccepted, hreceived, hanswers, hdropped, hclosed⟩ := still_snoc past hu
  have hdealt : dealt (past ++ [u]) = dealt past := by rw [dealt, hanswers, hdropped, dealt]
  have hplace : ∀ n, place? (past ++ [u]) n = place? past n := fun n => by
    rw [place?, haccepted, hreceived, hanswers, hdropped, hclosed, place?]
  refine ⟨hcapacity.trans h.capacity_eq, ?_, ?_, ?_, ?_, ?_, ?_, ?_, ?_, ?_, ?_, ?_, ?_⟩
  · rw [hopen, hclosed, h.isOpen_eq]
  · rw [hreceived, hqueue, haccepted]
    exact h.order
  · rw [hreceived, hqueue, haccepted, hclosed]
    exact h.whole
  · rw [hqueue, hclosed]
    exact h.emptied
  · rw [hqueue]
    exact h.bound
  · rw [haccepted, htickets]
    exact h.numbers
  · rw [hheld, hreceived, hdealt]
    exact h.held_eq
  · rw [hdealt, hreceived]
    exact h.dealt_received
  · rw [hdealt]
    exact h.dealt_nodup
  · rw [spent_snoc, haccepted]
    intro n hn
    rcases List.mem_append.1 hn with hn | hn
    · exact h.spent_accepted n hn
    · exact hspent n (Option.mem_toList.1 hn)
  · intro n
    rw [hkept, h.kept, Kept, Kept, spent_snoc, haccepted, List.mem_append, Option.mem_toList,
      not_or, and_assoc]
    exact Iff.rfl
  · intro n
    rw [hreply, hplace]
    exact h.reply n

theorem isClosed_eq (h : Conserved capacity c past) : isClosed past = !c.isOpen := by
  rw [h.isOpen_eq, Bool.not_not]

/-- A request enters the queue under the next number. -/
theorem enter (h : Conserved capacity c past) (hopen : c.isOpen = true)
    (hroom : c.queue.length < capacity) (message : Ethereum.Message) (denom : String) :
    Conserved capacity
      { c with
        queue := c.queue ++ [⟨c.tickets.length, message, denom⟩]
        tickets := c.tickets ++ [⟨true, .awaited⟩] }
      (past ++ [.submitted message denom (.accepted c.tickets.length)]) := by
  have hclosed : isClosed past = false := by rw [h.isClosed_eq, hopen, Bool.not_true]
  have hfresh : c.tickets.length ∉ (accepted past).map Request.number := fun hmem =>
    Nat.lt_irrefl _ (h.mem_accepted.1 hmem)
  have hunreceived : c.tickets.length ∉ (received past).map Request.number := fun hmem =>
    hfresh (h.received_accepted _ hmem)
  have hunspent : c.tickets.length ∉ spent past := fun hmem => hfresh (h.spent_accepted _ hmem)
  have hdealt : dealt (past ++ [.submitted message denom (.accepted c.tickets.length)]) =
      dealt past := by simp [dealt]
  refine ⟨h.capacity_eq, ?_, ?_, ?_, ?_, ?_, ?_, ?_, ?_, ?_, ?_, ?_, ?_⟩
  · simpa using h.isOpen_eq
  · simp [h.whole hclosed]
  · simp [h.whole hclosed]
  · simp [hclosed]
  · rw [List.length_append]
    exact hroom
  · simp [h.numbers, List.range_succ]
  · rw [hdealt]
    simpa using h.held_eq
  · rw [hdealt]
    simpa using h.dealt_received
  · rw [hdealt]
    exact h.dealt_nodup
  · intro n hn
    simp only [spent_snoc, Use.spent?, Option.toList_none, List.append_nil] at hn
    simp only [accepted_snoc, List.map_append]
    exact List.mem_append_left _ (h.spent_accepted n hn)
  · intro n
    have hkept := h.kept n
    rw [isKept] at hkept ⊢
    rw [getElem?_concat]
    by_cases hn : n = c.tickets.length
    · subst hn
      simpa [Kept] using hunspent
    · simpa [Kept, hn] using hkept
  · intro n
    have hreply := h.reply n
    rw [reply?] at hreply ⊢
    rw [getElem?_concat]
    by_cases hn : n = c.tickets.length
    · subst hn
      simp [place?, hunreceived, hclosed, Place.reply]
    · simpa [place?, hn] using hreply

/-- The oldest queued request becomes held. -/
theorem take (h : Conserved capacity c past) {r : Request} {rest : List Request}
    (hqueue : c.queue = r :: rest) :
    Conserved capacity { c with queue := rest, held := c.held ++ [r] }
      (past ++ [.received (some r)]) := by
  have hclosed := h.open_of_queue hqueue
  have hwhole := h.whole hclosed
  rw [hqueue] at hwhole
  have hunreceived : r.number ∉ (received past).map Request.number := by
    have hnodup := h.nodup_places
    rw [hqueue, List.map_append] at hnodup
    exact fun hmem => (List.nodup_append.1 hnodup).2.2 _ hmem _ List.mem_cons_self rfl
  have hundealt : r.number ∉ dealt past := fun hmem => hunreceived (h.dealt_received _ hmem)
  have haccepted : r.number ∈ (accepted past).map Request.number := by
    rw [hwhole]
    simp
  have hdealt : dealt (past ++ [.received (some r)]) = dealt past := by simp [dealt]
  refine ⟨h.capacity_eq, ?_, ?_, ?_, ?_, ?_, ?_, ?_, ?_, ?_, ?_, ?_, ?_⟩
  · simpa using h.isOpen_eq
  · simp [hwhole]
  · simp [hwhole]
  · simp [hclosed]
  · have hbound := h.bound
    rw [hqueue] at hbound
    exact Nat.le_of_succ_le hbound
  · simpa using h.numbers
  · rw [hdealt]
    simp [h.held_eq, hundealt]
  · rw [hdealt, received_snoc, List.map_append]
    exact fun n hn => List.mem_append_left _ (h.dealt_received n hn)
  · rw [hdealt]
    exact h.dealt_nodup
  · simpa using h.spent_accepted
  · intro n
    have hkept := h.kept n
    rw [isKept] at hkept ⊢
    simpa [Kept] using hkept
  · intro n
    have hreply := h.reply n
    rw [reply?] at hreply ⊢
    by_cases hn : n = r.number
    · subst hn
      obtain ⟨hlookup, hdrop⟩ := not_mem_dealt.1 hundealt
      have hbefore : place? past r.number = some .queued := by
        rw [place?, if_neg hunreceived, if_pos haccepted, hclosed, if_neg Bool.false_ne_true]
      have hafter : place? (past ++ [.received (some r)]) r.number = some .held := by
        rw [place?_eq_held, hdealt]
        exact ⟨by simp, hundealt⟩
      rw [hafter, hreply, hbefore]
      rfl
    · simpa [place?, hn] using hreply

/-- A held request is answered or dropped: `f` writes the place where it then is at its receipt. -/
theorem deal (h : Conserved capacity c past) (place : Place) {f : Ticket → Ticket}
    (hheld : n ∈ c.held.map Request.number) (hkept : ∀ t, (f t).kept = t.kept)
    (hreply : ∀ t, (f t).reply = place.reply)
    (haccepted : accepted (past ++ [u]) = accepted past)
    (hreceived : received (past ++ [u]) = received past)
    (hspent : spent (past ++ [u]) = spent past)
    (hclosed : isClosed (past ++ [u]) = isClosed past)
    (hdealt : (dealt (past ++ [u])).Perm (n :: dealt past))
    (hhere : place? (past ++ [u]) n = some place)
    (hthere : ∀ k, k ≠ n → place? (past ++ [u]) k = place? past k) :
    Conserved capacity
      ({ c with held := c.held.eraseP (·.number = n) }.setTicket n f) (past ++ [u]) := by
  have hbefore := h.mem_held.1 hheld
  obtain ⟨hin, hundealt⟩ := place?_eq_held.1 hbefore
  refine ⟨h.capacity_eq, ?_, ?_, ?_, ?_, h.bound, ?_, ?_, ?_, ?_, ?_, ?_, ?_⟩
  · rw [hclosed]
    exact h.isOpen_eq
  · rw [hreceived, haccepted]
    exact h.order
  · rw [hreceived, haccepted, hclosed]
    exact h.whole
  · rw [hclosed]
    exact h.emptied
  · rw [haccepted, setTicket, List.length_modify]
    exact h.numbers
  · rw [hreceived]
    have hnodup : (c.held.map Request.number).Nodup := by
      have hplaces := h.nodup_places
      rw [List.map_append] at hplaces
      rw [h.held_eq]
      exact (List.filter_sublist.map Request.number).nodup (List.nodup_append.1 hplaces).1
    change c.held.eraseP _ = _
    rw [eraseP_eq_filter hnodup, h.held_eq, List.filter_filter]
    refine List.filter_congr fun r _ => ?_
    rw [← Bool.decide_and, decide_eq_decide, hdealt.mem_iff, List.mem_cons, not_or]
  · rw [hreceived]
    intro k hk
    rcases List.mem_cons.1 (hdealt.mem_iff.1 hk) with rfl | hk
    · exact hin
    · exact h.dealt_received k hk
  · exact hdealt.nodup_iff.2 (List.nodup_cons.2 ⟨hundealt, h.dealt_nodup⟩)
  · rw [hspent, haccepted]
    exact h.spent_accepted
  · intro k
    rw [isKept_setTicket _ _ _ hkept, Kept, hspent, haccepted]
    exact h.kept k
  · intro k
    have hticket := h.reply k
    rw [reply?] at hticket ⊢
    rw [setTicket_tickets]
    by_cases hk : n = k
    · subst hk
      rw [hbefore] at hticket
      obtain ⟨t, ht, _⟩ := Option.map_eq_some_iff.1 hticket
      rw [if_pos rfl, ht, hhere, Option.map_some, Option.map_some, Option.map_some, hreply]
    · rw [if_neg hk, hthere k (Ne.symm hk)]
      exact hticket

theorem answer (h : Conserved capacity c past) (hheld : n ∈ c.held.map Request.number)
    (result : RelayResult) (delivered : Bool) : Conserved capacity (c.replyTo n result).2
      (past ++ [.replied n result (some delivered)]) := by
  obtain ⟨hin, hundealt⟩ := place?_eq_held.1 (h.mem_held.1 hheld)
  obtain ⟨hlookup, _⟩ := not_mem_dealt.1 hundealt
  refine h.deal (.answered result) hheld (fun _ => rfl) (fun _ => rfl) (by simp) (by simp)
    (by simp) (by simp) ?_ ?_ ?_
  · simp only [dealt, answers_snoc, dropped_snoc, Use.answered?, Use.dropped?, Option.toList_some,
      Option.toList_none, List.append_nil, List.map_append, List.map_cons, List.map_nil,
      List.append_assoc]
    exact List.perm_middle
  · simp only [place?, received_snoc, answers_snoc, Use.received?, Use.answered?,
      Option.toList_some, Option.toList_none, List.append_nil]
    rw [if_pos hin, List.lookup_append, hlookup]
    simp
  · intro k hk
    have hother : [(n, result)].lookup k = none := by
      rw [List.lookup_cons, beq_false_of_ne hk]
      rfl
    simp only [place?, accepted_snoc, received_snoc, answers_snoc, dropped_snoc, isClosed_snoc,
      Use.accepted?, Use.received?, Use.answered?, Use.dropped?, Use.isClosing,
      Option.toList_some, Option.toList_none, List.append_nil, Bool.or_false]
    rw [List.lookup_append, hother, Option.or_none]

theorem drop (h : Conserved capacity c past) (hheld : n ∈ c.held.map Request.number) :
    Conserved capacity (c.discardOf n) (past ++ [.discarded n true]) := by
  obtain ⟨hin, hundealt⟩ := place?_eq_held.1 (h.mem_held.1 hheld)
  obtain ⟨hlookup, _⟩ := not_mem_dealt.1 hundealt
  refine h.deal .discarded hheld (fun _ => rfl) (fun _ => rfl) (by simp) (by simp)
    (by simp) (by simp) ?_ ?_ ?_
  · simp only [dealt, answers_snoc, dropped_snoc, Use.answered?, Use.dropped?, Option.toList_some,
      Option.toList_none, List.append_nil, ← List.append_assoc]
    exact List.perm_append_singleton n _
  · simp [place?, hin, hlookup]
  · intro k hk
    simp [place?, hk]

/-- Closing discards what is queued. -/
theorem shut (h : Conserved capacity c past) : Conserved capacity c.close (past ++ [.closed]) := by
  have hdealt : dealt (past ++ [.closed]) = dealt past := by simp [dealt]
  refine ⟨?_, ?_, ?_, ?_, ?_, ?_, ?_, ?_, ?_, ?_, ?_, ?_, ?_⟩
  · exact (c.capacity_loseAll c.queue).trans h.capacity_eq
  · simp [close]
  · simpa [close] using (List.prefix_append _ _).trans h.order
  · simp
  · simp [close]
  · simp [close]
  · rw [length_tickets_close]
    simpa using h.numbers
  · rw [close_held, hdealt]
    simpa using h.held_eq
  · rw [hdealt]
    simpa using h.dealt_received
  · rw [hdealt]
    exact h.dealt_nodup
  · simpa using h.spent_accepted
  · intro n
    rw [isKept_close]
    simpa [Kept] using h.kept n
  · intro n
    rw [reply?_close, h.reply]
    by_cases hqueue : n ∈ c.queue.map Request.number
    · obtain ⟨hclosed, hacc, hout⟩ := place?_eq_queued.1 (h.mem_queue.1 hqueue)
      simp [hqueue, place?, hclosed, hacc, hout, Place.reply]
    · have hplace : place? (past ++ [.closed]) n = place? past n := by
        by_cases hin : n ∈ (received past).map Request.number
        · simp [place?, hin]
        · by_cases hacc : n ∈ (accepted past).map Request.number
          · have hclosed : isClosed past = true := by
              rw [← Bool.not_eq_false]
              exact fun hopen => hqueue (h.mem_queue.2 (place?_eq_queued.2 ⟨hopen, hacc, hin⟩))
            simp [place?, hin, hclosed]
          · simp [place?, hin, hacc]
      rw [if_neg hqueue, hplace]

/-- A receipt is given up or used up. -/
theorem release (h : Conserved capacity c past) (hu : u.isStill = true)
    (hspent : u.spent? = if c.isKept n then some n else none) :
    Conserved capacity (c.dropReceipt n).2 (past ++ [u]) := by
  refine h.still hu rfl rfl rfl rfl (List.length_modify _ _ _) (c.reply?_dropReceipt n) ?_ ?_
  · intro k hk
    rw [hspent] at hk
    cases hkept : c.isKept n with
    | false =>
        rw [hkept] at hk
        cases hk
    | true =>
        rw [hkept] at hk
        cases hk
        exact ((h.kept n).1 hkept).1
  · intro k
    rw [isKept_dropReceipt, hspent, Bool.and_eq_true, decide_eq_true_eq]
    cases hkept : c.isKept n with
    | false =>
        have hne : c.isKept k = true → n ≠ k := fun hk heq => by
          rw [← heq, hkept] at hk
          cases hk
        simpa using hne
    | true => simp

/-- A caller finds what became of its request, if it has the receipt. -/
theorem peek_eq (h : Conserved capacity c past) :
    (¬ Kept past n ∧ c.peek n = .gone) ∨
      (Kept past n ∧ ∃ place, place? past n = some place ∧ c.peek n = place.waiting) := by
  rw [Channel.peek_eq, h.reply]
  by_cases hkept : Kept past n
  · refine .inr ⟨hkept, ?_⟩
    rw [if_pos ((h.kept n).2 hkept)]
    obtain ⟨place, hplace⟩ := exists_place hkept.1
    refine ⟨place, hplace, ?_⟩
    rw [hplace]
    cases place <;> rfl
  · refine .inl ⟨hkept, ?_⟩
    rw [if_neg fun hk => hkept ((h.kept n).1 hk)]

theorem perform_submit (h : Conserved capacity c past) (message : Ethereum.Message)
    (denom : String) : Conserved capacity (c.perform (.submit message denom)).2
        (past ++ [(c.perform (.submit message denom)).1]) ∧
      Lawful capacity past (c.perform (.submit message denom)).1 := by
  rcases c.submit_cases message denom with ⟨hs, hopen⟩ | ⟨hs, hopen, hfull⟩ | ⟨hs, hopen, hroom⟩
  · rw [Channel.perform, hs]
    have hclosed : isClosed past = true := by rw [h.isClosed_eq, hopen, Bool.not_false]
    exact ⟨h.still rfl rfl rfl rfl rfl rfl (fun _ => rfl) (by simp) (by simp), hclosed⟩
  · rw [Channel.perform, hs]
    have hclosed : isClosed past = false := by rw [h.isClosed_eq, hopen, Bool.not_true]
    rw [h.capacity_eq] at hfull
    refine ⟨h.still rfl rfl rfl rfl rfl rfl (fun _ => rfl) (by simp) (by simp), hclosed, ?_⟩
    rw [h.waitingCount_eq hclosed]
    exact Nat.le_antisymm h.bound hfull
  · rw [Channel.perform, hs]
    have hclosed : isClosed past = false := by rw [h.isClosed_eq, hopen, Bool.not_true]
    rw [h.capacity_eq] at hroom
    refine ⟨h.enter hopen hroom message denom, hclosed, ?_, ?_⟩
    · rw [h.waitingCount_eq hclosed]
      exact hroom
    · rw [← List.length_map Request.number, h.numbers, List.length_range]

theorem perform_receive (h : Conserved capacity c past) :
    Conserved capacity (c.perform .receive).2 (past ++ [(c.perform .receive).1]) ∧
      Lawful capacity past (c.perform .receive).1 := by
  rw [Channel.perform]
  cases hqueue : c.queue with
  | nil =>
      have hnone : c.receive = none := by rw [receive, hqueue]
      rw [hnone]
      refine ⟨h.still rfl rfl rfl rfl rfl rfl (fun _ => rfl) (by simp) (by simp), ?_⟩
      cases hclosed : isClosed past with
      | true => exact .inl hclosed
      | false =>
          refine .inr ?_
          rw [h.waitingCount_eq hclosed, hqueue, List.length_nil]
  | cons r rest =>
      have hsome : c.receive = some (r, { c with queue := rest, held := c.held ++ [r] }) := by
        rw [receive, hqueue]
      rw [hsome]
      have hclosed := h.open_of_queue hqueue
      refine ⟨h.take hqueue, hclosed, ?_⟩
      rw [h.whole hclosed, hqueue, List.getElem?_append_right (Nat.le_refl _), Nat.sub_self]
      rfl

/-- An operation keeps the agreement with the history, and comes back with what the history says. -/
theorem perform (h : Conserved capacity c past) (o : Operation) :
    Conserved capacity (c.perform o).2 (past ++ [(c.perform o).1]) ∧
      Lawful capacity past (c.perform o).1 := by
  cases o with
  | submit message denom => exact h.perform_submit message denom
  | receive => exact h.perform_receive
  | reply number result =>
      rw [Channel.perform]
      split
      · next hheld =>
          have hplace := h.mem_held.1 hheld
          refine ⟨h.answer hheld result _, hplace, ?_⟩
          rw [replyTo, h.kept]
          exact ⟨fun hk => hk.2, fun hs => ⟨h.received_accepted _ (place?_eq_held.1 hplace).1, hs⟩⟩
      · next hheld =>
          exact ⟨h.still rfl rfl rfl rfl rfl rfl (fun _ => rfl) (by simp) (by simp),
            fun hplace => hheld (h.mem_held.2 hplace)⟩
  | discard number =>
      rw [Channel.perform]
      split
      · next hheld => exact ⟨h.drop hheld, fun _ => h.mem_held.1 hheld, fun _ => rfl⟩
      · next hheld =>
          refine ⟨h.still rfl rfl rfl rfl rfl rfl (fun _ => rfl) (by simp) (by simp), ?_, ?_⟩
          · intro hfalse
            cases hfalse
          · exact fun hplace => absurd (h.mem_held.2 hplace) hheld
  | dropReceipt number =>
      refine ⟨h.release rfl ?_, h.kept number⟩
      cases hkept : c.isKept number <;> simp [Channel.perform, dropReceipt, hkept]
  | wait number =>
      refine ⟨h.release rfl ?_, h.peek_eq⟩
      rw [Channel.perform, Channel.wait]
      rcases h.peek_eq with ⟨hnot, hgone⟩ | ⟨hkept, place, _, hwaiting⟩
      · rw [if_neg fun hk => hnot ((h.kept number).1 hk), hgone]
        rfl
      · rw [if_pos ((h.kept number).2 hkept), hwaiting]
        cases place <;> rfl
  | close => exact ⟨h.shut, trivial⟩

theorem start (capacity : Nat) : Conserved capacity (create capacity) [] where
  capacity_eq := rfl
  isOpen_eq := rfl
  order := List.nil_prefix
  whole _ := rfl
  emptied _ := rfl
  bound := Nat.zero_le capacity
  numbers := rfl
  held_eq := rfl
  dealt_received _ hn := nomatch hn
  dealt_nodup := List.nodup_nil
  spent_accepted _ hn := nomatch hn
  kept _ := ⟨fun h => Bool.noConfusion h, fun h => nomatch h.1⟩
  reply _ := rfl

/-- What the channel does after a history is lawful use by use. -/
theorem performAll (h : Conserved capacity c past) (operations : List Operation) :
    Conserved capacity (c.performAll operations) (past ++ c.history operations) ∧
      ∀ front u back, c.history operations = front ++ u :: back →
        Lawful capacity (past ++ front) u := by
  induction operations generalizing c past with
  | nil =>
      rw [history, List.append_nil]
      exact ⟨h, fun front u back heq => by simp at heq⟩
  | cons o operations ih =>
      obtain ⟨hnext, hlawful⟩ := h.perform o
      obtain ⟨hlast, hrest⟩ := ih hnext
      rw [List.append_assoc] at hlast
      refine ⟨hlast, ?_⟩
      intro front u back heq
      cases front with
      | nil =>
          cases heq
          rw [List.append_nil]
          exact hlawful
      | cons v front =>
          rw [history, List.cons_append, List.cons.injEq] at heq
          obtain ⟨rfl, heq⟩ := heq
          have hu := hrest front u back heq
          rw [List.append_assoc] at hu
          exact hu

end Conserved

end

/-- However a channel is used: requests come out in the order in which they entered, none lost and
none twice; the channel holds no more than its capacity, and nothing once it is closed; every
request is in one place, and is answered or dropped at most once; and what each use comes back with
is settled by the uses before it. -/
theorem requests_conserved (capacity : Nat) (operations : List Operation) :
    let c := (create capacity).performAll operations
    let past := (create capacity).history operations
    (received past <+: accepted past ∧
      (accepted past).map Request.number = List.range (accepted past).length) ∧
    (isClosed past = false → accepted past = received past ++ c.queue ∧
      c.queued = (accepted past).length - (received past).length ∧ c.queued ≤ capacity) ∧
    (isClosed past = true → c.queued = 0) ∧
    (∀ r ∈ accepted past, ∃ place, place? past r.number = some place) ∧
    (∀ number, (number ∈ c.queue.map Request.number ↔ place? past number = some .queued) ∧
      (number ∈ c.held.map Request.number ↔ place? past number = some .held)) ∧
    ((answers past).map Prod.fst ++ dropped past).Nodup ∧
    (∀ number ∈ (answers past).map Prod.fst ++ dropped past,
      number ∈ (received past).map Request.number) ∧
    ∀ front u back, past = front ++ u :: back → Lawful capacity front u := by
  intro c past
  obtain ⟨h, hlawful⟩ := (Conserved.start capacity).performAll operations
  change Conserved capacity c past at h
  refine ⟨⟨(List.prefix_append _ _).trans h.order, ?_⟩, ?_, ?_, ?_, ?_, h.dealt_nodup,
    h.dealt_received, hlawful⟩
  · have hlength := congrArg List.length h.numbers
    rw [List.length_map, List.length_range] at hlength
    rw [hlength]
    exact h.numbers
  · intro hopen
    exact ⟨h.whole hopen, (h.waitingCount_eq hopen).symm, h.bound⟩
  · intro hclosed
    rw [queued, h.emptied hclosed, List.length_nil]
  · exact fun r hr => exists_place (List.mem_map_of_mem hr)
  · exact fun number => ⟨h.mem_queue, h.mem_held⟩

end Channel

end GasSponsor.Relay
