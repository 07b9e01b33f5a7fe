import GasSponsor.Relay.Channel

/-!
# What the channel's operations change

Requests enter the queue at one end with the next free number and a new ticket, and leave it at the
other. Closing and abandoning lose the tickets of the requests that they drop, and no others.
-/

namespace GasSponsor.Relay.Channel

variable (c : Channel)

theorem setTicket_tickets (n k : Nat) (f : Ticket → Ticket) :
    (c.setTicket n f).tickets[k]? = if n = k then c.tickets[k]?.map f else c.tickets[k]? := by
  rw [setTicket, List.getElem?_modify]
  by_cases h : n = k
  · simp [h]
  · simp [h]

@[simp] theorem loseAll_queue (rs : List Request) : (c.loseAll rs).queue = c.queue := by
  induction rs generalizing c with
  | nil => rfl
  | cons r rs ih => exact ih _

@[simp] theorem loseAll_held (rs : List Request) : (c.loseAll rs).held = c.held := by
  induction rs generalizing c with
  | nil => rfl
  | cons r rs ih => exact ih _

@[simp] theorem loseAll_isOpen (rs : List Request) : (c.loseAll rs).isOpen = c.isOpen := by
  induction rs generalizing c with
  | nil => rfl
  | cons r rs ih => exact ih _

@[simp] theorem length_tickets_loseAll (rs : List Request) :
    (c.loseAll rs).tickets.length = c.tickets.length := by
  induction rs generalizing c with
  | nil => rfl
  | cons r rs ih => exact (ih _).trans (List.length_modify _ _ _)

theorem length_tickets_close : c.close.tickets.length = c.tickets.length :=
  length_tickets_loseAll c c.queue

theorem length_tickets_abandon : c.abandon.tickets.length = c.tickets.length :=
  (length_tickets_loseAll c.close c.held).trans c.length_tickets_close

@[simp] theorem close_held : c.close.held = c.held := loseAll_held c c.queue

theorem abandon_queue : c.abandon.queue = [] := loseAll_queue c.close c.held

theorem abandon_isOpen : c.abandon.isOpen = false := loseAll_isOpen c.close c.held

def reply? (n : Nat) : Option Reply := c.tickets[n]?.map Ticket.reply

theorem reply?_lose (number n : Nat) : (c.setTicket number lose).reply? n =
    if number = n then (c.reply? n).map fun _ => .lost else c.reply? n := by
  rw [reply?, setTicket_tickets, reply?]
  split
  · cases c.tickets[n]? <;> rfl
  · rfl

theorem reply?_give (number n : Nat) (result : RelayResult) :
    (c.setTicket number fun t => { t with reply := .given result }).reply? n =
      if number = n then (c.reply? n).map fun _ => .given result else c.reply? n := by
  rw [reply?, setTicket_tickets, reply?]
  split
  · cases c.tickets[n]? <;> rfl
  · rfl

theorem reply?_dropReceipt (number n : Nat) : (c.dropReceipt number).2.reply? n = c.reply? n := by
  rw [dropReceipt, reply?, setTicket_tickets, reply?]
  split
  · cases c.tickets[n]? <;> rfl
  · rfl

theorem reply?_loseAll (rs : List Request) (n : Nat) : (c.loseAll rs).reply? n =
    if n ∈ rs.map Request.number then (c.reply? n).map fun _ => .lost else c.reply? n := by
  induction rs generalizing c with
  | nil => simp [loseAll]
  | cons r rs ih =>
      have hstep : (c.loseAll (r :: rs)).reply? n =
          ((c.setTicket r.number lose).loseAll rs).reply? n := rfl
      rw [hstep, ih, reply?_lose]
      by_cases hr : r.number = n
      · by_cases hrs : n ∈ rs.map Request.number
        · simp [hr, hrs, Function.comp_def]
        · simp [hr, hrs]
      · simp [hr, Ne.symm hr]

/-- Only a request that is dropped loses its reply. -/
theorem reply?_close (n : Nat) : c.close.reply? n =
    if n ∈ c.queue.map Request.number then (c.reply? n).map fun _ => .lost else c.reply? n :=
  c.reply?_loseAll c.queue n

theorem reply?_abandon (n : Nat) : c.abandon.reply? n =
    if n ∈ c.held.map Request.number then (c.close.reply? n).map fun _ => .lost
    else c.close.reply? n :=
  c.close.reply?_loseAll c.held n

theorem reply?_of_lt {n : Nat} (h : n < c.tickets.length) : ∃ r, c.reply? n = some r := by
  rw [reply?, List.getElem?_eq_getElem h]
  exact ⟨_, rfl⟩

theorem lt_of_isKept {n : Nat} (h : c.isKept n = true) : n < c.tickets.length := by
  unfold isKept at h
  cases hn : c.tickets[n]? with
  | none =>
      rw [hn] at h
      cases h
  | some t => exact (List.getElem?_eq_some_iff.1 hn).1

theorem isKept_setTicket (number n : Nat) {f : Ticket → Ticket}
    (hf : ∀ t, (f t).kept = t.kept) : (c.setTicket number f).isKept n = c.isKept n := by
  rw [isKept, setTicket_tickets, isKept]
  by_cases h : number = n
  · rw [if_pos h]
    cases c.tickets[n]? with
    | none => rfl
    | some t => exact hf t
  · rw [if_neg h]

theorem isKept_dropReceipt (number n : Nat) :
    (c.dropReceipt number).2.isKept n = (c.isKept n && decide (number ≠ n)) := by
  rw [dropReceipt, isKept, setTicket_tickets, isKept]
  by_cases h : number = n
  · rw [if_pos h, decide_eq_false fun hne => hne h, Bool.and_false]
    cases c.tickets[n]? <;> rfl
  · rw [if_neg h, decide_eq_true h, Bool.and_true]

theorem isKept_loseAll (rs : List Request) (n : Nat) :
    (c.loseAll rs).isKept n = c.isKept n := by
  induction rs generalizing c with
  | nil => rfl
  | cons r rs ih => exact (ih _).trans (c.isKept_setTicket r.number n fun _ => rfl)

theorem isKept_close (n : Nat) : c.close.isKept n = c.isKept n :=
  c.isKept_loseAll c.queue n

theorem peek_eq (n : Nat) :
    c.peek n = if c.isKept n then
      match c.reply? n with
      | some (.given result) => .resolved result
      | some .lost => .resolved (.error .workerUnavailable)
      | _ => .awaited
    else .gone := by
  rw [peek, isKept, reply?]
  cases c.tickets[n]? with
  | none => rfl
  | some t =>
      obtain ⟨kept, reply⟩ := t
      cases kept with
      | false => rfl
      | true => cases reply <;> rfl

/-- A request is refused by a closed channel, waits at a full one, and else enters the queue. -/
theorem submit_cases (message : Ethereum.Message) (denom : String) :
    (c.submit message denom = (.refused, c) ∧ c.isOpen = false) ∨
    (c.submit message denom = (.full, c) ∧ c.isOpen = true ∧ c.capacity ≤ c.queue.length) ∨
    (c.submit message denom = (.accepted c.tickets.length, { c with
        queue := c.queue ++ [⟨c.tickets.length, message, denom⟩]
        tickets := c.tickets ++ [⟨true, .awaited⟩] }) ∧
      c.isOpen = true ∧ c.queue.length < c.capacity) := by
  unfold submit
  cases hopen : c.isOpen with
  | false => exact .inl ⟨rfl, rfl⟩
  | true =>
      by_cases hfull : c.capacity ≤ c.queue.length
      · refine .inr (.inl ⟨?_, rfl, hfull⟩)
        simp [hfull]
      · refine .inr (.inr ⟨?_, rfl, Nat.lt_of_not_le hfull⟩)
        simp [hfull]

/-- A submission writes only at a new receipt. -/
theorem reply?_submit (message : Ethereum.Message) (denom : String) (n : Nat) :
    (c.submit message denom).2.reply? n = c.reply? n ∨
      (c.reply? n = none ∧ (c.submit message denom).2.reply? n = some .awaited) := by
  rcases c.submit_cases message denom with ⟨h, _⟩ | ⟨h, _⟩ | ⟨h, _⟩
  · rw [h]
    exact .inl rfl
  · rw [h]
    exact .inl rfl
  · rw [h]
    rcases Nat.lt_trichotomy n c.tickets.length with hlt | heq | hgt
    · refine .inl ?_
      rw [reply?, reply?, List.getElem?_append_left hlt]
    · refine .inr ⟨?_, ?_⟩
      · rw [reply?, heq, List.getElem?_eq_none (Nat.le_refl _)]
        rfl
      · rw [reply?, heq, List.getElem?_concat_length]
        rfl
    · refine .inl ?_
      have hlength : (c.tickets ++ [(⟨true, .awaited⟩ : Ticket)]).length ≤ n := by
        rw [List.length_append]
        exact hgt
      rw [reply?, reply?, List.getElem?_eq_none hlength, List.getElem?_eq_none (Nat.le_of_lt hgt)]

@[simp] theorem submit_held (message : Ethereum.Message) (denom : String) :
    (c.submit message denom).2.held = c.held := by
  rcases c.submit_cases message denom with ⟨h, _⟩ | ⟨h, _⟩ | ⟨h, _⟩ <;> rw [h]

end GasSponsor.Relay.Channel
