import GasSponsor.Ethereum.Message

/-!
# The request channel

A bounded queue of requests between any number of callers and one receiver. Every accepted request
has a ticket under its number, at which its caller waits. A request is queued, held by the receiver,
answered, or discarded without an answer; its caller keeps the receipt, or has given it up or used
it.
-/

namespace GasSponsor.Relay

/-- What a caller is told: the hash of the relayed transaction, or why it was not relayed. -/
abbrev RelayResult := Except RelayError Digest

structure Request where
  number : Nat
  message : Ethereum.Message
  denom : String
deriving DecidableEq

inductive Reply
  | awaited
  | given (result : RelayResult)
  | lost

/-- The caller's end of a request: whether the receipt is still kept, and the reply. -/
structure Ticket where
  kept : Bool
  reply : Reply

structure Channel where
  capacity : Nat
  isOpen : Bool
  queue : List Request
  held : List Request
  tickets : List Ticket

namespace Channel

def create (capacity : Nat) : Channel := ⟨capacity, true, [], [], []⟩

def queued (c : Channel) : Nat := c.queue.length

inductive Submission
  | accepted (number : Nat)
  | full
  | refused
deriving DecidableEq, Repr

/-- Puts a request into the queue. A full queue makes the caller wait, a closed one refuses. -/
def submit (c : Channel) (message : Ethereum.Message) (denom : String) : Submission × Channel :=
  if !c.isOpen then (.refused, c)
  else if c.capacity ≤ c.queue.length then (.full, c)
  else
    let number := c.tickets.length
    (.accepted number, { c with
      queue := c.queue ++ [⟨number, message, denom⟩]
      tickets := c.tickets ++ [⟨true, .awaited⟩] })

def receive (c : Channel) : Option (Request × Channel) :=
  match c.queue with
  | [] => none
  | r :: rest => some (r, { c with queue := rest, held := c.held ++ [r] })

def setTicket (c : Channel) (number : Nat) (f : Ticket → Ticket) : Channel :=
  { c with tickets := c.tickets.modify number f }

def isKept (c : Channel) (number : Nat) : Bool :=
  match c.tickets[number]? with
  | some t => t.kept
  | none => false

/-- Answers the request held longest, and tells whether its receipt was still kept. -/
def reply (c : Channel) (result : RelayResult) : Option (Bool × Channel) :=
  match c.held with
  | [] => none
  | r :: rest =>
    some (c.isKept r.number,
      { c with held := rest }.setTicket r.number fun t => { t with reply := .given result })

def lose (t : Ticket) : Ticket := { t with reply := .lost }

def discard (c : Channel) : Option Channel :=
  match c.held with
  | [] => none
  | r :: rest => some ({ c with held := rest }.setTicket r.number lose)

def loseAll (c : Channel) (rs : List Request) : Channel :=
  rs.foldl (fun c r => c.setTicket r.number lose) c

/-- Drops the receiving end together with the queued requests. -/
def close (c : Channel) : Channel :=
  { c.loseAll c.queue with isOpen := false, queue := [] }

/-- Drops the receiving end together with the queued and the held requests. -/
def abandon (c : Channel) : Channel :=
  { c.close.loseAll c.held with held := [] }

def dropReceipt (c : Channel) (number : Nat) : Bool × Channel :=
  (c.isKept number, c.setTicket number fun t => { t with kept := false })

inductive Waiting
  | gone
  | resolved (result : RelayResult)
  | awaited

def peek (c : Channel) (number : Nat) : Waiting :=
  match c.tickets[number]? with
  | none => .gone
  | some t =>
    if t.kept then
      match t.reply with
      | .awaited => .awaited
      | .given result => .resolved result
      | .lost => .resolved (.error .workerUnavailable)
    else .gone

/-- Waits at a receipt for a while and uses it up, with or without a result. -/
def wait (c : Channel) (number : Nat) : Waiting × Channel :=
  (c.peek number, (c.dropReceipt number).2)

end Channel

end GasSponsor.Relay
