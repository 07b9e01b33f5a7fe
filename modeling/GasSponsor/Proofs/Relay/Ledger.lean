import GasSponsor.Proofs.Relay.Sequence

/-!
# A ledger that keeps the sequence

An orderly ledger answers a query with its next sequence, admits exactly the envelope that carries
it, and moves it only then. A course lists what happens to a ledger: calls that it answers in order,
calls that are answered in any other way, and changes of its sequence from outside. However the
ledger is disturbed, every answer that disagrees with a sequence of the relay is owed to another
disturbance, because the worker never uses a sequence that it was told is wrong.
-/

namespace GasSponsor.Relay

/-- An answer of an orderly ledger, with its next sequence before and after it. -/
def Orderly (before : UInt64) (x : Exchange) (after : UInt64) : Prop :=
  match x with
  | ⟨.account _, some (.ok info)⟩ => info.sequence = before ∧ after = before
  | ⟨.broadcast tx, some (.ok r)⟩ => ∀ sequence, CarriesSequence tx sequence →
    if sequence = before then r.code = 0 ∧ after = before + 1
    else r.code = BroadcastResponse.codeWrongSequence ∧
      r.codespace = BroadcastResponse.coreCodespace ∧ after = before
  | _ => after = before

inductive Moment
  | orderly (x : Exchange)
  | disturbed (x : Exchange)
  | outside

namespace Moment

def exchange? : Moment → Option Exchange
  | orderly x | disturbed x => some x
  | outside => none

def isDisturbance : Moment → Bool
  | orderly _ => false
  | disturbed _ | outside => true

end Moment

/-- What happens one after another, from one next sequence of the ledger to another. -/
inductive Course (start : UInt64) : List Moment → UInt64 → Prop
  | nil : Course start [] start
  | orderly {ms : List Moment} {before after : UInt64} {x : Exchange}
      (h : Course start ms before) (hx : Orderly before x after) :
      Course start (ms ++ [.orderly x]) after
  | disturbed {ms : List Moment} {before : UInt64} (after : UInt64) (x : Exchange)
      (h : Course start ms before) : Course start (ms ++ [.disturbed x]) after
  | outside {ms : List Moment} {before : UInt64} (after : UInt64)
      (h : Course start ms before) : Course start (ms ++ [.outside]) after

def answersOf (ms : List Moment) : List Exchange := ms.filterMap Moment.exchange?

def disturbances (ms : List Moment) : Nat := ms.countP Moment.isDisturbance

def mismatches (xs : List Exchange) : Nat := xs.countP Exchange.mismatches

/-- One if the account is known with another sequence than the ledger's. -/
def owed (known : Option AccountInfo) (next : UInt64) : Nat :=
  match known with
  | some info => if info.sequence = next then 0 else 1
  | none => 0

theorem owed_le_one (known : Option AccountInfo) (next : UInt64) : owed known next ≤ 1 := by
  unfold owed
  split
  · split <;> omega
  · omega

theorem owed_self (info : AccountInfo) : owed (some info) info.sequence = 0 := if_pos rfl

theorem owed_of_ne {info : AccountInfo} {next : UInt64} (h : info.sequence ≠ next) :
    owed (some info) next = 1 := if_neg h

theorem eq_of_owed_eq_zero {info : AccountInfo} {next : UInt64} (h : owed (some info) next = 0) :
    info.sequence = next := by
  by_contra hne
  rw [owed_of_ne hne] at h
  cases h

theorem mismatches_snoc (xs : List Exchange) (x : Exchange) :
    mismatches (xs ++ [x]) = mismatches xs + if x.mismatches then 1 else 0 := by
  rw [mismatches, List.countP_append, List.countP_singleton]
  rfl

section

variable {r : BroadcastResponse} {tx : Bytes}

theorem outcome_of_code_zero (h : r.code = 0) : r.outcome = .accepted := if_pos h

theorem outcome_of_wrongSequence (hcode : r.code = BroadcastResponse.codeWrongSequence)
    (hspace : r.codespace = BroadcastResponse.coreCodespace) : r.outcome = .sequenceMismatch := by
  unfold BroadcastResponse.outcome
  rw [hcode, hspace]
  decide

theorem knownNext_accepted (info : AccountInfo) (h : r.outcome = .accepted) :
    knownNext (some info) ⟨.broadcast tx, some (.ok r)⟩ = some (info.advanced 1) := by
  simp [knownNext, Exchange.info?, Exchange.mismatches, Exchange.admits, Exchange.outcome?, h]

theorem knownNext_mismatch (known : Option AccountInfo) {x : Exchange}
    (h : x.mismatches = true) : knownNext known x = none := by
  obtain ⟨c, reply⟩ := x
  unfold Exchange.mismatches at h
  cases c with
  | broadcast tx => simp [knownNext, Exchange.info?, Exchange.mismatches, of_decide_eq_true h]
  | blockResults _ | baseFee _ | feeMarketParams | account _ =>
      simp [Exchange.outcome?] at h

end

theorem knownNext_still (known : Option AccountInfo) {x : Exchange} (hinfo : x.info? = none)
    (houtcome : x.outcome? = none) : knownNext known x = known := by
  simp [knownNext, hinfo, Exchange.mismatches, Exchange.admits, houtcome]

/-- Only a broadcast has a response to read. -/
theorem exists_broadcast_of_outcome {x : Exchange} {o : BroadcastOutcome}
    (h : x.outcome? = some o) :
    ∃ tx r, x = ⟨.broadcast tx, some (.ok r)⟩ ∧ r.outcome = o := by
  unfold Exchange.outcome? at h
  split at h
  · next tx r =>
      exact ⟨tx, r, rfl, Option.some.inj h⟩
  · cases h

/-- An answer to a call moves nothing unless it tells of the account or responds to a broadcast. -/
theorem still_of_orderly {before after : UInt64} {x : Exchange} (h : Orderly before x after)
    (hinfo : x.info? = none) (houtcome : x.outcome? = none) : after = before := by
  unfold Orderly at h
  split at h
  · cases hinfo
  · cases houtcome
  · exact h

section

variable {w : Worker}

/-- An orderly ledger that knows the sequence admits what the relay sends. -/
theorem orderly_response {info : AccountInfo} {before after : UInt64} {tx : Bytes}
    {r : BroadcastResponse} (h : Orderly before ⟨.broadcast tx, some (.ok r)⟩ after)
    (hsigned : SignedFor w.builder tx info) :
    (info.sequence = before ∧ r.outcome = .accepted ∧ after = (info.advanced 1).sequence) ∨
      (info.sequence ≠ before ∧ r.outcome = .sequenceMismatch ∧ after = before) := by
  have hanswer := h info.sequence hsigned.carriesSequence
  by_cases heq : info.sequence = before
  · rw [if_pos heq] at hanswer
    refine .inl ⟨heq, outcome_of_code_zero hanswer.1, ?_⟩
    rw [hanswer.2, ← heq]
    rfl
  · rw [if_neg heq] at hanswer
    exact .inr ⟨heq, outcome_of_wrongSequence hanswer.1 hanswer.2.1, hanswer.2.2⟩

/-- An orderly answer disagrees with the relay only if that was owed, and then it is paid. -/
theorem owed_of_orderly {known : Option AccountInfo} {before after : UInt64} {x : Exchange}
    (h : Orderly before x after) (hallowed : Allowed w known x.call) :
    (if x.mismatches then 1 else 0) + owed (knownNext known x) after ≤ owed known before := by
  cases hinfo : x.info? with
  | some info =>
      obtain ⟨address, rfl⟩ := exists_account_of_info hinfo
      obtain ⟨hbefore, rfl⟩ := h
      have hknown : knownNext known ⟨.account address, some (.ok info)⟩ = some info := rfl
      rw [hknown, ← hbefore, owed_self]
      exact Nat.zero_le _
  | none =>
      cases houtcome : x.outcome? with
      | none =>
          rw [still_of_orderly h hinfo houtcome, knownNext_still known hinfo houtcome]
          simp [Exchange.mismatches, houtcome]
      | some o =>
          obtain ⟨tx, r, rfl, _⟩ := exists_broadcast_of_outcome houtcome
          obtain ⟨info, rfl, hsigned⟩ := exists_signedFor hallowed
          rcases orderly_response h hsigned with ⟨_, hr, rfl⟩ | ⟨hne, hr, rfl⟩
          · rw [knownNext_accepted info hr, owed_self]
            simp [Exchange.mismatches, Exchange.outcome?, hr]
          · have hm : (⟨.broadcast tx, some (.ok r)⟩ : Exchange).mismatches = true := by
              simp [Exchange.mismatches, Exchange.outcome?, hr]
            rw [knownNext_mismatch _ hm, owed_of_ne hne, if_pos hm]
            exact Nat.le_refl 1

/-- A disturbed answer adds at most one to what disagrees or is owed. -/
theorem owed_of_disturbed (known : Option AccountInfo) (after : UInt64) (x : Exchange) :
    (if x.mismatches then 1 else 0) + owed (knownNext known x) after ≤ 1 := by
  cases hm : x.mismatches with
  | true =>
      rw [knownNext_mismatch known hm]
      exact Nat.le_refl 1
  | false =>
      rw [if_neg Bool.false_ne_true, Nat.zero_add]
      exact owed_le_one _ _

theorem answersOf_append (ms more : List Moment) :
    answersOf (ms ++ more) = answersOf ms ++ answersOf more :=
  List.filterMap_append

theorem answersOf_orderly (ms : List Moment) (x : Exchange) :
    answersOf (ms ++ [.orderly x]) = answersOf ms ++ [x] :=
  answersOf_append ms [.orderly x]

theorem answersOf_disturbed (ms : List Moment) (x : Exchange) :
    answersOf (ms ++ [.disturbed x]) = answersOf ms ++ [x] :=
  answersOf_append ms [.disturbed x]

theorem answersOf_outside (ms : List Moment) : answersOf (ms ++ [.outside]) = answersOf ms :=
  (answersOf_append ms [.outside]).trans (List.append_nil _)

theorem disturbances_snoc (ms : List Moment) (m : Moment) :
    disturbances (ms ++ [m]) = disturbances ms + if m.isDisturbance then 1 else 0 := by
  rw [disturbances, List.countP_append, List.countP_singleton]
  rfl

/-- What disagrees and what is owed in the end was owed at the start or is due to disturbances. -/
theorem Course.mismatches_add_owed_le {start next : UInt64} {ms : List Moment}
    {known : Option AccountInfo} (h : Course start ms next)
    (hlaw : Lawful w known (answersOf ms)) :
    mismatches (answersOf ms) + owed (knownAfter known (answersOf ms)) next ≤
      owed known start + disturbances ms := by
  -- what is owed is the potential: an orderly mismatch spends it, and only a disturbance adds to it
  induction h with
  | nil => exact Nat.le_of_eq (Nat.zero_add _)
  | @orderly ms before after x _ hx ih =>
      rw [answersOf_orderly] at hlaw ⊢
      have hpaid := owed_of_orderly hx (lawful_snoc.1 hlaw).2
      have hbefore := ih hlaw.left
      rw [mismatches_snoc, knownAfter_snoc, disturbances_snoc]
      simp only [Moment.isDisturbance, Bool.false_eq_true, if_false]
      omega
  | @disturbed ms before after x _ ih =>
      rw [answersOf_disturbed] at hlaw ⊢
      have hadded := owed_of_disturbed (knownAfter known (answersOf ms)) after x
      have hbefore := ih hlaw.left
      rw [mismatches_snoc, knownAfter_snoc, disturbances_snoc]
      simp only [Moment.isDisturbance, if_true]
      omega
  | @outside ms before after _ ih =>
      rw [answersOf_outside] at hlaw ⊢
      have howed := owed_le_one (knownAfter known (answersOf ms)) after
      have hbefore := ih hlaw
      rw [disturbances_snoc]
      simp only [Moment.isDisturbance, if_true]
      omega

theorem Course.trans {start middle next : UInt64} {older newer : List Moment}
    (h : Course start older middle) (h' : Course middle newer next) :
    Course start (older ++ newer) next := by
  induction h' with
  | nil =>
      rw [List.append_nil]
      exact h
  | orderly _ hx ih =>
      rw [← List.append_assoc]
      exact ih.orderly hx
  | disturbed after x _ ih =>
      rw [← List.append_assoc]
      exact ih.disturbed after x
  | outside after _ ih =>
      rw [← List.append_assoc]
      exact ih.outside after

theorem Course.of_orderly {start after : UInt64} {ms : List Moment} {x : Exchange}
    (h : Course start (ms ++ [.orderly x]) after) :
    ∃ before, Course start ms before ∧ Orderly before x after := by
  generalize hms : ms ++ [.orderly x] = ns at h
  cases h with
  | nil => simp at hms
  | orderly h hx =>
      obtain ⟨rfl, hm⟩ := List.append_inj' hms rfl
      cases hm
      exact ⟨_, h, hx⟩
  | disturbed _ _ _ =>
      obtain ⟨_, hm⟩ := List.append_inj' hms rfl
      cases hm
  | outside _ _ =>
      obtain ⟨_, hm⟩ := List.append_inj' hms rfl
      cases hm

theorem Course.exists_middle {start next : UInt64} {older newer : List Moment}
    (h : Course start (older ++ newer) next) :
    ∃ middle, Course start older middle ∧ Course middle newer next := by
  induction newer using List.reverseRecOn generalizing next with
  | nil =>
      rw [List.append_nil] at h
      exact ⟨next, h, .nil⟩
  | append_singleton newer m ih =>
      rw [← List.append_assoc] at h
      generalize hms : older ++ newer ++ [m] = ms at h
      cases h with
      | nil => simp at hms
      | orderly h hx =>
          obtain ⟨rfl, hm⟩ := List.append_inj' hms rfl
          cases hm
          obtain ⟨middle, holder, hnewer⟩ := ih h
          exact ⟨middle, holder, hnewer.orderly hx⟩
      | disturbed _ x h =>
          obtain ⟨rfl, hm⟩ := List.append_inj' hms rfl
          cases hm
          obtain ⟨middle, holder, hnewer⟩ := ih h
          exact ⟨middle, holder, hnewer.disturbed next x⟩
      | outside _ h =>
          obtain ⟨rfl, hm⟩ := List.append_inj' hms rfl
          cases hm
          obtain ⟨middle, holder, hnewer⟩ := ih h
          exact ⟨middle, holder, hnewer.outside next⟩

end

/-- Every answer of the node is that of an orderly ledger, which fails calls as it likes. -/
def OrderlyNode {σ : Type} (node : Node σ) (next : σ → UInt64) : Prop :=
  ∀ s c, Orderly (next s) ⟨c, (node s c).1⟩ (next (node s c).2)

section

variable {σ : Type} {node : Node σ} {next : σ → UInt64}

theorem answersOf_map_orderly (xs : List Exchange) : answersOf (xs.map .orderly) = xs := by
  induction xs with
  | nil => rfl
  | cons x xs ih => exact congrArg (x :: ·) ih

theorem disturbances_map_orderly (xs : List Exchange) :
    disturbances (xs.map .orderly) = 0 := by
  rw [disturbances, List.countP_map, List.countP_eq_zero]
  intro x _
  exact Bool.false_ne_true

theorem act_node (w : World σ) (a : World.Action) : (w.act a).node = w.node := by
  cases a with
  | submit message denom => rfl
  | dropReceipt number => rfl
  | shutDown => rfl
  | abort =>
      simp only [World.act]
      split <;> rfl

theorem Course.works {worker : Worker} {moments : Exchange → List Moment}
    (h : ∀ s c, Course (next s) (moments ⟨c, (node s c).1⟩) (next (node s c).2)) {w v : World σ}
    {start : UInt64} {xs : List Exchange} {entries : List Entry}
    (hc : Course start (xs.flatMap moments) (next w.node))
    (hw : World.Works worker node w entries v) :
    Course start ((xs ++ exchanges entries).flatMap moments) (next v.node) := by
  cases hw with
  | rest _ | close _ _ | take _ _ _ | record _ | answer _ _ | drop _ _ =>
      change Course start ((xs ++ []).flatMap moments) _
      rw [List.append_nil]
      exact hc
  | @leave c _ s _ hnode =>
      have hx := h w.node c
      rw [hnode] at hx
      change Course start ((xs ++ [_]).flatMap moments) _
      rw [List.flatMap_append, List.flatMap_singleton]
      exact hc.trans hx
  | @ask c _ s r _ hnode =>
      have hx := h w.node c
      rw [hnode] at hx
      change Course start ((xs ++ [_]).flatMap moments) _
      rw [List.flatMap_append, List.flatMap_singleton]
      exact hc.trans hx

/-- If every call of a node is a course of a ledger, so are all calls of a run. -/
theorem course_of_run {moments : Exchange → List Moment}
    (h : ∀ s c, Course (next s) (moments ⟨c, (node s c).1⟩) (next (node s c).2)) (worker : Worker)
    (s : σ) (capacity : Nat) (events : List World.Event) :
    Course (next s)
      ((exchanges ((World.start s capacity).log worker node events)).flatMap moments)
      (next ((World.start s capacity).run worker node events).node) := by
  refine World.run_induction
    (P := fun w log => Course (next s) ((exchanges log).flatMap moments) (next w.node)) .nil ?_
    events
  intro v log e hc
  rw [exchanges_append]
  cases e with
  | action a =>
      rw [exchanges_actions, List.append_nil]
      simpa only [World.step, act_node] using hc
  | work => exact Course.works h hc (World.works worker node v)

/-- The calls of a run against an orderly node are an undisturbed course. -/
theorem OrderlyNode.course_of_run (h : OrderlyNode node next) (worker : Worker) (s : σ)
    (capacity : Nat) (events : List World.Event) :
    Course (next s) ((exchanges ((World.start s capacity).log worker node events)).map .orderly)
      (next ((World.start s capacity).run worker node events).node) := by
  rw [List.map_eq_flatMap]
  exact Relay.course_of_run (fun s c => Course.nil.orderly (h s c)) worker s capacity events

end

end GasSponsor.Relay

namespace GasSponsor.ScriptedNode

open Relay

def unscripted : Node State := fun s c =>
  match c with
  | .broadcast tx =>
    if tx.length < UInt64.size then node { s with script := [] } (.broadcast tx)
    else (some (.error (.transport "envelope too large")), s)
  | c => node s c

theorem orderly_error (n : UInt64) (c : Call) (e : RelayError) :
    Orderly n ⟨c, some (.error e)⟩ n := by
  cases c <;> rfl

theorem orderly_silence (n : UInt64) (c : Call) : Orderly n ⟨c, none⟩ n := by
  cases c <;> rfl

theorem orderly_node {s : State} {c : Call}
    (h : Orderly s.account.sequence ⟨c, some (answer s c).1⟩ (answer s c).2.account.sequence) :
    Orderly s.account.sequence ⟨c, (node s c).1⟩ (node s c).2.account.sequence := by
  unfold node
  dsimp only
  split
  · exact orderly_error _ c _
  · split
    · exact orderly_silence _ c
    · exact h

theorem orderly_answerBroadcast {s : State} {tx : Bytes} (hscript : s.script = [])
    (hlen : tx.length < UInt64.size) :
    Orderly s.account.sequence ⟨.broadcast tx, some (answerBroadcast s tx).1⟩
      (answerBroadcast s tx).2.account.sequence := by
  obtain ⟨height, baseFee, denominator, account, failures, stall, script⟩ := s
  cases hscript
  unfold answerBroadcast
  by_cases heq : sequenceOf tx = account.sequence
  · simp only [heq, if_true]
    intro sequence hcarries
    rw [if_pos ((hcarries.sequenceOf_eq hlen).symm.trans heq)]
    exact ⟨rfl, rfl⟩
  · simp only [heq, if_false]
    intro sequence hcarries
    rw [if_neg (by rwa [← hcarries.sequenceOf_eq hlen])]
    exact ⟨rfl, rfl, rfl⟩

theorem orderlyNode_unscripted : OrderlyNode unscripted fun s => s.account.sequence := by
  intro s c
  cases c with
  | broadcast tx =>
      unfold unscripted
      dsimp only
      split
      · next hlen => exact orderly_node (orderly_answerBroadcast rfl hlen)
      · exact orderly_error _ _ _
  | account address => exact orderly_node ⟨rfl, rfl⟩
  | blockResults height => exact orderly_node rfl
  | baseFee height => exact orderly_node rfl
  | feeMarketParams => exact orderly_node rfl

end GasSponsor.ScriptedNode
