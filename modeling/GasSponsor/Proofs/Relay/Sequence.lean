import GasSponsor.Proofs.Relay.History

/-!
# Which sequence an envelope carries

All calls of a run are lawful, so that an envelope carries the sequence of the latest successful
query, moved on by the responses that have admitted an envelope since, and no response in between
disagreed with the sequence. Between two refreshes the sequences on the wire never fall, and grow by
one at each admission.
-/

namespace GasSponsor.Relay

open Program

section

variable {worker : Worker}

theorem AllFinished.lawful {ds : List Dealing} {a : AccountState} (h : AllFinished worker ds a) :
    Lawful worker none (ds.flatMap Dealing.exchanges) ∧
      knownAfter none (ds.flatMap Dealing.exchanges) = a.snapshot := by
  induction h with
  | nil => exact ⟨trivial, rfl⟩
  | snoc _ hd ih =>
      obtain ⟨_, _, hcompletes⟩ := hd
      obtain ⟨hlaw, hknown⟩ := (Worker.relayed_of_completes hcompletes).lawful
      rw [List.flatMap_append, List.flatMap_singleton, lawful_append, knownAfter_append, ih.2]
      exact ⟨⟨ih.1, hlaw⟩, hknown⟩

/-- A dealing is lawful however far it has come. -/
theorem Dealing.Begun.lawful {d : Dealing} {a : AccountState} (h : d.Begun worker a) :
    Lawful worker a.snapshot d.exchanges := by
  cases h with
  | finished h =>
      obtain ⟨_, _, hcompletes⟩ := h
      exact (Worker.relayed_of_completes hcompletes).lawful.1
  | @reaches p h =>
      obtain ⟨ys, ⟨b, result⟩, hend⟩ := exists_completes p
      exact (Worker.relayed_of_completes (h.2.trans hend)).lawful.1.left
  | left h =>
      obtain ⟨_, xs, c, next, hxs, hfollows⟩ := h
      -- whatever the node might have answered, the call was allowed
      obtain ⟨ys, ⟨b, result⟩, hend⟩ := hfollows.exists_completes_call (.error .workerUnavailable)
      have hlaw := (Worker.relayed_of_completes hend).lawful.1
      rw [hxs, lawful_snoc]
      exact ⟨hlaw.left, hlaw.allowed⟩

theorem Recorded.lawful {σ : Type} {w : World σ} {ds : List Dealing} (h : Recorded worker w ds) :
    Lawful worker none (ds.flatMap Dealing.exchanges) := by
  induction ds using List.reverseRecOn with
  | nil => exact trivial
  | append_singleton front d _ =>
      obtain ⟨a, hfront, hd⟩ := h.begun
      obtain ⟨hlaw, hknown⟩ := hfront.lawful
      rw [List.flatMap_append, List.flatMap_singleton, lawful_append, hknown]
      exact ⟨hlaw, hd.lawful⟩

/-- The calls of a run are lawful. -/
theorem Logged.lawful {σ : Type} {w : World σ} {log : List Entry} (h : Logged worker w log) :
    Lawful worker none (exchanges log) :=
  h.exchanges_eq ▸ h.recorded.lawful

/-- Between two requests the worker knows what the answers so far make known. -/
theorem Logged.known_of_idle {σ : Type} {w : World σ} {log : List Entry} (h : Logged worker w log)
    (hstage : w.stage = .idle) : knownAfter none (exchanges log) = w.account.snapshot := by
  have hrecorded := h.recorded
  rw [Recorded, hstage] at hrecorded
  rw [h.exchanges_eq]
  exact hrecorded.1.lawful.2

end

theorem exists_signedFor {w : Worker} {known : Option AccountInfo} {tx : Bytes}
    (h : Allowed w known (.broadcast tx)) :
    ∃ info, known = some info ∧ SignedFor w.builder tx info := by
  cases known with
  | none => cases h
  | some info => exact ⟨info, rfl, h⟩

/-- Without another query the account moves only by admissions. -/
theorem known_of_no_query {ys : List Exchange} {known : Option AccountInfo} {info : AccountInfo}
    (h : knownAfter known ys = some info) (hys : ∀ y ∈ ys, y.info? = none) :
    ∃ before, known = some before ∧ info = before.advanced (admissions ys) := by
  induction ys using List.reverseRecOn generalizing info with
  | nil => exact ⟨info, h, info.advanced_zero.symm⟩
  | append_singleton ys y ih =>
      rw [knownAfter_snoc] at h
      rcases knownNext_eq_some h with hinfo | ⟨_, _, middle, hmiddle, rfl⟩
      · rw [hys y (by simp)] at hinfo
        cases hinfo
      · obtain ⟨before, rfl, rfl⟩ := ih hmiddle fun y hy => hys y (by simp [hy])
        exact ⟨before, rfl, by rw [AccountInfo.advanced_advanced, admissions_append]⟩

/-- The answer of a successful query comes from an account call. -/
theorem exists_account_of_info {x : Exchange} {info : AccountInfo} (h : x.info? = some info) :
    ∃ address, x = ⟨.account address, some (.ok info)⟩ := by
  unfold Exchange.info? at h
  split at h
  · next address info' =>
      cases h
      exact ⟨address, rfl⟩
  · cases h

theorem broadcasts_follow_account {σ : Type} (worker : Worker) (node : Node σ) (s : σ)
    (capacity : Nat) (events : List World.Event) :
    let xs := exchanges ((World.start s capacity).log worker node events)
    (∀ pre tx reply post, xs = pre ++ ⟨.broadcast tx, reply⟩ :: post →
      ∃ older address info newer, pre = older ++ ⟨.account address, some (.ok info)⟩ :: newer ∧
        (∀ x ∈ newer, x.info? = none) ∧ (∀ x ∈ newer, x.outcome? ≠ some .sequenceMismatch) ∧
        SignedFor worker.builder tx (info.advanced (admissions newer)) ∧
        (tx.length < UInt64.size → info.sequence.toNat + admissions newer < UInt64.size →
          (ScriptedNode.sequenceOf tx).toNat = info.sequence.toNat + admissions newer)) ∧
    (∀ pre tx reply mid tx' reply' post,
      xs = pre ++ ⟨.broadcast tx, reply⟩ :: (mid ++ ⟨.broadcast tx', reply'⟩ :: post) →
      (∀ x ∈ mid, x.info? = none) → tx.length < UInt64.size → tx'.length < UInt64.size →
      (ScriptedNode.sequenceOf tx).toNat + admissions (⟨.broadcast tx, reply⟩ :: mid) <
        UInt64.size →
      (ScriptedNode.sequenceOf tx').toNat =
        (ScriptedNode.sequenceOf tx).toNat + admissions (⟨.broadcast tx, reply⟩ :: mid)) := by
  intro xs
  have hlaw : Lawful worker none xs := (logged worker node s capacity events).lawful
  constructor
  · intro pre tx reply post hxs
    rw [hxs] at hlaw
    obtain ⟨known, hknown, hsigned⟩ := exists_signedFor hlaw.allowed
    obtain ⟨older, query, newer, info, rfl, hquery, hnewer, rfl⟩ := exists_query_of_known hknown
    obtain ⟨address, rfl⟩ := exists_account_of_info hquery
    refine ⟨older, address, info, newer, rfl, fun x hx => (hnewer x hx).1, fun x hx => ?_,
      hsigned, fun hlen hfit => ?_⟩
    · exact of_decide_eq_false (hnewer x hx).2
    · rw [hsigned.carriesSequence.sequenceOf_eq hlen, AccountInfo.toNat_advanced hfit]
  · intro pre tx reply mid tx' reply' post hxs hmid hlen hlen' hfit
    rw [hxs] at hlaw
    obtain ⟨info, hknown, hsigned⟩ := exists_signedFor hlaw.allowed
    rw [← List.cons_append, ← List.append_assoc] at hlaw
    obtain ⟨info', hknown', hsigned'⟩ := exists_signedFor hlaw.allowed
    rw [knownAfter_append, hknown] at hknown'
    obtain ⟨_, hbefore, rfl⟩ := known_of_no_query hknown' (by
      intro y hy
      rcases List.mem_cons.1 hy with rfl | hy
      · rfl
      · exact hmid y hy)
    cases hbefore
    rw [hsigned.carriesSequence.sequenceOf_eq hlen] at hfit ⊢
    rw [hsigned'.carriesSequence.sequenceOf_eq hlen', AccountInfo.toNat_advanced hfit]

end GasSponsor.Relay
