import GasSponsor.Rpc.Ledger
import GasSponsor.Proofs.Rpc.Hearing

/-!
# What stands behind the reply to a broadcast

A broadcast has a verdict when the last endpoint asked gave one: a result, or an error object whose
text holds one of three phrases. The text of a failure is searched for the phrases too. So an answer
that is no response at all, but repeats a phrase, is taken for a verdict; nothing else is.
-/

namespace GasSponsor.Rpc

def phrases : List (String × UInt32) :=
  [("tx already exists in cache", BroadcastResponse.codeAlreadyPending),
    ("mempool is full", BroadcastResponse.codePoolFull),
    ("tx too large", BroadcastResponse.codeTooLarge)]

def Mentions (text phrase : String) : Prop :=
  phrase.toList <:+: text.toList.map Char.toLower

def StandsFor (text : String) (code : UInt32) : Prop :=
  ∃ before phrase after, phrases = before ++ (phrase, code) :: after ∧ Mentions text phrase ∧
    ∀ p ∈ before, ¬ Mentions text p.1

theorem contains_iff (phrase cs : List Char) : contains phrase cs = true ↔ phrase <:+: cs := by
  induction cs with
  | nil => simp [contains]
  | cons c cs ih =>
      rw [contains, Bool.or_eq_true, ih, List.isPrefixOf_iff_prefix, List.infix_cons_iff]

theorem find?_phrases (test : String → Bool) : (phrases.find? fun p => test p.1).map Prod.snd =
    if test "tx already exists in cache" then some BroadcastResponse.codeAlreadyPending
    else if test "mempool is full" then some BroadcastResponse.codePoolFull
    else if test "tx too large" then some BroadcastResponse.codeTooLarge
    else none := by
  rw [phrases, List.find?_cons]
  cases test "tx already exists in cache" with
  | true => rfl
  | false =>
      dsimp only
      rw [List.find?_cons]
      cases test "mempool is full" with
      | true => rfl
      | false =>
          dsimp only
          rw [List.find?_cons]
          cases test "tx too large" <;> rfl

theorem codeOfText_eq_find? (text : String) : codeOfText text =
    (phrases.find? fun p => contains p.1.toList (text.toList.map Char.toLower)).map Prod.snd :=
  (find?_phrases fun phrase => contains phrase.toList (text.toList.map Char.toLower)).symm

theorem codeOfText_eq_some {text : String} {code : UInt32} :
    codeOfText text = some code ↔ StandsFor text code := by
  rw [codeOfText_eq_find?, Option.map_eq_some_iff]
  constructor
  · rintro ⟨⟨phrase, _⟩, hfind, rfl⟩
    obtain ⟨hmention, before, after, hphrases, hbefore⟩ := List.find?_eq_some_iff_append.1 hfind
    refine ⟨before, phrase, after, hphrases, (contains_iff _ _).1 hmention, fun p hp hmentions => ?_⟩
    have hnot := hbefore p hp
    rw [(contains_iff _ _).2 hmentions] at hnot
    cases hnot
  · rintro ⟨before, phrase, after, hphrases, hmention, hbefore⟩
    refine ⟨(phrase, code), List.find?_eq_some_iff_append.2
      ⟨(contains_iff _ _).2 hmention, before, after, hphrases, fun p hp => ?_⟩, rfl⟩
    rw [Bool.not_eq_true', ← Bool.not_eq_true, contains_iff]
    exact hbefore p hp

/-- An answer is a verdict on an envelope: a result, or an error object that holds a phrase. -/
inductive Verdict (answer : Except String String) : BroadcastResponse → Prop
  | result {body : String} {json : List Char} {response : BroadcastResponse}
      (hanswer : answer = .ok body) (hbody : Response.ofBody body = .ok (.result json))
      (hresult : (Json.Reader.whole BroadcastMembers.reader).run' json = .ok response) :
      Verdict answer response
  | refusal {body : String} {e : ErrorObject} {code : UInt32} (hanswer : answer = .ok body)
      (hbody : Response.ofBody body = .ok (.error e)) (hcode : StandsFor e.text code) :
      Verdict answer (.coreError code e.text)

/-- An answer is no verdict, but the text of the failure holds a phrase. -/
def Echo (answer : Except String String) (response : BroadcastResponse) : Prop :=
  ∃ failure code, Provider.readAnswer BroadcastMembers.reader answer = .error failure ∧
    failure.isFinal = false ∧ StandsFor failure.message code ∧
    response = .coreError code failure.message

theorem broadcastReply_error (failure : Failure) (response : BroadcastResponse) :
    broadcastReply (.error failure) = .ok response ↔
      ∃ code, StandsFor failure.message code ∧ response = .coreError code failure.message := by
  simp only [← codeOfText_eq_some]
  rw [broadcastReply]
  cases codeOfText failure.message with
  | none => simp
  | some code => simp [eq_comm]

theorem verdict_iff {answer : Except String String} {response : BroadcastResponse} :
    Verdict answer response ↔
      Provider.readAnswer BroadcastMembers.reader answer = .ok response ∨
      ∃ e code, Provider.readAnswer BroadcastMembers.reader answer = .error (.refused e) ∧
        StandsFor e.text code ∧ response = .coreError code e.text := by
  constructor
  · intro h
    cases h with
    | result hanswer hbody hresult =>
        exact .inl (Provider.readAnswer_eq_ok.2 ⟨_, _, hanswer, hbody, hresult⟩)
    | refusal hanswer hbody hcode =>
        exact .inr ⟨_, _, Provider.readAnswer_eq_refused.2 ⟨_, hanswer, hbody⟩, hcode, rfl⟩
  · rintro (hok | ⟨e, code, hrefused, hcode, rfl⟩)
    · obtain ⟨body, json, hanswer, hbody, hresult⟩ := Provider.readAnswer_eq_ok.1 hok
      exact .result hanswer hbody hresult
    · obtain ⟨body, hanswer, hbody⟩ := Provider.readAnswer_eq_refused.1 hrefused
      exact .refusal hanswer hbody hcode

/-- What a broadcast makes of an answer. -/
theorem broadcastReply_eq_ok {answer : Except String String} {response : BroadcastResponse} :
    broadcastReply (Provider.readAnswer BroadcastMembers.reader answer) = .ok response ↔
      Verdict answer response ∨ Echo answer response := by
  rw [verdict_iff, Echo]
  cases Provider.readAnswer BroadcastMembers.reader answer with
  | ok read =>
      constructor
      · intro h
        cases h
        exact .inl (.inl rfl)
      · rintro ((h | ⟨_, _, h, _⟩) | ⟨_, _, h, _⟩) <;> cases h
        rfl
  | error failure =>
      rw [broadcastReply_error]
      constructor
      · rintro ⟨code, hcode, rfl⟩
        cases hfinal : failure.isFinal with
        | true =>
            cases failure with
            | refused e => exact .inl (.inr ⟨e, code, rfl, hcode, rfl⟩)
            | _ => cases hfinal
        | false => exact .inr ⟨failure, code, rfl, hfinal, hcode, rfl⟩
      · rintro ((h | ⟨e, code, h, hcode, rfl⟩) | ⟨_, code, h, _, hcode, rfl⟩) <;> cases h
        · exact ⟨code, hcode, rfl⟩
        · exact ⟨code, hcode, rfl⟩

theorem broadcastReply_eq_error {answer : Except Failure BroadcastResponse} {e : RelayError}
    (h : broadcastReply answer = .error e) : ∃ text, e = .transport text := by
  cases answer with
  | ok response => cases h
  | error failure =>
      rw [broadcastReply] at h
      split at h
      · cases h
      · cases h
        exact ⟨_, rfl⟩

theorem not_standsFor_noEndpoint (code : UInt32) : ¬ StandsFor Failure.noEndpoint.message code := by
  have hnone : codeOfText Failure.noEndpoint.message = none := by decide
  rw [← codeOfText_eq_some, hnone]
  exact nofun

namespace Connection

variable {ν : Type}

def heard (network : Network ν) (c : Connection ν) (call : Call) : List Hearing :=
  (answer network.recorded ⟨c.provider, (c.network, [])⟩ call).2.1.network.2

/-- A broadcast hears its endpoints one after another, and all but the last leave it unanswered. Its
reply is a response exactly if what came last is a verdict, or is none but holds a phrase; any other
reply says that the envelope was not transported. -/
theorem broadcast_verdict (network : Network ν) (c : Connection ν) (tx : Bytes) :
    let reply := (answer network c (.broadcast tx)).1
    let contacts := (answer network c (.broadcast tx)).2.2
    let heard := heard network c (.broadcast tx)
    (heard.map Hearing.body = contacts.map fun k => k.request.body k.id) ∧
    (0 < c.provider.count → heard ≠ []) ∧
    (∀ front h, heard = front ++ [h] →
      ∀ x ∈ front, Provider.Unanswered BroadcastMembers.reader x.answer) ∧
    (∀ response, reply = .ok response ↔
      ∃ h, heard.getLast? = some h ∧ (Verdict h.answer response ∨ Echo h.answer response)) ∧
    ∀ e, reply = .error e → ∃ text, e = .transport text := by
  intro reply contacts heard
  rcases Nat.eq_zero_or_pos c.provider.count with hcount | hcount
  · have hasked := Provider.request_of_count_eq_zero network (requestOf (.broadcast tx))
      BroadcastMembers.reader hcount c.network
    have hlistened := Provider.request_of_count_eq_zero network.recorded
      (requestOf (.broadcast tx)) BroadcastMembers.reader hcount (c.network, [])
    have hheard : heard = [] := by
      change (Connection.heard network c (.broadcast tx)) = []
      rw [Connection.heard, answer, exchange, hlistened]
    have hreply : reply = broadcastReply (.error .noEndpoint) := by
      change (answer network c (.broadcast tx)).1 = _
      rw [answer, exchange, hasked]
    have hcontacts : contacts = [] := by
      change (answer network c (.broadcast tx)).2.2 = _
      rw [answer, exchange, hasked]
    refine ⟨?_, ?_, ?_, ?_, ?_⟩
    · rw [hheard, hcontacts]
      rfl
    · intro hpos
      exact absurd hcount (Nat.ne_of_gt hpos)
    · intro front h heq
      rw [hheard] at heq
      exact absurd heq (by simp)
    · intro response
      rw [hreply, hheard, broadcastReply_error]
      constructor
      · rintro ⟨code, hcode, _⟩
        exact absurd hcode (not_standsFor_noEndpoint code)
      · rintro ⟨h, hnone, _⟩
        cases hnone
    · intro e he
      rw [hreply] at he
      exact broadcastReply_eq_error he
  · obtain ⟨front, final, hrecorded, hread, hfront⟩ :=
      Provider.request_heard network (requestOf (.broadcast tx)) BroadcastMembers.reader hcount
        c.network
    have hheard : heard = front ++ [final] := congrArg Prod.snd hrecorded.network
    have hreply : reply =
        broadcastReply (Provider.readAnswer BroadcastMembers.reader final.answer) :=
      congrArg broadcastReply hread
    refine ⟨?_, ?_, ?_, ?_, ?_⟩
    · rw [hheard]
      exact hrecorded.bodies
    · intro _ hnil
      rw [hheard] at hnil
      exact absurd hnil (by simp)
    · intro front' h heq
      rw [hheard] at heq
      obtain ⟨rfl, _⟩ := List.append_inj' heq rfl
      exact hfront
    · intro response
      rw [hreply, hheard, List.getLast?_concat, broadcastReply_eq_ok]
      simp
    · intro e he
      rw [hreply] at he
      exact broadcastReply_eq_error he

def parroting (text : String) : Network Unit := fun _ _ _ => (.ok text, ())

theorem ofBody_phrase : Response.ofBody "tx already exists in cache" = .error .malformed := by
  have h : (match Response.ofBody "tx already exists in cache" with
      | .error fault => decide (fault = .malformed)
      | .ok _ => false) = true := by decide +kernel
  split at h
  · next fault hfault => rw [hfault, of_decide_eq_true h]
  · cases h

/-- One endpoint, which answers with a phrase and nothing else. -/
theorem phrase_taken_for_verdict :
    let c : Connection Unit := ⟨⟨"evmos_9001-2", [⟨"http://127.0.0.1:26657", 0⟩], 0⟩, ()⟩
    let text := "tx already exists in cache"
    (answer (parroting text) c (.broadcast [1, 2, 3])).1 = .ok (.coreError
        BroadcastResponse.codeAlreadyPending
        "Deserialization Error: malformed content. Response: tx already exists in cache") ∧
      ∀ response, ¬ Verdict (.ok text) response := by
  intro c text
  have hread : Provider.readResult BroadcastMembers.reader text =
      .error (.unreadable .malformed text) := by rw [Provider.readResult, ofBody_phrase]
  have hcode : codeOfText (Failure.unreadable .malformed text).message =
      some BroadcastResponse.codeAlreadyPending := by decide +kernel
  constructor
  · change broadcastReply (c.provider.request (parroting text) (requestOf (.broadcast [1, 2, 3]))
      BroadcastMembers.reader ()).result = _
    rw [Provider.result_request_single]
    change broadcastReply (Provider.readResult BroadcastMembers.reader text) = _
    rw [hread, broadcastReply, hcode]
    rfl
  · intro response h
    cases h with
    | result hanswer hbody _ =>
        cases hanswer
        rw [ofBody_phrase] at hbody
        cases hbody
    | refusal hanswer hbody _ =>
        cases hanswer
        rw [ofBody_phrase] at hbody
        cases hbody

end Connection

end GasSponsor.Rpc
