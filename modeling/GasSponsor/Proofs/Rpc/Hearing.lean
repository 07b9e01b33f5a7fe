import GasSponsor.Rpc.Provider

/-!
# What a provider hears

A recorded network keeps what came back from every endpoint, and is otherwise the network itself. A
request hears its endpoints one after another. All but the last have no answer for it, and what it
returns is what the last one said.
-/

namespace GasSponsor.Rpc

variable {ν α : Type}

structure Hearing where
  url : String
  body : Json.Value
  answer : Except String String

def Network.recorded (network : Network ν) : Network (ν × List Hearing) := fun s url body =>
  ((network s.1 url body).1,
    ((network s.1 url body).2, s.2 ++ [⟨url, body, (network s.1 url body).1⟩]))

namespace Provider

def readAnswer (result : Json.Reader α) : Except String String → Except Failure α
  | .ok body => readResult result body
  | .error text => .error (.unreachable text)

theorem readAnswer_eq_ok {result : Json.Reader α} {answer : Except String String} {a : α} :
    readAnswer result answer = .ok a ↔ ∃ body json, answer = .ok body ∧
      Response.ofBody body = .ok (.result json) ∧ (Json.Reader.whole result).run' json = .ok a := by
  constructor
  · intro h
    cases answer with
    | error text => cases h
    | ok body =>
        rw [readAnswer, readResult] at h
        split at h
        · cases h
        · cases h
        · next json hbody =>
            split at h
            · next hresult =>
                cases h
                exact ⟨body, json, rfl, hbody, hresult⟩
            · cases h
  · rintro ⟨body, json, rfl, hbody, hresult⟩
    rw [readAnswer, readResult, hbody]
    dsimp only
    rw [hresult]

theorem readAnswer_eq_refused {result : Json.Reader α} {answer : Except String String}
    {e : ErrorObject} : readAnswer result answer = .error (.refused e) ↔
      ∃ body, answer = .ok body ∧ Response.ofBody body = .ok (.error e) := by
  constructor
  · intro h
    cases answer with
    | error text => cases h
    | ok body =>
        rw [readAnswer, readResult] at h
        split at h
        · cases h
        · next hbody =>
            cases h
            exact ⟨body, rfl, hbody⟩
        · split at h <;> cases h
  · rintro ⟨body, rfl, hbody⟩
    rw [readAnswer, readResult, hbody]

def Unanswered (result : Json.Reader α) (answer : Except String String) : Prop :=
  ∃ failure, readAnswer result answer = .error failure ∧ failure.isFinal = false

theorem count_failover (p : Provider) : p.failover.count = p.count := rfl

theorem count_countRequest (p : Provider) (position : Nat) :
    (p.countRequest position).count = p.count := List.length_modify _ _ _

theorem exists_endpoint {p : Provider} (h : 0 < p.count) :
    ∃ endpoint, p.endpoints[p.position]? = some endpoint :=
  ⟨_, List.getElem?_eq_getElem (Nat.mod_lt _ h)⟩

structure Recorded (o : Outcome ν α) (v : Outcome (ν × List Hearing) α) (log heard : List Hearing) :
    Prop where
  result : v.result = o.result
  provider : v.provider = o.provider
  network : v.network = (o.network, log ++ heard)
  contacts : v.contacts = o.contacts
  bodies : heard.map Hearing.body = o.contacts.map fun c => c.request.body c.id

variable (network : Network ν) (r : Request) (result : Json.Reader α)

theorem send_recorded {p : Provider} (h : 0 < p.count) (s : ν) (log : List Hearing) :
    ∃ heard, Recorded (send network r result p s) (send network.recorded r result p (s, log)) log
        [heard] ∧
      (send network r result p s).result = readAnswer result heard.answer ∧
      (send network r result p s).provider = p.countRequest p.position := by
  obtain ⟨endpoint, hendpoint⟩ := exists_endpoint h
  refine ⟨⟨endpoint.url, r.body (endpoint.sent + 1),
    (network s endpoint.url (r.body (endpoint.sent + 1))).1⟩, ?_, ?_, ?_⟩
  · unfold send
    rw [hendpoint]
    exact ⟨rfl, rfl, rfl, rfl, rfl⟩
  · unfold send
    rw [hendpoint]
    dsimp only
    cases (network s endpoint.url (r.body (endpoint.sent + 1))).1 <;> rfl
  · unfold send
    rw [hendpoint]

/-- How hearings settle a request that may ask so many endpoints more; `last` is why the endpoint
before failed. -/
inductive Settles : Nat → Failure → List Hearing → Except Failure α → Prop
  | exhausted (last : Failure) : Settles 0 last [] (.error last)
  | answered {tries : Nat} {last : Failure} {h : Hearing}
      (hanswer : ¬ Unanswered result h.answer) :
      Settles (tries + 1) last [h] (readAnswer result h.answer)
  | next {tries : Nat} {last failure : Failure} {h : Hearing} {heard : List Hearing}
      {settled : Except Failure α} (hread : readAnswer result h.answer = .error failure)
      (hfinal : failure.isFinal = false) (hrest : Settles tries failure heard settled) :
      Settles (tries + 1) last (h :: heard) settled

theorem exists_settles (tries : Nat) (last : Failure) {p : Provider} (hcount : 0 < p.count) (s : ν)
    (log : List Hearing) :
    ∃ heard, Recorded (attempt network r result tries last p s)
        (attempt network.recorded r result tries last p (s, log)) log heard ∧
      Settles result tries last heard (attempt network r result tries last p s).result := by
  induction tries generalizing last p s log with
  | zero =>
      refine ⟨[], ⟨rfl, rfl, ?_, rfl, rfl⟩, .exhausted last⟩
      rw [List.append_nil]
      rfl
  | succ tries ih =>
      obtain ⟨h, hsent, hread, hprovider⟩ := send_recorded network r result hcount s log
      unfold attempt
      dsimp only
      rw [hsent.result]
      cases hresult : (send network r result p s).result with
      | ok a =>
          refine ⟨[h], hsent, ?_⟩
          rw [hread]
          refine .answered ?_
          rintro ⟨failure, herror, _⟩
          rw [← hread, hresult] at herror
          cases herror
      | error failure =>
          dsimp only
          cases hfinal : failure.isFinal with
          | true =>
              rw [if_pos rfl, if_pos rfl]
              refine ⟨[h], hsent, ?_⟩
              rw [hread]
              refine .answered ?_
              rintro ⟨other, herror, hother⟩
              rw [← hread, hresult] at herror
              cases herror
              rw [hfinal] at hother
              cases hother
          | false =>
              rw [if_neg Bool.false_ne_true, if_neg Bool.false_ne_true]
              have hnext : 0 < (send network r result p s).provider.failover.count := by
                rw [hprovider, count_failover, count_countRequest]
                exact hcount
              obtain ⟨heard, hrest, hsettles⟩ := ih failure hnext
                (send network r result p s).network (log ++ [h])
              rw [hsent.provider, hsent.network, hsent.contacts]
              refine ⟨h :: heard, ⟨hrest.result, hrest.provider, ?_, ?_, ?_⟩,
                .next (hread.symm.trans hresult) hfinal hsettles⟩
              · have hnetwork := hrest.network
                rw [List.append_assoc] at hnetwork
                exact hnetwork
              · exact congrArg ((send network r result p s).contacts ++ ·) hrest.contacts
              · have hfirst := hsent.bodies
                rw [List.map_append, ← hfirst, ← hrest.bodies]
                rfl

variable {result} in
/-- All endpoints but the last one asked left the request unanswered, and the last one settled it.
-/
theorem Settles.exists_last {tries : Nat} {last : Failure} {heard : List Hearing}
    {settled : Except Failure α} (h : Settles result tries last heard settled) (htries : 0 < tries) :
    ∃ front final, heard = front ++ [final] ∧ readAnswer result final.answer = settled ∧
      ∀ x ∈ front, Unanswered result x.answer := by
  induction h with
  | exhausted last => exact absurd htries (Nat.lt_irrefl 0)
  | @answered _ _ final _ => exact ⟨[], final, rfl, rfl, fun x hx => nomatch hx⟩
  | @next tries _ failure first heard settled hread hfinal hrest ih =>
      have hfirst : Unanswered result first.answer := ⟨failure, hread, hfinal⟩
      cases tries with
      | zero =>
          cases hrest
          exact ⟨[], first, rfl, hread, fun x hx => nomatch hx⟩
      | succ tries =>
          obtain ⟨front, final, rfl, hfinal, hfront⟩ := ih (Nat.succ_pos tries)
          refine ⟨first :: front, final, rfl, hfinal, ?_⟩
          intro x hx
          rcases List.mem_cons.1 hx with rfl | hx
          · exact hfirst
          · exact hfront x hx

/-- What a request returns is what the last endpoint asked said. -/
theorem request_heard {p : Provider} (hcount : 0 < p.count) (s : ν) :
    ∃ front final, Recorded (request network r result p s)
        (request network.recorded r result p (s, [])) [] (front ++ [final]) ∧
      (request network r result p s).result = readAnswer result final.answer ∧
      ∀ x ∈ front, Unanswered result x.answer := by
  obtain ⟨heard, hrecorded, hsettles⟩ :=
    exists_settles network r result p.count .noEndpoint hcount s []
  obtain ⟨front, final, rfl, hread, hfront⟩ := hsettles.exists_last hcount
  exact ⟨front, final, hrecorded, hread.symm, hfront⟩

theorem request_of_count_eq_zero {p : Provider} (h : p.count = 0) (s : ν) :
    request network r result p s = ⟨.error .noEndpoint, p, s, []⟩ := by
  rw [request, h]
  rfl

/-- With one endpoint, a request returns what that says. -/
theorem result_request_single (chainId : String) (endpoint : Endpoint) (active : Nat) (s : ν) :
    (request network r result ⟨chainId, [endpoint], active⟩ s).result =
      readAnswer result (network s endpoint.url (r.body (endpoint.sent + 1))).1 := by
  have hposition : position ⟨chainId, [endpoint], active⟩ = 0 := Nat.mod_one active
  have hsent : (send network r result ⟨chainId, [endpoint], active⟩ s).result =
      readAnswer result (network s endpoint.url (r.body (endpoint.sent + 1))).1 := by
    rw [send, hposition]
    dsimp only [List.getElem?_cons_zero]
    cases (network s endpoint.url (r.body (endpoint.sent + 1))).1 <;> rfl
  change (attempt network r result 1 _ _ s).result = _
  unfold attempt
  dsimp only
  rw [← hsent]
  cases hresult : (send network r result ⟨chainId, [endpoint], active⟩ s).result with
  | ok a => exact hresult
  | error failure =>
      dsimp only
      cases failure.isFinal with
      | true => exact hresult
      | false => rfl

end Provider

end GasSponsor.Rpc
