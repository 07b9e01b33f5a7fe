import GasSponsor.Rpc.Ledger
import GasSponsor.Proofs.Rpc.Hearing

/-!
# The walk over the endpoints

A request goes from the active endpoint to the next one and on, around the circle, until an endpoint
settles it or each has failed. No endpoint is asked twice. The active index moves on by one for every
failure, so that it rests on the endpoint that settled the request, and is back where it was if none
did. No series of calls takes it out of bounds.
-/

namespace GasSponsor.Rpc

variable {ν α : Type}

namespace Provider

/-- The position so many places ahead of the active endpoint, around the circle. -/
def ahead (p : Provider) (i : Nat) : Nat := (p.active + i) % p.count

def contactAt (p : Provider) (r : Request) (position : Nat) : Contact :=
  ⟨position, r, (p.endpoints[position]?.map Endpoint.sent).getD 0 + 1⟩

def urlAt (p : Provider) (position : Nat) : Option String :=
  p.endpoints[position]?.map Endpoint.url

def afterFailure (p : Provider) : Provider := (p.countRequest p.position).failover

section

variable {p : Provider}

theorem count_afterFailure (p : Provider) : p.afterFailure.count = p.count :=
  count_countRequest p p.position

theorem ahead_zero (h : p.active < p.count) : p.ahead 0 = p.active := Nat.mod_eq_of_lt h

theorem ahead_count (h : p.active < p.count) : p.ahead p.count = p.active := by
  rw [ahead, Nat.add_mod_right, Nat.mod_eq_of_lt h]

theorem active_afterFailure_lt (h : 0 < p.count) : p.afterFailure.active < p.afterFailure.count :=
  Nat.mod_lt _ (by rwa [count_countRequest])

theorem ahead_afterFailure (p : Provider) (i : Nat) : p.afterFailure.ahead i = p.ahead (i + 1) := by
  have hactive : p.afterFailure.active = (p.active + 1) % p.count := by
    rw [← count_countRequest p p.position]
    rfl
  rw [ahead, ahead, hactive, count_afterFailure, Nat.mod_add_mod, Nat.add_assoc, Nat.add_comm 1 i]

/-- Less than once around the circle, no position comes twice. -/
theorem ahead_ne {i j : Nat} (hij : i < j) (hj : j < p.count) : p.ahead i ≠ p.ahead j := by
  intro heq
  have hdvd : p.count ∣ (p.active + j) - (p.active + i) :=
    Nat.dvd_of_mod_eq_zero (Nat.sub_mod_eq_zero_of_mod_eq heq.symm)
  have hle := Nat.le_of_dvd (by omega) hdvd
  omega

theorem nodup_ahead {k : Nat} (hk : k ≤ p.count) : ((List.range k).map p.ahead).Nodup := by
  rw [List.Nodup, List.pairwise_map]
  refine List.pairwise_lt_range.imp_of_mem fun _ hj hlt => ahead_ne hlt ?_
  exact Nat.lt_of_lt_of_le (List.mem_range.1 hj) hk

theorem urlAt_countRequest (p : Provider) (i position : Nat) :
    (p.countRequest i).urlAt position = p.urlAt position := by
  rw [urlAt, urlAt, countRequest, List.getElem?_modify]
  cases p.endpoints[position]? with
  | none => rfl
  | some e =>
      change some (if i = position then _ else _ : Endpoint).url = some e.url
      split <;> rfl

theorem urlAt_afterFailure (p : Provider) (position : Nat) :
    p.afterFailure.urlAt position = p.urlAt position := urlAt_countRequest p p.position position

/-- The endpoints ahead get the request as if the active one had not been asked. -/
theorem contactAt_afterFailure (r : Request) {i : Nat} (hi : i + 1 < p.count) :
    p.afterFailure.contactAt r (p.afterFailure.ahead i) = p.contactAt r (p.ahead (i + 1)) := by
  have hne : p.position ≠ p.ahead (i + 1) := ahead_ne (Nat.succ_pos i) hi
  have hsame : p.afterFailure.endpoints[p.ahead (i + 1)]? = p.endpoints[p.ahead (i + 1)]? := by
    change (p.endpoints.modify p.position _)[p.ahead (i + 1)]? = _
    rw [List.getElem?_modify]
    simp only [if_neg hne, id_map']
  rw [ahead_afterFailure, contactAt, contactAt, hsame]

end

def settles : Except Failure α → Bool
  | .ok _ => true
  | .error failure => failure.isFinal

theorem settles_eq_false {res : Except Failure α} :
    settles res = false ↔ ∃ failure, res = .error failure ∧ failure.isFinal = false := by
  cases res with
  | ok a => simp [settles]
  | error failure => simp [settles]

theorem unanswered_iff {result : Json.Reader α} {answer : Except String String} :
    Unanswered result answer ↔ settles (readAnswer result answer) = false :=
  settles_eq_false.symm

inductive Settlement (result : Json.Reader α) (answer : Except String String) :
    Except Failure α → Prop
  | result {body : String} {json : List Char} {a : α} (hanswer : answer = .ok body)
      (hbody : Response.ofBody body = .ok (.result json))
      (hresult : (Json.Reader.whole result).run' json = .ok a) : Settlement result answer (.ok a)
  | refusal {body : String} {e : ErrorObject} (hanswer : answer = .ok body)
      (hbody : Response.ofBody body = .ok (.error e)) :
      Settlement result answer (.error (.refused e))

theorem settlement_of_settles {result : Json.Reader α} {answer : Except String String}
    (h : settles (readAnswer result answer) = true) :
    Settlement result answer (readAnswer result answer) := by
  cases hread : readAnswer result answer with
  | ok a =>
      obtain ⟨body, json, hanswer, hbody, hresult⟩ := readAnswer_eq_ok.1 hread
      exact .result hanswer hbody hresult
  | error failure =>
      rw [hread] at h
      cases failure with
      | refused e =>
          obtain ⟨body, hanswer, hbody⟩ := readAnswer_eq_refused.1 hread
          exact .refusal hanswer hbody
      | _ => cases h

def failures (o : Outcome ν α) : Nat :=
  if settles o.result then o.contacts.length - 1 else o.contacts.length

/-- A request goes to one endpoint after another, as far as the tries reach unless it is settled, and
the active index moves on by the failures. -/
structure Advances (r : Request) (p : Provider) (tries : Nat) (o : Outcome ν α) : Prop where
  contacts : o.contacts =
    (List.range o.contacts.length).map fun i => p.contactAt r (p.ahead i)
  length_le : o.contacts.length ≤ tries
  asked : settles o.result = true → 0 < o.contacts.length
  exhausted : settles o.result = false → o.contacts.length = tries
  active : o.provider.active = p.ahead (failures o)
  count : o.provider.count = p.count
  urls : ∀ position, o.provider.urlAt position = p.urlAt position

/-- A walk that begins with a failure. -/
theorem Advances.afterFailure {r : Request} {p : Provider} {tries : Nat} {o : Outcome ν α}
    (h : Advances r p.afterFailure tries o) (htries : tries + 1 ≤ p.count) :
    Advances r p (tries + 1) { o with contacts := p.contactAt r p.position :: o.contacts } := by
  have hlength : o.contacts.length ≤ tries := h.length_le
  refine ⟨?_, Nat.succ_le_succ hlength, fun _ => Nat.succ_pos _, ?_, ?_, ?_, ?_⟩
  · have hahead : o.contacts =
        (List.range o.contacts.length).map fun i => p.contactAt r (p.ahead (i + 1)) := by
      refine h.contacts.trans (List.map_congr_left fun i hi => ?_)
      have hlt := List.mem_range.1 hi
      exact contactAt_afterFailure r (by omega)
    rw [List.length_cons, List.range_succ_eq_map, List.map_cons, List.map_map]
    exact congrArg (p.contactAt r p.position :: ·) hahead
  · intro hunsettled
    exact congrArg Nat.succ (h.exhausted hunsettled)
  · have hfailures : failures { o with contacts := p.contactAt r p.position :: o.contacts } =
        failures o + 1 := by
      rw [failures, failures, List.length_cons]
      split
      · next hsettles =>
          have hasked := h.asked hsettles
          omega
      · rfl
    rw [hfailures, ← ahead_afterFailure]
    exact h.active
  · exact h.count.trans (count_afterFailure p)
  · intro position
    exact (h.urls position).trans (urlAt_afterFailure p position)

section

variable (network : Network ν) (r : Request) (result : Json.Reader α) {p : Provider}

/-- The active endpoint is asked, and only its count changes. -/
theorem send_asks (h : 0 < p.count) (s : ν) :
    (send network r result p s).contacts = [p.contactAt r p.position] ∧
      (send network r result p s).provider = p.countRequest p.position := by
  obtain ⟨endpoint, hendpoint⟩ := exists_endpoint h
  constructor
  · rw [send, contactAt, hendpoint]
    rfl
  · rw [send, hendpoint]

/-- What is heard comes from the address of the active endpoint. -/
theorem send_heard (h : 0 < p.count) (s : ν) (log : List Hearing) :
    ∃ heard, (send network.recorded r result p (s, log)).network.2 = log ++ [heard] ∧
      some heard.url = p.urlAt p.position := by
  obtain ⟨endpoint, hendpoint⟩ := exists_endpoint h
  refine ⟨⟨endpoint.url, r.body (endpoint.sent + 1),
    (network s endpoint.url (r.body (endpoint.sent + 1))).1⟩, ?_, ?_⟩
  · rw [send, hendpoint]
    rfl
  · rw [urlAt, hendpoint]
    rfl

theorem attempt_of_settles {tries : Nat} {last : Failure} {s : ν}
    (h : settles (send network r result p s).result = true) :
    attempt network r result (tries + 1) last p s = send network r result p s := by
  unfold attempt
  dsimp only
  cases hresult : (send network r result p s).result with
  | ok a => rfl
  | error failure =>
      have hfinal : failure.isFinal = true := by rwa [hresult] at h
      dsimp only
      rw [if_pos hfinal]

theorem attempt_of_not_settles (tries : Nat) (last : Failure) {s : ν} (hcount : 0 < p.count)
    (h : settles (send network r result p s).result = false) :
    ∃ failure, failure.isFinal = false ∧
      let rest := attempt network r result tries failure p.afterFailure
        (send network r result p s).network
      attempt network r result (tries + 1) last p s =
        { rest with contacts := p.contactAt r p.position :: rest.contacts } := by
  obtain ⟨failure, hresult, hfinal⟩ := settles_eq_false.1 h
  obtain ⟨hcontacts, hprovider⟩ := send_asks network r result hcount s
  refine ⟨failure, hfinal, ?_⟩
  intro rest
  unfold attempt
  dsimp only
  rw [hresult]
  dsimp only
  rw [if_neg (by rw [hfinal]; exact Bool.false_ne_true), hprovider, hcontacts]
  rfl

theorem attempt_advances {tries : Nat} (htries : tries ≤ p.count) (last : Failure)
    (hlast : last.isFinal = false) (hactive : p.active < p.count) (s : ν) :
    Advances r p tries (attempt network r result tries last p s) := by
  induction tries generalizing last p s with
  | zero =>
      refine ⟨rfl, Nat.le_refl 0, ?_, fun _ => rfl, ?_, rfl, fun _ => rfl⟩
      · intro hsettles
        rw [attempt, settles, hlast] at hsettles
        cases hsettles
      · have hfailures : failures (attempt network r result 0 last p s) = 0 := ite_self 0
        rw [hfailures, ahead_zero hactive]
        rfl
  | succ tries ih =>
      have hcount : 0 < p.count := Nat.zero_lt_of_lt hactive
      cases hsettles : settles (send network r result p s).result with
      | true =>
          obtain ⟨hcontacts, hprovider⟩ := send_asks network r result hcount s
          have hlength : (send network r result p s).contacts.length = 1 := by rw [hcontacts]; rfl
          rw [attempt_of_settles network r result hsettles]
          refine ⟨?_, ?_, ?_, ?_, ?_, ?_, ?_⟩
          · rw [hcontacts]
            rfl
          · omega
          · omega
          · intro hunsettled
            rw [hsettles] at hunsettled
            cases hunsettled
          · rw [failures, if_pos hsettles, hlength, ahead_zero hactive, hprovider]
            rfl
          · rw [hprovider, count_countRequest]
          · intro position
            rw [hprovider, urlAt_countRequest]
      | false =>
          obtain ⟨failure, hfinal, heq⟩ :=
            attempt_of_not_settles network r result tries last hcount hsettles
          rw [heq]
          -- the walk that is left starts one place ahead
          have hrest := ih (p := p.afterFailure) (by rw [count_afterFailure]; omega) failure hfinal
            (active_afterFailure_lt hcount) (send network r result p s).network
          exact hrest.afterFailure htries

/-- What is heard on the way comes from the addresses of the endpoints that were asked. -/
theorem attempt_heard (tries : Nat) (last : Failure) (hcount : 0 < p.count) (s : ν)
    (log : List Hearing) :
    ∃ heard, (attempt network.recorded r result tries last p (s, log)).network.2 = log ++ heard ∧
      heard.map (fun h => some h.url) =
        (attempt network.recorded r result tries last p (s, log)).contacts.map
          fun c => p.urlAt c.endpoint := by
  induction tries generalizing last p s log with
  | zero => exact ⟨[], (List.append_nil log).symm, rfl⟩
  | succ tries ih =>
      obtain ⟨h, hheard, hurl⟩ := send_heard network r result hcount s log
      cases hsettles : settles (send network.recorded r result p (s, log)).result with
      | true =>
          rw [attempt_of_settles network.recorded r result hsettles,
            (send_asks network.recorded r result hcount (s, log)).1]
          exact ⟨[h], hheard, congrArg (fun url => [url]) hurl⟩
      | false =>
          obtain ⟨failure, -, heq⟩ := attempt_of_not_settles network.recorded r result
            tries last hcount hsettles
          obtain ⟨heard, hrest, hurls⟩ := ih failure (p := p.afterFailure)
            (by rwa [count_afterFailure]) (send network.recorded r result p (s, log)).network.1
            (log ++ [h])
          rw [← hheard] at hrest hurls
          rw [heq]
          refine ⟨h :: heard, ?_, ?_⟩
          · rw [hrest, hheard, List.append_assoc]
            rfl
          · simp only [urlAt_afterFailure] at hurls
            rw [List.map_cons, List.map_cons, hurl]
            exact congrArg (p.urlAt p.position :: ·) hurls

inductive Ending (result : Json.Reader α) (p : Provider) (o : Outcome ν α) (failed : List Hearing) :
    List Hearing → Prop
  | settled {h : Hearing} (hroom : failed.length < p.count)
      (hsettles : Settlement result h.answer o.result)
      (hstays : (o.contacts.map Contact.endpoint).getLast? = some o.provider.active) :
      Ending result p o failed [h]
  | exhausted {h : Hearing} {failure : Failure} (hall : failed.length = p.count)
      (hlast : failed.getLast? = some h) (hread : readAnswer result h.answer = .error failure)
      (hresult : o.result = .error failure) (hback : o.provider.active = p.active) :
      Ending result p o failed []

/-- The walk of a request: what came back from the endpoints that failed, and then from the one that
settled it, if one did. -/
structure Walk (r : Request) (result : Json.Reader α) (p : Provider) (o : Outcome ν α)
    (failed settled : List Hearing) : Prop where
  contacts : o.contacts =
    (List.range (failed ++ settled).length).map fun i => p.contactAt r (p.ahead i)
  urls : (failed ++ settled).map (fun h => some h.url) =
    o.contacts.map fun c => p.urlAt c.endpoint
  bodies : (failed ++ settled).map Hearing.body = o.contacts.map fun c => c.request.body c.id
  nodup : (o.contacts.map Contact.endpoint).Nodup
  unanswered : ∀ h ∈ failed, Unanswered result h.answer
  active : o.provider.active = p.ahead failed.length
  ending : Ending result p o failed settled

/-- Every request walks from its active endpoint on. -/
theorem exists_walk (hactive : p.active < p.count) (s : ν) :
    ∃ failed settled,
      (request network.recorded r result p (s, [])).network.2 = failed ++ settled ∧
        Walk r result p (request network r result p s) failed settled := by
  have hcount : 0 < p.count := Nat.zero_lt_of_lt hactive
  obtain ⟨front, final, hrecorded, hread, hfront⟩ := request_heard network r result hcount s
  obtain ⟨heard, hheard, hurls⟩ := attempt_heard network r result p.count .noEndpoint hcount s []
  have hadvances : Advances r p p.count (request network r result p s) :=
    attempt_advances network r result (Nat.le_refl _) .noEndpoint rfl hactive s
  have hlog : (request network.recorded r result p (s, [])).network.2 = front ++ [final] :=
    congrArg Prod.snd hrecorded.network
  obtain rfl : heard = front ++ [final] := hheard.symm.trans hlog
  have hlength : (request network r result p s).contacts.length = front.length + 1 := by
    have hbodies := congrArg List.length hrecorded.bodies
    simpa using hbodies.symm
  have hcontacts := hadvances.contacts
  rw [hlength] at hcontacts
  have hpositions : (request network r result p s).contacts.map Contact.endpoint =
      (List.range (front.length + 1)).map p.ahead := by
    rw [hcontacts, List.map_map]
    rfl
  have hle := hadvances.length_le
  have hnodup : ((request network r result p s).contacts.map Contact.endpoint).Nodup := by
    rw [hpositions]
    exact nodup_ahead (by omega)
  have hfrom : (front ++ [final]).map (fun h => some h.url) =
      (request network r result p s).contacts.map fun c => p.urlAt c.endpoint := by
    rw [← hrecorded.contacts]
    exact hurls
  have hmoved := hadvances.active
  rw [failures, hlength] at hmoved
  cases hsettles : settles (request network r result p s).result with
  | true =>
      rw [if_pos hsettles, Nat.add_sub_cancel] at hmoved
      refine ⟨front, [final], hlog, ⟨?_, hfrom, hrecorded.bodies, hnodup, hfront, hmoved, ?_⟩⟩
      · rw [List.length_append]
        exact hcontacts
      · refine .settled (by omega) ?_ ?_
        · rw [hread] at hsettles ⊢
          exact settlement_of_settles hsettles
        · rw [hpositions, List.range_succ, List.map_append, hmoved]
          exact List.getLast?_concat
  | false =>
      have hall : front.length + 1 = p.count := hlength.symm.trans (hadvances.exhausted hsettles)
      rw [if_neg (by rw [hsettles]; exact Bool.false_ne_true)] at hmoved
      refine ⟨front ++ [final], [], by rw [hlog, List.append_nil], ⟨?_, ?_, ?_, hnodup, ?_, ?_, ?_⟩⟩
      · rw [List.append_nil, List.length_append]
        exact hcontacts
      · rw [List.append_nil]
        exact hfrom
      · rw [List.append_nil]
        exact hrecorded.bodies
      · intro h hh
        rcases List.mem_append.1 hh with hh | hh
        · exact hfront h hh
        · rw [List.mem_singleton.1 hh, unanswered_iff, ← hread]
          exact hsettles
      · rw [List.length_append]
        exact hmoved
      · obtain ⟨failure, hresult, -⟩ := settles_eq_false.1 hsettles
        refine .exhausted ?_ List.getLast?_concat (hread.symm.trans hresult) hresult ?_
        · rw [List.length_append]
          exact hall
        · rw [hmoved, hall, ahead_count hactive]

end

/-- The first endpoint is active in a new provider. -/
theorem active_lt_of_create {chainId : String} {urls : List String} {p : Provider}
    (h : create chainId urls = .ok p) : p.active < p.count := by
  unfold create at h
  split at h
  · cases h
  · next hvalid =>
      cases h
      rw [count, List.length_map]
      exact List.length_pos_iff.2 fun hnil => hvalid hnil

end Provider

namespace Connection

def after (network : Network ν) (c : Connection ν) (calls : List Call) : Connection ν :=
  calls.foldl (fun c call => (answer network c call).2.1) c

variable (network : Network ν)

theorem exchange_keeps {β : Type} (r : Request) (result : Json.Reader α)
    (read : Except Failure α → Except RelayError β) {c : Connection ν}
    (h : c.provider.active < c.provider.count) :
    (exchange network r result read c).2.1.provider.active < c.provider.count ∧
      (exchange network r result read c).2.1.provider.count = c.provider.count := by
  have hadvances := Provider.attempt_advances network r result (Nat.le_refl _) .noEndpoint rfl
    h c.network
  constructor
  · change (c.provider.request network r result c.network).provider.active < _
    have hactive := hadvances.active
    rw [Provider.request, hactive]
    exact Nat.mod_lt _ (Nat.zero_lt_of_lt h)
  · exact hadvances.count

theorem answer_keeps {c : Connection ν} (h : c.provider.active < c.provider.count) (call : Call) :
    (answer network c call).2.1.provider.active < c.provider.count ∧
      (answer network c call).2.1.provider.count = c.provider.count := by
  cases call <;> exact exchange_keeps network _ _ _ h

theorem after_keeps {c : Connection ν} (h : c.provider.active < c.provider.count)
    (calls : List Call) :
    (after network c calls).provider.active < c.provider.count ∧
      (after network c calls).provider.count = c.provider.count := by
  induction calls generalizing c with
  | nil => exact ⟨h, rfl⟩
  | cons call calls ih =>
      obtain ⟨hactive, hcount⟩ := answer_keeps network h call
      obtain ⟨hlater, hsame⟩ := ih (lt_of_lt_of_eq hactive hcount.symm)
      exact ⟨lt_of_lt_of_eq hlater hcount, hsame.trans hcount⟩

end Connection

/-- A request goes once around the endpoints at most, from the active one on, up to the first that
settles it. The index moves by one for every failure, and stays within bounds whatever is called,
as it is in a new provider. -/
theorem request_walks_once (network : Network ν) (r : Request) (result : Json.Reader α)
    {p : Provider} (hactive : p.active < p.count) (s : ν) :
    (∃ failed settled,
      (Provider.request network.recorded r result p (s, [])).network.2 = failed ++ settled ∧
        Provider.Walk r result p (Provider.request network r result p s) failed settled) ∧
    (∀ calls, (Connection.after network ⟨p, s⟩ calls).provider.active < p.count ∧
      (Connection.after network ⟨p, s⟩ calls).provider.count = p.count) ∧
    ∀ chainId urls q, Provider.create chainId urls = .ok q → q.active < q.count :=
  ⟨Provider.exists_walk network r result hactive s,
    fun calls => Connection.after_keeps network hactive calls,
    fun _ _ _ h => Provider.active_lt_of_create h⟩

def unplugged : Network Unit := fun _ _ _ => (.error "connection refused", ())

/-- Three endpoints, the last of which is active: all are asked, and the last is active again. -/
theorem request_walks_once_unplugged :
    let p : Provider :=
      ⟨"evmos_9001-2", [⟨"http://10.0.0.1", 0⟩, ⟨"http://10.0.0.2", 4⟩, ⟨"http://10.0.0.3", 1⟩], 2⟩
    let o := Provider.request unplugged (requestOf .feeMarketParams) QueryResult.reader p ()
    p.active < p.count ∧ o.contacts.map Contact.endpoint = [2, 0, 1] ∧ o.provider.active = 2 := by
  intro p o
  have hactive : p.active < p.count := by decide
  obtain ⟨⟨failed, settled, hheard, hwalk⟩, -⟩ := request_walks_once unplugged
    (requestOf .feeMarketParams) QueryResult.reader hactive ()
  have hanswers : (failed ++ settled).map Hearing.answer =
      List.replicate 3 (.error "connection refused") := by
    rw [← hheard]
    simp [p, Provider.request, Provider.count, Provider.attempt, Provider.send, Provider.position,
      Provider.countRequest, Provider.failover, Network.recorded, unplugged, Failure.isFinal]
  have hlength : (failed ++ settled).length = 3 := by
    rw [← List.length_map Hearing.answer, hanswers]
    rfl
  have hcontacts : o.contacts.map Contact.endpoint = [2, 0, 1] := by
    have hmap := congrArg (List.map Contact.endpoint) hwalk.contacts
    rw [hlength, List.map_map] at hmap
    exact hmap.trans (by decide : (List.range 3).map p.ahead = [2, 0, 1])
  refine ⟨hactive, hcontacts, ?_⟩
  cases hwalk.ending with
  | @settled h hroom hsettles hstays =>
      have hmem : h.answer ∈ (failed ++ [h]).map Hearing.answer := by simp
      rw [hanswers] at hmem
      have hanswer : h.answer = .error "connection refused" := List.eq_of_mem_replicate hmem
      generalize (Provider.request unplugged _ QueryResult.reader p ()).result = res at hsettles
      rw [hanswer] at hsettles
      cases hsettles with
      | result hok => cases hok
      | refusal hok => cases hok
  | exhausted hall hlast hread hresult hback => exact hback

end GasSponsor.Rpc
