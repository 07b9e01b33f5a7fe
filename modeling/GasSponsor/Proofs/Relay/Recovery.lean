import GasSponsor.Proofs.Relay.Contiguous

/-!
# Recovery from disturbances

However a ledger is disturbed, it disagrees with the relay at most once for each disturbance. The
request after such an answer begins with a query, and a request that queries the account is relayed
as if nothing had happened before, if the ledger is left alone until its broadcast.
-/

namespace GasSponsor.Relay

section

variable {w : Worker} {a b : AccountState} {known : Option AccountInfo} {m : Ethereum.Message}
  {denom : String} {xs : List Exchange} {result : RelayResult}

theorem not_mismatches_of_passes {x : Exchange} (h : x.Passes) : x.mismatches = false := by
  obtain ⟨c, reply⟩ := x
  cases c with
  | broadcast tx => cases h.2
  | blockResults _ | baseFee _ | feeMarketParams | account _ =>
      simp [Exchange.mismatches, Exchange.outcome?]

theorem not_mismatches_of_admits {x : Exchange} (h : x.admits = true) : x.mismatches = false := by
  rcases of_decide_eq_true h with h | h <;> simp [Exchange.mismatches, h]

/-- Nothing follows an answer that disagrees with the sequence. -/
theorem Ended.exists_last (h : Ended w known m denom xs result) {x : Exchange} (hx : x ∈ xs)
    (hm : x.mismatches = true) : ∃ ys, xs = ys ++ [x] := by
  cases h with
  | admitted hpass _ hadmits =>
      rcases List.mem_append.1 hx with hx | hx
      · rw [not_mismatches_of_passes (hpass x hx)] at hm
        cases hm
      · rw [List.mem_singleton.1 hx, not_mismatches_of_admits hadmits] at hm
        cases hm
  | refused hpass _ _ _ =>
      rw [not_mismatches_of_passes (hpass x hx)] at hm
      cases hm
  | @failed ys _ _ hpass _ =>
      rcases List.mem_append.1 hx with hx | hx
      · rw [not_mismatches_of_passes (hpass x hx)] at hm
        cases hm
      · rw [List.mem_singleton.1 hx]
        exact ⟨ys, rfl⟩

/-- A request begins with a query if the account is unknown. -/
theorem Relayed.begins_with_query (h : Relayed w a m denom xs b result)
    (hunknown : a.snapshot = none) :
    (xs.map Exchange.call).head? = some (.account w.builder.identity.bech32) := by
  have hfetched : ∀ {ys : List Exchange} {c : AccountState} {reply : Except RelayError AccountInfo}
      (zs : List Exchange), Fetched w.builder.identity.bech32 a ys c reply →
      ((ys ++ zs).map Exchange.call).head? = some (.account w.builder.identity.bech32) := by
    intro ys c reply zs hfetch
    cases hfetch with
    | cached _ hknown =>
        rw [hunknown] at hknown
        cases hknown
    | failed _ _ => rfl
    | queried _ _ => rfl
  cases h with
  | unfetched hfetch =>
      rw [← List.append_nil xs]
      exact hfetched [] hfetch
  | unquoted hfetch _ => exact hfetched _ hfetch
  | unbuilt hfetch _ _ => exact hfetched _ hfetch
  | unsent _ hfetch _ _ =>
      rw [List.append_assoc]
      exact hfetched _ hfetch
  | answered _ hfetch _ _ =>
      rw [List.append_assoc]
      exact hfetched _ hfetch

theorem Dealing.Begun.begins_with_query {worker : Worker} {d : Dealing} (h : d.Begun worker a)
    (hunknown : a.snapshot = none) :
    (d.exchanges.map Exchange.call).head? = some (.account worker.builder.identity.bech32) ∨
      (d.exchanges = [] ∧ d.result = none) := by
  obtain ⟨zs, b, result, hrelayed, hinitial⟩ := h.exists_relayed
  have hhead := hrelayed.begins_with_query hunknown
  cases hexchanges : d.exchanges with
  | cons x rest =>
      obtain ⟨more, hmore⟩ := hinitial
      rw [← hmore, hexchanges] at hhead
      exact .inl hhead
  | nil =>
      refine .inr ⟨rfl, ?_⟩
      cases h with
      | reaches h => exact h.1
      | left h => exact h.1
      | finished h =>
          obtain ⟨_, _, hcompletes⟩ := h
          have hquery := (Worker.relayed_of_completes hcompletes).begins_with_query hunknown
          rw [hexchanges] at hquery
          cases hquery

end

section

variable {σ : Type} {worker : Worker} {node : Node σ} {w : World σ} {log : List Entry}

/-- After an answer that disagrees with the sequence the next request begins with a query. -/
theorem Logged.query_after_mismatch (h : Logged worker w log) {front back : List Dealing}
    {d e : Dealing} (hds : dealings log = front ++ d :: e :: back) {x : Exchange}
    (hx : x ∈ d.exchanges) (hm : x.mismatches = true) :
    (e.exchanges.map Exchange.call).head? = some (.account worker.builder.identity.bech32) ∨
      (e.exchanges = [] ∧ e.result = none) := by
  have hrecorded := h.recorded
  rw [hds, List.append_cons] at hrecorded
  obtain ⟨a, hfront, hbegun⟩ := hrecorded.begun
  obtain ⟨result, hresult⟩ := hfront.exists_result (List.mem_append_right front List.mem_cons_self)
  obtain ⟨ys, hys⟩ := (h.ended hds hresult).exists_last hx hm
  refine hbegun.begins_with_query ?_
  rw [← hfront.lawful.2, List.flatMap_append, List.flatMap_singleton, hys, ← List.append_assoc,
    knownAfter_snoc]
  exact knownNext_mismatch _ hm

/-- From a successful query on, a ledger that is left alone admits what is broadcast. -/
theorem contiguous_of_query {start next : UInt64} {older middle newer : List Moment}
    {address : String} {info : AccountInfo}
    (hcourse : Course start
      (older ++ .orderly ⟨.account address, some (.ok info)⟩ :: (middle ++ newer)) next)
    (hlaw : Lawful worker none (answersOf
      (older ++ .orderly ⟨.account address, some (.ok info)⟩ :: (middle ++ newer))))
    (hquiet : disturbances middle = 0) :
    ∃ last, Contiguous info.sequence (answersOf middle) last := by
  rw [List.append_cons, ← List.append_assoc] at hcourse hlaw
  rw [answersOf_append, answersOf_append, answersOf_orderly] at hlaw
  -- the course is cut at the query, after which the account is known and nothing is owed
  obtain ⟨last, hcourse, _⟩ := hcourse.exists_middle
  obtain ⟨middle', hquery, hmiddle⟩ := hcourse.exists_middle
  have hlaw' := (lawful_append.1 hlaw.left).2
  rw [knownAfter_snoc] at hlaw'
  obtain ⟨_, _, hsequence, rfl⟩ := hquery.of_orderly
  rw [hsequence]
  refine ⟨last, hmiddle.contiguous hlaw' ?_ hquiet⟩
  rw [← hsequence]
  exact owed_self info

/-- The only admitted envelope of a request that queried the account carries the answer. -/
theorem exists_accepted {address : String} {info : AccountInfo} {xs : List Exchange}
    {last : UInt64} (h : Contiguous info.sequence xs last)
    (honce : (xs.map Exchange.call).countP Call.isBroadcast ≤ 1) {x : Exchange}
    (hx : x ∈ ⟨.account address, some (.ok info)⟩ :: xs) (hadmits : x.admits = true) :
    ∃ tx r, ⟨.broadcast tx, some (.ok r)⟩ ∈ xs ∧ r.outcome = .accepted ∧
      CarriesSequence tx info.sequence := by
  cases hx with
  | head => cases hadmits
  | tail _ hx =>
      obtain ⟨o, ho⟩ : ∃ o, x.outcome? = some o := by
        rcases of_decide_eq_true hadmits with h | h
        · exact ⟨_, h⟩
        · exact ⟨_, h⟩
      obtain ⟨tx, r, rfl, rfl⟩ := exists_broadcast_of_outcome ho
      have hr := h.accepted _ hx _ ho
      refine ⟨tx, r, hx, hr, ?_⟩
      have hmem : tx ∈ admitted xs :=
        List.mem_filterMap.2 ⟨_, hx, if_pos hadmits⟩
      obtain ⟨i, hi⟩ := List.mem_iff_getElem?.1 hmem
      have hlt : i < (admitted xs).length := (List.getElem?_eq_some_iff.1 hi).1
      obtain rfl : i = 0 := by
        have := length_admitted_le xs
        omega
      simpa using h.sequences 0 tx hi

/-- The ledger disagrees with the relay at most once for each disturbance, and the relay recovers
with the next query. -/
theorem mismatches_le_disturbances (worker : Worker) (node : Node σ) (s : σ) (capacity : Nat)
    (events : List World.Event) (start next : UInt64) (ms : List Moment)
    (hcourse : Course start ms next)
    (hms : answersOf ms = exchanges ((World.start s capacity).log worker node events)) :
    let log := (World.start s capacity).log worker node events
    mismatches (exchanges log) ≤ disturbances ms ∧
    (∀ front d e back, dealings log = front ++ d :: e :: back →
      (∃ x ∈ d.exchanges, x.mismatches = true) →
      (e.exchanges.map Exchange.call).head? = some (.account worker.builder.identity.bech32) ∨
        (e.exchanges = [] ∧ e.result = none)) ∧
    ∀ front d back older address info middle newer, dealings log = front ++ d :: back →
      ms = older ++ .orderly ⟨.account address, some (.ok info)⟩ :: (middle ++ newer) →
      d.exchanges = ⟨.account address, some (.ok info)⟩ :: answersOf middle →
      disturbances middle = 0 → ∀ result, d.result = some result →
      (result = .ok d.request.message.hash ∧
        ∃ tx r, ⟨.broadcast tx, some (.ok r)⟩ ∈ d.exchanges ∧ r.outcome = .accepted ∧
          CarriesSequence tx info.sequence) ∨
      ∃ e, result = .error e ∧
        Hindered worker (knownAfter none (front.flatMap Dealing.exchanges)) d.request.message
          d.request.denom d.exchanges e := by
  intro log
  change answersOf ms = exchanges log at hms
  have hlogged : Logged worker ((World.start s capacity).run worker node events) log :=
    logged worker node s capacity events
  have hlaw : Lawful worker none (answersOf ms) := by
    rw [hms]
    exact hlogged.lawful
  refine ⟨?_, ?_, ?_⟩
  · have hbound := hcourse.mismatches_add_owed_le hlaw
    rw [hms, owed] at hbound
    omega
  · rintro front d e back hds ⟨x, hx, hm⟩
    exact hlogged.query_after_mismatch hds hx hm
  · rintro front d back older address info middle newer hds rfl hexchanges hquiet result hresult
    obtain ⟨last, hcontiguous⟩ := contiguous_of_query hcourse hlaw hquiet
    have hended := hlogged.ended hds hresult
    have hhindered := hended.ok_or_hindered fun tx r hx => by
      rw [hexchanges] at hx
      rcases List.mem_cons.1 hx with hx | hx
      · cases hx
      · exact refusal?_eq_none (hcontiguous.accepted _ hx _ rfl)
    refine hhindered.imp_left fun hok => ⟨hok, ?_⟩
    obtain ⟨_, x, hx, hadmits⟩ := (hended.ok_iff _).1 hok
    have honce := hended.countP_isBroadcast_le
    rw [hexchanges] at hx honce
    obtain ⟨tx, r, hmem, hr, hcarries⟩ := exists_accepted hcontiguous honce hx hadmits
    rw [hexchanges]
    exact ⟨tx, r, List.mem_cons_of_mem _ hmem, hr, hcarries⟩

/-- A node whose sequence is moved from outside whenever it has told of its fee market. -/
def restlessNode : Node ScriptedNode.State := fun s c =>
  let (reply, s) := ScriptedNode.unscripted s c
  match c with
  | .feeMarketParams => (reply, ScriptedNode.bump s)
  | _ => (reply, s)

def restlessMoments (x : Exchange) : List Moment :=
  match x.call with
  | .feeMarketParams => [.orderly x, .outside]
  | _ => [.orderly x]

theorem course_restless (s : ScriptedNode.State) (c : Call) :
    Course s.account.sequence (restlessMoments ⟨c, (restlessNode s c).1⟩)
      (restlessNode s c).2.account.sequence := by
  have horderly := Course.nil.orderly (ScriptedNode.orderlyNode_unscripted s c)
  cases c with
  | feeMarketParams => exact horderly.outside _
  | blockResults _ | baseFee _ | account _ | broadcast _ => exact horderly

theorem answersOf_restless (xs : List Exchange) : answersOf (xs.flatMap restlessMoments) = xs := by
  induction xs with
  | nil => rfl
  | cons x xs ih =>
      obtain ⟨c, reply⟩ := x
      rw [List.flatMap_cons, answersOf_append, ih]
      cases c <;> rfl

/-- The sequence is moved between the query and the broadcast of each request. -/
theorem mismatches_le_disturbances_restless :
    let log := (World.start ScriptedNode.initial 16).log sampleWorker restlessNode sampleEvents
    let ms := (exchanges log).flatMap restlessMoments
    (∃ next, Course 7 ms next) ∧ answersOf ms = exchanges log ∧
      mismatches (exchanges log) ≤ disturbances ms := by
  intro log ms
  have hcourse : Course 7 ms _ :=
    course_of_run course_restless sampleWorker ScriptedNode.initial 16 sampleEvents
  have hms : answersOf ms = exchanges log := answersOf_restless (exchanges log)
  exact ⟨⟨_, hcourse⟩, hms, (mismatches_le_disturbances sampleWorker restlessNode
    ScriptedNode.initial 16 sampleEvents 7 _ ms hcourse hms).1⟩

end

end GasSponsor.Relay
