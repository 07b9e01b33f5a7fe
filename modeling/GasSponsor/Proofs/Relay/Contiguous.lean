import GasSponsor.Proofs.Relay.Ledger
import GasSponsor.Proofs.Relay.Outcome
import GasSponsor.Proofs.Relay.Progress

/-!
# Contiguous sequences

Against a ledger that nothing disturbs, the relay never disagrees with it: the account that is known
has the ledger's next sequence, through every failed call and every refused message. The envelopes
that are admitted carry one sequence after another, in the order in which the requests entered the
queue, and a request that nothing hinders is relayed.
-/

namespace GasSponsor

def Exchange.admitted? (x : Exchange) : Option Bytes :=
  match x.call with
  | .broadcast tx => if x.admits then some tx else none
  | _ => none

def admitted (xs : List Exchange) : List Bytes := xs.filterMap Exchange.admitted?

namespace Relay

theorem admitted_append (xs ys : List Exchange) :
    admitted (xs ++ ys) = admitted xs ++ admitted ys :=
  List.filterMap_append

theorem admitted_still {x : Exchange} (h : x.outcome? = none) : admitted [x] = [] := by
  obtain ⟨c, reply⟩ := x
  cases c <;> simp [admitted, Exchange.admitted?, Exchange.admits, h]

theorem admitted_accepted {tx : Bytes} {r : BroadcastResponse} (h : r.outcome = .accepted) :
    admitted [⟨.broadcast tx, some (.ok r)⟩] = [tx] := by
  simp [admitted, Exchange.admitted?, Exchange.admits, Exchange.outcome?, h]

section

variable {w : Worker} {known : Option AccountInfo}

/-- When nothing is owed, an answer is no response, or admits an envelope with the next sequence. -/
theorem orderly_cases {before after : UInt64} {x : Exchange} (h : Orderly before x after)
    (hallowed : Allowed w known x.call) (howed : owed known before = 0) :
    (x.outcome? = none ∧ after = before) ∨
      ∃ tx r, x = ⟨.broadcast tx, some (.ok r)⟩ ∧ r.outcome = .accepted ∧
        CarriesSequence tx before ∧ after = before + 1 := by
  cases houtcome : x.outcome? with
  | none =>
      refine .inl ⟨rfl, ?_⟩
      cases hinfo : x.info? with
      | none => exact still_of_orderly h hinfo houtcome
      | some info =>
          obtain ⟨address, rfl⟩ := exists_account_of_info hinfo
          exact h.2
  | some o =>
      obtain ⟨tx, r, rfl, _⟩ := exists_broadcast_of_outcome houtcome
      obtain ⟨info, rfl, hsigned⟩ := exists_signedFor hallowed
      have heq : info.sequence = before := eq_of_owed_eq_zero howed
      rcases orderly_response h hsigned with ⟨_, hr, hafter⟩ | ⟨hne, _⟩
      · refine .inr ⟨tx, r, rfl, hr, ?_, ?_⟩
        · rw [← heq]
          exact hsigned.carriesSequence
        · rw [hafter, ← heq]
          rfl
      · exact absurd heq hne

/-- What an undisturbed course comes to: every response is an admission, the ledger has moved by
their number, and the admitted envelopes carry the sequences in between. -/
structure Contiguous (start : UInt64) (xs : List Exchange) (next : UInt64) : Prop where
  accepted : ∀ x ∈ xs, ∀ o, x.outcome? = some o → o = .accepted
  next_eq : next = start + UInt64.ofNat (admitted xs).length
  sequences : ∀ i tx, (admitted xs)[i]? = some tx → CarriesSequence tx (start + UInt64.ofNat i)

theorem contiguous_nil (start : UInt64) : Contiguous start [] start where
  accepted := by simp
  next_eq := by simp [admitted]
  sequences := by simp [admitted]

theorem Contiguous.still {start next : UInt64} {xs : List Exchange} {x : Exchange}
    (h : Contiguous start xs next) (hx : x.outcome? = none) :
    Contiguous start (xs ++ [x]) next where
  accepted := by
    intro y hy o ho
    rcases List.mem_append.1 hy with hy | hy
    · exact h.accepted y hy o ho
    · rw [List.mem_singleton.1 hy, hx] at ho
      cases ho
  next_eq := by
    rw [admitted_append, admitted_still hx, List.append_nil]
    exact h.next_eq
  sequences := by
    rw [admitted_append, admitted_still hx, List.append_nil]
    exact h.sequences

theorem Contiguous.admit {start next : UInt64} {xs : List Exchange} {tx : Bytes}
    {r : BroadcastResponse} (h : Contiguous start xs next) (hr : r.outcome = .accepted)
    (htx : CarriesSequence tx next) :
    Contiguous start (xs ++ [⟨.broadcast tx, some (.ok r)⟩]) (next + 1) where
  accepted := by
    intro y hy o ho
    rcases List.mem_append.1 hy with hy | hy
    · exact h.accepted y hy o ho
    · rw [List.mem_singleton.1 hy] at ho
      exact (Option.some.inj ho).symm.trans hr
  next_eq := by
    rw [admitted_append, admitted_accepted hr, List.length_append, h.next_eq, UInt64.ofNat_add,
      UInt64.add_assoc]
    rfl
  sequences := by
    intro i tx' hi
    rw [admitted_append, admitted_accepted hr] at hi
    rcases Nat.lt_trichotomy i (admitted xs).length with hlt | heq | hgt
    · rw [List.getElem?_append_left hlt] at hi
      exact h.sequences i tx' hi
    · subst heq
      rw [List.getElem?_concat_length] at hi
      cases hi
      rw [← h.next_eq]
      exact htx
    · have hlength : (admitted xs ++ [tx]).length ≤ i := by
        rw [List.length_append]
        exact hgt
      rw [List.getElem?_eq_none hlength] at hi
      cases hi

theorem Course.contiguous {start next : UInt64} {ms : List Moment} (h : Course start ms next)
    (hlaw : Lawful w known (answersOf ms)) (howed : owed known start = 0)
    (hquiet : disturbances ms = 0) : Contiguous start (answersOf ms) next := by
  induction h with
  | nil => exact contiguous_nil start
  | @orderly ms before after x hms hx ih =>
      rw [answersOf_orderly] at hlaw ⊢
      have hquiet' : disturbances ms = 0 := by
        rw [disturbances_snoc] at hquiet
        omega
      have hbefore := hms.mismatches_add_owed_le hlaw.left
      have hnone : owed (knownAfter known (answersOf ms)) before = 0 := by omega
      have hcontiguous := ih hlaw.left hquiet'
      rcases orderly_cases hx (lawful_snoc.1 hlaw).2 hnone with
        ⟨hstill, rfl⟩ | ⟨tx, r, rfl, hr, htx, rfl⟩
      · exact hcontiguous.still hstill
      · exact hcontiguous.admit hr htx
  | disturbed _ _ _ _ =>
      rw [disturbances_snoc] at hquiet
      cases hquiet
  | outside _ _ _ =>
      rw [disturbances_snoc] at hquiet
      cases hquiet

end

def Dealing.admitted (d : Dealing) : List (Request × Bytes) :=
  (GasSponsor.admitted d.exchanges).map fun tx => (d.request, tx)

theorem snapshot_of_ready {a : AccountState} (h : a.phase = .ready) :
    a.snapshot = some ⟨a.accountNumber, a.sequence⟩ := by
  unfold AccountState.phase at h
  split at h
  · cases h
  · next hstale => rw [AccountState.snapshot, if_neg hstale]

section

variable {σ : Type} {worker : Worker} {node : Node σ} {next : σ → UInt64}

theorem length_admitted_le (xs : List Exchange) :
    (admitted xs).length ≤ (xs.map Exchange.call).countP Call.isBroadcast := by
  induction xs with
  | nil => exact Nat.le_refl 0
  | cons x xs ih =>
      obtain ⟨c, reply⟩ := x
      rw [← List.singleton_append, admitted_append, List.length_append, List.map_append,
        List.countP_append]
      refine Nat.add_le_add ?_ ih
      cases c with
      | broadcast tx => exact List.length_filterMap_le _ _
      | blockResults _ | baseFee _ | feeMarketParams | account _ => exact Nat.le_refl 0

theorem map_snd_admitted (ds : List Dealing) :
    (ds.flatMap Dealing.admitted).map Prod.snd = admitted (ds.flatMap Dealing.exchanges) := by
  induction ds with
  | nil => rfl
  | cons d ds ih =>
      rw [List.flatMap_cons, List.flatMap_cons, List.map_append, ih, admitted_append]
      congr 1
      rw [Dealing.admitted, List.map_map]
      exact List.map_id _

/-- The requests of admitted envelopes stand in the order of the dealings. -/
theorem map_fst_admitted_sublist (ds : List Dealing)
    (honce : ∀ d ∈ ds, (d.exchanges.map Exchange.call).countP Call.isBroadcast ≤ 1) :
    ((ds.flatMap Dealing.admitted).map Prod.fst).Sublist (ds.map Dealing.request) := by
  induction ds with
  | nil => exact List.Sublist.refl _
  | cons d ds ih =>
      rw [List.flatMap_cons, List.map_append, List.map_cons, ← List.singleton_append]
      refine List.Sublist.append ?_ (ih fun e he => honce e (List.mem_cons_of_mem d he))
      have hle := Nat.le_trans (length_admitted_le d.exchanges) (honce d List.mem_cons_self)
      cases hd : GasSponsor.admitted d.exchanges with
      | nil => simp [Dealing.admitted, hd]
      | cons tx rest =>
          rw [hd, List.length_cons] at hle
          obtain rfl : rest = [] := List.eq_nil_of_length_eq_zero (by omega)
          simp [Dealing.admitted, hd]

theorem mismatches_eq_false_of_contiguous {start last : UInt64} {xs : List Exchange}
    (h : Contiguous start xs last) {x : Exchange} (hx : x ∈ xs) : x.mismatches = false := by
  refine decide_eq_false fun hmismatch => ?_
  cases h.accepted x hx _ hmismatch

theorem refusal?_eq_none {r : BroadcastResponse} (h : r.outcome = .accepted) :
    r.refusal? = none := by
  rw [BroadcastResponse.refusal?, h]

/-- Only a failed call tells of a sequence without a response. -/
theorem Hindered.exists_failure {known : Option AccountInfo} {m : Ethereum.Message}
    {denom : String} {xs : List Exchange} {e : RelayError}
    (h : Hindered worker known m denom xs e) (he : e.isSequenceMismatch = true) :
    ∃ x ∈ xs, x.failure? = some e := by
  cases h with
  | call hx hfailure => exact ⟨_, hx, hfailure⟩
  | noBaseFee _ => cases he
  | noDenominator _ => cases he
  | refused _ _ _ _ => cases he

section

variable (worker : Worker) (s : σ) (capacity : Nat) (events : List World.Event)

theorem lawful_of_run (node : Node σ) :
    Lawful worker none (exchanges ((World.start s capacity).log worker node events)) :=
  (logged worker node s capacity events).lawful

theorem contiguous_of_run (h : OrderlyNode node next) :
    Contiguous (next s) (exchanges ((World.start s capacity).log worker node events))
      (next ((World.start s capacity).run worker node events).node) := by
  have hlaw := lawful_of_run worker s capacity events node
  rw [← answersOf_map_orderly (exchanges _)] at hlaw ⊢
  exact (h.course_of_run worker s capacity events).contiguous hlaw rfl
    (disturbances_map_orderly _)

theorem owed_of_run (h : OrderlyNode node next) :
    owed (knownAfter none (exchanges ((World.start s capacity).log worker node events)))
      (next ((World.start s capacity).run worker node events).node) = 0 := by
  have hlaw := lawful_of_run worker s capacity events node
  rw [← answersOf_map_orderly (exchanges _)] at hlaw
  have howed := (h.course_of_run worker s capacity events).mismatches_add_owed_le hlaw
  rw [answersOf_map_orderly, disturbances_map_orderly, owed] at howed
  omega

/-- Between two requests a worker that is ready agrees with the ledger. -/
theorem sequence_of_ready (h : OrderlyNode node next)
    (hidle : ((World.start s capacity).run worker node events).stage = .idle)
    (hready : ((World.start s capacity).run worker node events).account.phase = .ready) :
    ((World.start s capacity).run worker node events).account.sequence =
      next ((World.start s capacity).run worker node events).node := by
  have howed := owed_of_run worker s capacity events h
  rw [(logged worker node s capacity events).known_of_idle hidle, snapshot_of_ready hready] at howed
  exact eq_of_owed_eq_zero howed

/-- A request is relayed, unless a call failed or it could not be quoted or built. -/
theorem result_of_run (h : OrderlyNode node next) {front back : List Dealing} {d : Dealing}
    (hds : dealings ((World.start s capacity).log worker node events) = front ++ d :: back)
    {result : RelayResult} (hresult : d.result = some result) :
    result = .ok d.request.message.hash ∨ ∃ e, result = .error e ∧
      Hindered worker (knownAfter none (front.flatMap Dealing.exchanges)) d.request.message
        d.request.denom d.exchanges e := by
  have hlogged := logged worker node s capacity events
  refine (hlogged.ended hds hresult).ok_or_hindered fun tx r hx => refusal?_eq_none ?_
  refine (contiguous_of_run worker s capacity events h).accepted ⟨.broadcast tx, some (.ok r)⟩
    ?_ _ rfl
  rw [hlogged.exchanges_eq, hds]
  exact List.mem_flatMap.2 ⟨d, by simp, hx⟩

end

/-- Whatever the order of events, the ledger admits the relay's envelopes with one sequence after
another, and the relay never disagrees with the ledger. -/
theorem sequences_contiguous (worker : Worker) (node : Node σ) (next : σ → UInt64)
    (h : OrderlyNode node next) (s : σ) (capacity : Nat) (events : List World.Event) :
    let w := (World.start s capacity).run worker node events
    let log := (World.start s capacity).log worker node events
    let sent := (dealings log).flatMap Dealing.admitted
    (w.stage = .idle → w.account.phase = .ready → w.account.sequence = next w.node) ∧
    (∀ x ∈ exchanges log, x.mismatches = false) ∧
    (∀ d ∈ dealings log, ∀ e, d.result = some (.error e) → e.isSequenceMismatch = true →
      ∃ x ∈ d.exchanges, x.failure? = some e) ∧
    (sent.map Prod.fst).Sublist (enqueued log) ∧ ((enqueued log).map Request.number).Nodup ∧
    (∀ i r tx, sent[i]? = some (r, tx) → CarriesSequence tx (next s + UInt64.ofNat i)) ∧
    next w.node = next s + UInt64.ofNat sent.length ∧
    (∀ front d back, dealings log = front ++ d :: back → ∀ result, d.result = some result →
      result = .ok d.request.message.hash ∨ ∃ e, result = .error e ∧
        Hindered worker (knownAfter none (front.flatMap Dealing.exchanges)) d.request.message
          d.request.denom d.exchanges e) ∧
    ∃ n,
      let v := (World.start s capacity).run worker node (events ++ World.working n)
      let later := (World.start s capacity).log worker node (events ++ World.working n)
      v.stage = .stuck ∨ v.isRunning = false ∨
        ((dealings later).map Dealing.request = enqueued later ∧
          ∀ d ∈ dealings later, ∃ result, d.result = some result) := by
  intro w log sent
  have hlogged : Logged worker w log := logged worker node s capacity events
  have hordered : Ordered w log := ordered worker node s capacity events
  have hcontiguous : Contiguous (next s) (exchanges log) (next w.node) :=
    contiguous_of_run worker s capacity events h
  have hsent : sent.map Prod.snd = admitted (exchanges log) := by
    rw [map_snd_admitted, hlogged.exchanges_eq]
  refine ⟨sequence_of_ready worker s capacity events h,
    fun x hx => mismatches_eq_false_of_contiguous hcontiguous hx, ?_, ?_, hordered.nodup_numbers,
    ?_, ?_, fun front d back hds result => result_of_run worker s capacity events h hds,
    exists_all_answered worker node s capacity events⟩
  · intro d hd e hresult he
    obtain ⟨front, back, hds⟩ := List.append_of_mem hd
    rcases result_of_run worker s capacity events h hds hresult with hok | ⟨_, herror, hhindered⟩
    · cases hok
    · cases herror
      exact hhindered.exists_failure he
  · have hsublist := map_fst_admitted_sublist (dealings log) fun d hd =>
      hlogged.countP_isBroadcast_le hd
    rw [map_request_dealings] at hsublist
    exact hsublist.trans hordered.taken_isPrefix.sublist
  · intro i r tx hi
    refine hcontiguous.sequences i tx ?_
    rw [← hsent, List.getElem?_map, hi]
    rfl
  · rw [← List.length_map (f := Prod.snd), hsent]
    exact hcontiguous.next_eq

def sampleWorker : Worker where
  builder :=
    { identity :=
        { key := ⟨1, by decide, by decide⟩
          publicKey := 2 :: Bytes.fixed 32
            0x79be667ef9dcbbac55a06295ce870b07029bfcdb2dce28d959f2815b16f81798
          address := ⟨Bytes.fixed 20 0x751e76e8199196d454941c45d1b3a323f1433bd6, rfl⟩
          bech32 := "evmos1w508d6qejxtdg4y5r3zarvary0c5xw7kcux54s" }
      chainId := "evmos_9001-2" }
  estimator := ⟨10, .lookahead⟩

def sampleMessage : Ethereum.Message where
  hash := ⟨Bytes.fixed 32 1, rfl⟩
  gasLimit := 21000
  chainId := some 9001
  kind := .legacy
  sender := ⟨Bytes.fixed 20 2, rfl⟩
  data := ⟨"/ethermint.evm.v1.LegacyTx", [8, 1]⟩

def sampleEvents : List World.Event :=
  .action (.submit sampleMessage "aevmos") :: .action (.submit sampleMessage "aevmos") ::
    World.working 100

theorem sequences_contiguous_unscripted :
    OrderlyNode ScriptedNode.unscripted (fun s => s.account.sequence) ∧
    let start := World.start ScriptedNode.initial 16
    (start.run sampleWorker ScriptedNode.unscripted sampleEvents).node.account.sequence =
      7 + UInt64.ofNat ((dealings (start.log sampleWorker ScriptedNode.unscripted
        sampleEvents)).flatMap Dealing.admitted).length := by
  refine ⟨ScriptedNode.orderlyNode_unscripted, ?_⟩
  have h := sequences_contiguous sampleWorker ScriptedNode.unscripted
    (fun s => s.account.sequence) ScriptedNode.orderlyNode_unscripted ScriptedNode.initial 16
    sampleEvents
  exact h.2.2.2.2.2.2.1

end

end Relay

end GasSponsor
