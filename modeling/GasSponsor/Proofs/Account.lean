import GasSponsor.Proofs.Relay.Account

/-!
# The account and its history

Whatever is done with an account, in any order and at any node, what it will sign with follows from
what has been done: the answer of the last successful query, moved on by the admissions since, unless
it was invalidated after that query. The fields keep no more than this, also while they are stale.
-/

namespace GasSponsor

def Node.recorded {σ : Type} (node : Node σ) : Node (σ × List Exchange) := fun s c =>
  let answered := node s.1 c
  (answered.1, answered.2, s.2 ++ [⟨c, answered.1⟩])

namespace Program

theorem Conversed.recorded {σ : Type} {node : Node σ} {s t : σ × List Exchange} {xs : List Exchange}
    (h : Conversed node.recorded s xs t) : t.2 = s.2 ++ xs := by
  induction h with
  | nothing s => exact (List.append_nil _).symm
  | left h =>
      obtain ⟨hreply, rfl⟩ := Prod.mk.inj h
      rw [hreply]
  | answered h _ ih =>
      obtain ⟨hreply, rfl⟩ := Prod.mk.inj h
      rw [ih, hreply, List.append_assoc, List.singleton_append]

/-- What is recorded of a run is its transcript. -/
theorem run_recorded {σ α : Type} (node : Node σ) (p : Program α) (s : σ) (m : Metrics) :
    let r := p.run node.recorded (s, []) m
    (∃ a, r.rest = done a ∧ Completes p r.node.2 a) ∨
      ∃ ys c next, r.node.2 = ys ++ [⟨c, none⟩] ∧ r.rest = call c next ∧
        Follows p ys (call c next) := by
  intro r
  obtain ⟨xs, -, hconversed, hend⟩ := p.run_conversed node.recorded (s, []) m
  have hxs : r.node.2 = xs := hconversed.recorded
  rw [hxs]
  exact hend

end Program

open Program

namespace AccountState

inductive Operation
  | ensureFresh (address : String)
  | advance
  | invalidate
deriving DecidableEq

def perform (a : AccountState) :
    Operation → Program (AccountState × Option (Except RelayError AccountInfo))
  | .ensureFresh address => do
    let (a, reply) ← a.ensureFresh address
    return (a, some reply)
  | .advance => do
    let a ← a.advance
    return (a, none)
  | .invalidate => return (a.invalidate, none)

structure Deed where
  operation : Operation
  exchanges : List Exchange
  reply : Option (Except RelayError AccountInfo)

def Deed.answer? : Deed → Option AccountInfo
  | ⟨.ensureFresh _, [x], _⟩ => x.info?
  | _ => none

def advances (ds : List Deed) : Nat := ds.countP fun d => decide (d.operation = .advance)

/-- The last successful query and the admissions since make up this account, and it has not been
invalidated. -/
def Derived (ds : List Deed) (info : AccountInfo) : Prop :=
  ∃ (older : List Deed) (query : Deed) (newer : List Deed) (answer : AccountInfo),
    ds = older ++ query :: newer ∧ query.answer? = some answer ∧
    (∀ d ∈ newer, d.answer? = none ∧ d.operation ≠ .invalidate) ∧
    info = answer.advanced (advances newer)

structure Session (σ : Type) where
  node : σ
  metrics : Metrics
  account : AccountState
  deeds : List Deed

namespace Session

variable {σ : Type}

def start (s : σ) (m : Metrics) : Session σ := ⟨s, m, .initial, []⟩

/-- A query that the node leaves is given up, with the account as it was. -/
def step (node : Node σ) (u : Session σ) (op : Operation) : Session σ :=
  let r := (u.account.perform op).run node.recorded (u.node, []) u.metrics
  let out := r.rest.result?
  ⟨r.node.1, r.metrics, (out.map Prod.fst).getD u.account,
    u.deeds ++ [⟨op, r.node.2, out.bind Prod.snd⟩]⟩

def run (node : Node σ) (u : Session σ) (ops : List Operation) : Session σ :=
  ops.foldl (step node) u

end Session

inductive Done (a : AccountState) : Deed → AccountState → Prop
  | ensured {address : String} {xs : List Exchange} {b : AccountState}
      {reply : Except RelayError AccountInfo} (h : Fetched address a xs b reply) :
      Done a ⟨.ensureFresh address, xs, some reply⟩ b
  | left {address : String} (h : a.snapshot = none) :
      Done a ⟨.ensureFresh address, [⟨.account address, none⟩], none⟩ a
  | advanced : Done a ⟨.advance, [], none⟩ { a with sequence := a.sequence + 1 }
  | invalidated : Done a ⟨.invalidate, [], none⟩ a.invalidate

section

variable {σ : Type} {node : Node σ} {a b : AccountState} {op : Operation} {xs : List Exchange}
  {reply : Option (Except RelayError AccountInfo)} {info : AccountInfo}

theorem Done.length_exchanges_le {d : Deed} (h : Done a d b) : d.exchanges.length ≤ 1 := by
  cases h with
  | ensured hfetch => cases hfetch <;> simp
  | left hstale => exact Nat.le_refl 1
  | advanced => exact Nat.zero_le 1
  | invalidated => exact Nat.zero_le 1

theorem done_of_completes (h : Completes (a.perform op) xs (b, reply)) : Done a ⟨op, xs, reply⟩ b := by
  cases op with
  | ensureFresh address =>
      obtain ⟨ys, ⟨c, answer⟩, zs, rfl, hfetch, hend⟩ := completes_bind.1 h
      obtain ⟨rfl, hend⟩ := completes_pure.1 hend
      cases hend
      rw [List.append_nil]
      exact .ensured (fetched_of_completes hfetch)
  | advance =>
      obtain ⟨ys, c, zs, rfl, hadvance, hend⟩ := completes_bind.1 h
      obtain ⟨rfl, rfl⟩ := completes_advance.1 hadvance
      obtain ⟨rfl, hend⟩ := completes_pure.1 hend
      cases hend
      exact .advanced
  | invalidate =>
      obtain ⟨rfl, hend⟩ := completes_pure.1 h
      cases hend
      exact .invalidated

/-- The only call at which an operation can be left is the query for an account that is stale. -/
theorem done_of_left {c : Call} {next : Reply c → Program _}
    (h : Follows (a.perform op) xs (.call c next)) : Done a ⟨op, xs ++ [⟨c, none⟩], none⟩ a := by
  -- had the query failed instead, the operation would have ended
  obtain ⟨ys, ⟨b, reply⟩, hend⟩ := h.exists_completes_call (.error .workerUnavailable)
  have hdone := done_of_completes hend
  cases xs with
  | nil =>
      generalize hzs : [] ++ ⟨c, some (.error .workerUnavailable)⟩ :: ys = zs at hdone
      cases hdone with
      | ensured hfetch =>
          cases hfetch with
          | cached info hknown => cases hzs
          | failed e hstale =>
              cases hzs
              exact .left hstale
          | queried info hstale => cases hzs
      | left hstale => cases hzs
      | advanced => cases hzs
      | invalidated => cases hzs
  | cons x xs =>
      have hlength := hdone.length_exchanges_le
      simp at hlength

theorem Session.step_done (node : Node σ) (u : Session σ) (op : Operation) :
    ∃ d : Deed, (u.step node op).deeds = u.deeds ++ [d] ∧ d.operation = op ∧
      Done u.account d (u.step node op).account := by
  refine ⟨_, rfl, rfl, ?_⟩
  rw [step]
  rcases run_recorded node (u.account.perform op) u.node u.metrics with
    ⟨⟨b, reply⟩, hrest, hcompletes⟩ | ⟨ys, c, next, hexchanges, hrest, hfollows⟩
  · rw [hrest]
    exact done_of_completes hcompletes
  · rw [hrest, hexchanges]
    exact done_of_left hfollows

theorem snapshot_advanced (a : AccountState) :
    AccountState.snapshot { a with sequence := a.sequence + 1 } = a.snapshot.map (·.advanced 1) := by
  rw [snapshot, snapshot]
  cases a.stale <;> rfl

/-- What the account will sign with is moved on by an operation that neither answers nor invalidates. -/
theorem snapshot_eq_some_of_map {d : Deed} (hanswer : d.answer? = none)
    (hvalid : d.operation ≠ .invalidate)
    (hmoved : b.snapshot = a.snapshot.map (·.advanced (advances [d]))) :
    b.snapshot = some info ↔ d.answer? = some info ∨
      (d.answer? = none ∧ d.operation ≠ .invalidate ∧
        ∃ before, a.snapshot = some before ∧ info = before.advanced (advances [d])) := by
  rw [hmoved, Option.map_eq_some_iff, hanswer]
  constructor
  · rintro ⟨before, hbefore, rfl⟩
    exact .inr ⟨rfl, hvalid, before, hbefore, rfl⟩
  · rintro (hnone | ⟨-, -, before, hbefore, rfl⟩)
    · cases hnone
    · exact ⟨before, hbefore, rfl⟩

/-- What an operation leaves of what the account will sign with. -/
theorem Done.snapshot_eq_some {d : Deed} (h : Done a d b) :
    b.snapshot = some info ↔ d.answer? = some info ∨
      (d.answer? = none ∧ d.operation ≠ .invalidate ∧
        ∃ before, a.snapshot = some before ∧ info = before.advanced (advances [d])) := by
  have hkept : a.snapshot = a.snapshot.map (·.advanced 0) := by
    simp only [AccountInfo.advanced_zero, Option.map_id']
  cases h with
  | ensured hfetch =>
      cases hfetch with
      | cached answer hknown => exact snapshot_eq_some_of_map rfl nofun hkept
      | failed e hstale => exact snapshot_eq_some_of_map rfl nofun hkept
      | queried answer hstale =>
          constructor
          · exact .inl
          · rintro (hanswer | ⟨hnone, -⟩)
            · exact hanswer
            · cases hnone
  | left hstale => exact snapshot_eq_some_of_map rfl nofun hkept
  | advanced => exact snapshot_eq_some_of_map rfl nofun a.snapshot_advanced
  | invalidated =>
      constructor
      · exact nofun
      · rintro (hnone | ⟨-, hvalid, -⟩)
        · cases hnone
        · exact absurd rfl hvalid

theorem advances_append (ds es : List Deed) : advances (ds ++ es) = advances ds + advances es :=
  List.countP_append

theorem derived_snoc {ds : List Deed} {d : Deed} :
    Derived (ds ++ [d]) info ↔ d.answer? = some info ∨
      (d.answer? = none ∧ d.operation ≠ .invalidate ∧
        ∃ before, Derived ds before ∧ info = before.advanced (advances [d])) := by
  constructor
  · rintro ⟨older, query, newer, answer, hds, hquery, hnewer, rfl⟩
    rcases newer.eq_nil_or_concat with rfl | ⟨newer, last, rfl⟩
    · obtain ⟨rfl, hlast⟩ := List.append_inj' hds rfl
      cases hlast
      exact .inl (hquery.trans (congrArg some answer.advanced_zero.symm))
    · rw [List.concat_eq_append] at hds hnewer ⊢
      rw [← List.cons_append, ← List.append_assoc] at hds
      obtain ⟨rfl, hlast⟩ := List.append_inj' hds rfl
      cases hlast
      obtain ⟨hnone, hvalid⟩ := hnewer d (by simp)
      refine .inr ⟨hnone, hvalid, _, ⟨older, query, newer, answer, rfl, hquery, ?_, rfl⟩, ?_⟩
      · exact fun e he => hnewer e (List.mem_append_left _ he)
      · rw [AccountInfo.advanced_advanced, advances_append]
  · rintro (hanswer | ⟨hnone, hvalid, before, hbefore, rfl⟩)
    · exact ⟨ds, d, [], info, rfl, hanswer, by simp, info.advanced_zero.symm⟩
    · obtain ⟨older, query, newer, answer, rfl, hquery, hnewer, rfl⟩ := hbefore
      refine ⟨older, query, newer ++ [d], answer, by simp, hquery, ?_, ?_⟩
      · exact List.forall_mem_append.2 ⟨hnewer, List.forall_mem_singleton.2 ⟨hnone, hvalid⟩⟩
      · rw [AccountInfo.advanced_advanced, advances_append]

theorem Session.run_snoc (node : Node σ) (u : Session σ) (ops : List Operation) (op : Operation) :
    u.run node (ops ++ [op]) = (u.run node ops).step node op :=
  List.foldl_append

/-- What the account will sign with is what has been done makes it. -/
theorem Session.snapshot_eq_some (node : Node σ) (s : σ) (m : Metrics) (ops : List Operation) :
    ((start s m).run node ops).account.snapshot = some info ↔
      Derived ((start s m).run node ops).deeds info := by
  induction ops using List.reverseRecOn generalizing info with
  | nil =>
      constructor
      · exact nofun
      · rintro ⟨older, query, newer, answer, hds, -⟩
        simp [start, run] at hds
  | append_singleton ops op ih =>
      obtain ⟨d, hdeeds, -, hdone⟩ := ((start s m).run node ops).step_done node op
      rw [run_snoc, hdeeds, hdone.snapshot_eq_some, derived_snoc]
      simp only [ih]

theorem Session.operations_eq (node : Node σ) (u : Session σ) (ops : List Operation) :
    (u.run node ops).deeds.map Deed.operation = u.deeds.map Deed.operation ++ ops := by
  induction ops using List.reverseRecOn with
  | nil => exact (List.append_nil _).symm
  | append_singleton ops op ih =>
      obtain ⟨d, hdeeds, hop, -⟩ := (u.run node ops).step_done node op
      rw [run_snoc, hdeeds, List.map_append, ih, List.map_singleton, hop, List.append_assoc]

theorem Session.snapshot_ne_none (node : Node σ) (s : σ) (m : Metrics) (ops : List Operation) :
    ((start s m).run node ops).account.snapshot ≠ none ↔
      ∃ (older : List Deed) (query : Deed) (newer : List Deed),
        ((start s m).run node ops).deeds = older ++ query :: newer ∧ query.answer? ≠ none ∧
          ∀ d ∈ newer, d.answer? = none ∧ d.operation ≠ .invalidate := by
  rw [Option.ne_none_iff_exists']
  simp only [snapshot_eq_some]
  constructor
  · rintro ⟨info, older, query, newer, answer, hdeeds, hquery, hnewer, -⟩
    exact ⟨older, query, newer, hdeeds, Option.ne_none_iff_exists'.2 ⟨answer, hquery⟩, hnewer⟩
  · rintro ⟨older, query, newer, hdeeds, hquery, hnewer⟩
    obtain ⟨answer, hanswer⟩ := Option.ne_none_iff_exists'.1 hquery
    exact ⟨_, older, query, newer, answer, hdeeds, hanswer, hnewer, rfl⟩

/-- How an account is made fresh: by a query if it is stale and only then, with a reply that tells what
it will sign with from now on. Without an account in the reply nothing has changed. -/
theorem Done.freshened {d : Deed} {address : String} (h : Done a d b)
    (hop : d.operation = .ensureFresh address) :
    d.exchanges.map Exchange.call = (if a.snapshot.isSome then [] else [.account address]) ∧
      (∀ info, d.reply = some (.ok info) ↔ b.snapshot = some info) ∧
      (∀ e, d.reply = some (.error e) →
        d.exchanges = [⟨.account address, some (.error e)⟩] ∧ b = a) ∧
      (d.reply = none → d.exchanges = [⟨.account address, none⟩] ∧ b = a) := by
  cases h with
  | ensured hfetch =>
      cases hop
      cases hfetch with
      | cached answer hknown =>
          refine ⟨by rw [hknown]; rfl, fun info => ?_, nofun, nofun⟩
          rw [hknown, Option.some.injEq, Except.ok.injEq, Option.some.injEq]
      | failed e hstale =>
          refine ⟨by rw [hstale]; rfl, fun info => ?_, fun e' he => ?_, nofun⟩
          · rw [hstale]
            exact ⟨nofun, nofun⟩
          · cases he
            exact ⟨rfl, rfl⟩
      | queried answer hstale =>
          refine ⟨by rw [hstale]; rfl, fun info => ?_, nofun, nofun⟩
          change some (Except.ok answer) = some (Except.ok info) ↔ some answer = some info
          rw [Option.some.injEq, Except.ok.injEq, Option.some.injEq]
  | left hstale =>
      cases hop
      refine ⟨by rw [hstale]; rfl, fun info => ?_, nofun, fun _ => ⟨rfl, rfl⟩⟩
      rw [hstale]
      exact ⟨nofun, nofun⟩
  | advanced => cases hop
  | invalidated => cases hop

/-- After any operations in any order, at any node, the account will sign with what its history makes of
it: with the answer of the last successful query and the admissions since, and with nothing if there is
no such query or it was invalidated after it. To make it fresh the account is queried exactly if there
is nothing to sign with, and the reply tells what there is then. A failed query changes no field. -/
theorem snapshot_follows_history (node : Node σ) (s : σ) (m : Metrics) (ops : List Operation) :
    let u := (Session.start s m).run node ops
    u.deeds.map Deed.operation = ops ∧
    (∀ info, u.account.snapshot = some info ↔ Derived u.deeds info) ∧
    (u.account.snapshot ≠ none ↔ ∃ (older : List Deed) (query : Deed) (newer : List Deed),
      u.deeds = older ++ query :: newer ∧ query.answer? ≠ none ∧
        ∀ d ∈ newer, d.answer? = none ∧ d.operation ≠ .invalidate) ∧
    ∀ address, let v := u.step node (.ensureFresh address)
      ∃ d : Deed, v.deeds = u.deeds ++ [d] ∧ d.operation = .ensureFresh address ∧
        d.exchanges.map Exchange.call =
          (if u.account.snapshot.isSome then [] else [.account address]) ∧
        (∀ info, d.reply = some (.ok info) ↔ v.account.snapshot = some info) ∧
        (∀ e, d.reply = some (.error e) →
          d.exchanges = [⟨.account address, some (.error e)⟩] ∧ v.account = u.account) ∧
        (d.reply = none → d.exchanges = [⟨.account address, none⟩] ∧ v.account = u.account) := by
  intro u
  refine ⟨Session.operations_eq node (.start s m) ops, fun info => ?_, ?_, fun address => ?_⟩
  · exact Session.snapshot_eq_some node s m ops
  · exact Session.snapshot_ne_none node s m ops
  · obtain ⟨d, hdeeds, hop, hdone⟩ := u.step_done node (.ensureFresh address)
    exact ⟨d, hdeeds, hop, hdone.freshened hop⟩

end

end AccountState

end GasSponsor
