import Mathlib.Data.List.Induction
import GasSponsor.Proofs.Relay.Request

/-!
# What the answers say about the account

The account is known from a successful query on, moves by one with every response that admits an
envelope, and is unknown again after a response that does not agree with the sequence. A worker
keeps exactly this account: it queries the account when it is unknown and only then, and everything
it broadcasts is signed for the account that is known.
-/

namespace GasSponsor

namespace Exchange

def info? : Exchange → Option AccountInfo
  | ⟨.account _, some (.ok info)⟩ => some info
  | _ => none

def outcome? : Exchange → Option BroadcastOutcome
  | ⟨.broadcast _, some (.ok r)⟩ => some r.outcome
  | _ => none

def admits (x : Exchange) : Bool :=
  decide (x.outcome? = some .accepted ∨ x.outcome? = some .duplicatePending)

def mismatches (x : Exchange) : Bool := decide (x.outcome? = some .sequenceMismatch)

end Exchange

def admissions (xs : List Exchange) : Nat := xs.countP Exchange.admits

def AccountInfo.advanced (info : AccountInfo) (k : Nat) : AccountInfo :=
  { info with sequence := info.sequence + UInt64.ofNat k }

theorem AccountInfo.advanced_zero (info : AccountInfo) : info.advanced 0 = info := by
  simp [advanced]

theorem AccountInfo.advanced_advanced (info : AccountInfo) (j k : Nat) :
    (info.advanced j).advanced k = info.advanced (j + k) := by
  simp [advanced, UInt64.ofNat_add, UInt64.add_assoc]

theorem AccountInfo.toNat_advanced {info : AccountInfo} {k : Nat}
    (h : info.sequence.toNat + k < UInt64.size) :
    (info.advanced k).sequence.toNat = info.sequence.toNat + k := by
  have hk : (UInt64.ofNat k).toNat = k := UInt64.toNat_ofNat_of_lt' (by omega)
  simp only [advanced, UInt64.toNat_add, hk]
  exact Nat.mod_eq_of_lt h

namespace Relay

def knownNext (known : Option AccountInfo) (x : Exchange) : Option AccountInfo :=
  match x.info? with
  | some info => some info
  | none =>
    if x.mismatches then none
    else if x.admits then known.map (·.advanced 1)
    else known

def knownAfter (known : Option AccountInfo) (xs : List Exchange) : Option AccountInfo :=
  xs.foldl knownNext known

theorem knownAfter_append (known : Option AccountInfo) (xs ys : List Exchange) :
    knownAfter known (xs ++ ys) = knownAfter (knownAfter known xs) ys :=
  List.foldl_append

theorem knownAfter_snoc (known : Option AccountInfo) (xs : List Exchange) (x : Exchange) :
    knownAfter known (xs ++ [x]) = knownNext (knownAfter known xs) x :=
  List.foldl_append

theorem admissions_append (xs ys : List Exchange) :
    admissions (xs ++ ys) = admissions xs + admissions ys :=
  List.countP_append

theorem knownNext_eq_some {known : Option AccountInfo} {x : Exchange} {info : AccountInfo}
    (h : knownNext known x = some info) :
    x.info? = some info ∨ (x.info? = none ∧ x.mismatches = false ∧
      ∃ before, known = some before ∧ info = before.advanced (admissions [x])) := by
  unfold knownNext at h
  cases hinfo : x.info? with
  | some answer =>
      simp only [hinfo] at h
      exact .inl h
  | none =>
      simp only [hinfo] at h
      split_ifs at h with hm ha
      · obtain ⟨before, rfl, rfl⟩ := Option.map_eq_some_iff.1 h
        refine .inr ⟨rfl, Bool.eq_false_iff.2 hm, before, rfl, ?_⟩
        rw [admissions, List.countP_singleton, if_pos ha]
      · refine .inr ⟨rfl, Bool.eq_false_iff.2 hm, info, h, ?_⟩
        rw [admissions, List.countP_singleton, if_neg ha, info.advanced_zero]

/-- The known account goes back to the latest successful query. -/
theorem exists_query_of_known {xs : List Exchange} {known : AccountInfo}
    (h : knownAfter none xs = some known) :
    ∃ older query newer info, xs = older ++ query :: newer ∧ query.info? = some info ∧
      (∀ x ∈ newer, x.info? = none ∧ x.mismatches = false) ∧
      known = info.advanced (admissions newer) := by
  induction xs using List.reverseRecOn generalizing known with
  | nil => cases h
  | append_singleton xs x ih =>
      rw [knownAfter_snoc] at h
      rcases knownNext_eq_some h with hinfo | ⟨hinfo, hm, before, hbefore, rfl⟩
      · exact ⟨xs, x, [], known, rfl, hinfo, by simp, known.advanced_zero.symm⟩
      · obtain ⟨older, query, newer, info, rfl, hquery, hnewer, rfl⟩ := ih hbefore
        refine ⟨older, query, newer ++ [x], info, by simp, hquery, ?_, ?_⟩
        · intro y hy
          rcases List.mem_append.1 hy with hy | hy
          · exact hnewer y hy
          · rw [List.mem_singleton.1 hy]
            exact ⟨hinfo, hm⟩
        · rw [AccountInfo.advanced_advanced, admissions_append]

def Allowed (w : Worker) (known : Option AccountInfo) (c : Call) : Prop :=
  match known, c with
  | none, c => c = .account w.builder.identity.bech32
  | some _, .account _ => False
  | some info, .broadcast tx => SignedFor w.builder tx info
  | some _, _ => True

/-- Every call is allowed with the account that is known when it is made. -/
def Lawful (w : Worker) : Option AccountInfo → List Exchange → Prop
  | _, [] => True
  | known, x :: xs => Allowed w known x.call ∧ Lawful w (knownNext known x) xs

theorem lawful_append {w : Worker} {known : Option AccountInfo} {xs ys : List Exchange} :
    Lawful w known (xs ++ ys) ↔ Lawful w known xs ∧ Lawful w (knownAfter known xs) ys := by
  induction xs generalizing known with
  | nil => simp [Lawful, knownAfter]
  | cons x xs ih =>
      rw [List.cons_append, Lawful, ih, Lawful, and_assoc]
      rfl

theorem lawful_snoc {w : Worker} {known : Option AccountInfo} {xs : List Exchange} {x : Exchange} :
    Lawful w known (xs ++ [x]) ↔ Lawful w known xs ∧ Allowed w (knownAfter known xs) x.call := by
  rw [lawful_append, Lawful, Lawful, and_true]

theorem Lawful.allowed {w : Worker} {known : Option AccountInfo} {pre post : List Exchange}
    {x : Exchange} (h : Lawful w known (pre ++ x :: post)) :
    Allowed w (knownAfter known pre) x.call :=
  (lawful_append.1 h).2.1

theorem Lawful.left {w : Worker} {known : Option AccountInfo} {xs ys : List Exchange}
    (h : Lawful w known (xs ++ ys)) : Lawful w known xs :=
  (lawful_append.1 h).1

section

variable {w : Worker} {a b : AccountState} {m : Ethereum.Message} {denom : String}
  {xs : List Exchange}

theorem fetched_lawful {reply : Except RelayError AccountInfo}
    (h : Fetched w.builder.identity.bech32 a xs b reply) :
    Lawful w a.snapshot xs ∧ knownAfter a.snapshot xs = b.snapshot := by
  cases h with
  | cached info h => exact ⟨trivial, rfl⟩
  | failed e h =>
      rw [h]
      exact ⟨⟨rfl, trivial⟩, rfl⟩
  | queried info h =>
      rw [h]
      exact ⟨⟨rfl, trivial⟩, rfl⟩

theorem snapshot_of_fetched {info : AccountInfo} {address : String}
    (h : Fetched address a xs b (.ok info)) : b.snapshot = some info := by
  cases h with
  | cached _ h => exact h
  | queried _ _ => rfl

theorem quoted_lawful {e : FeeEstimator} {gas : UInt64} {reply : Except RelayError FeeQuote}
    (info : AccountInfo) (h : Quoted e gas denom xs reply) :
    Lawful w (some info) xs ∧ knownAfter (some info) xs = some info := by
  cases h <;> exact ⟨by simp [Lawful, Allowed, knownNext, Exchange.info?, Exchange.mismatches,
    Exchange.admits, Exchange.outcome?], rfl⟩

theorem settled_known {info : AccountInfo} (tx : Bytes) (r : BroadcastResponse)
    (h : a.snapshot = some info) :
    knownNext (some info) ⟨.broadcast tx, some (.ok r)⟩ = (settledAccount a r).snapshot := by
  have hstale : a.stale = false := by
    cases hs : a.stale with
    | false => rfl
    | true => simp [AccountState.snapshot, hs] at h
  have hinfo : info = ⟨a.accountNumber, a.sequence⟩ := by
    simpa [AccountState.snapshot, hstale] using h.symm
  subst hinfo
  unfold settledAccount
  cases hr : r.outcome <;>
    simp [knownNext, Exchange.info?, Exchange.mismatches, Exchange.admits, Exchange.outcome?, hr,
      AccountState.snapshot, hstale, AccountInfo.advanced, AccountState.invalidate]

theorem quoted_account {ys : List Exchange} {info : AccountInfo}
    {reply : Except RelayError FeeQuote}
    (hfetch : Fetched w.builder.identity.bech32 a xs b (.ok info))
    (hquote : Quoted w.estimator m.gasLimit denom ys reply) :
    Lawful w a.snapshot (xs ++ ys) ∧ knownAfter a.snapshot (xs ++ ys) = some info := by
  obtain ⟨hlaw, hknown⟩ := fetched_lawful hfetch
  rw [snapshot_of_fetched hfetch] at hknown
  obtain ⟨hlaw', hknown'⟩ := quoted_lawful (w := w) info hquote
  rw [lawful_append, knownAfter_append, hknown]
  exact ⟨⟨hlaw, hlaw'⟩, hknown'⟩

/-- The calls of a request are lawful, and the worker ends with the account that they make known. -/
theorem Relayed.lawful {result : RelayResult} (h : Relayed w a m denom xs b result) :
    Lawful w a.snapshot xs ∧ knownAfter a.snapshot xs = b.snapshot := by
  cases h with
  | unfetched hfetch => exact fetched_lawful hfetch
  | unquoted hfetch hquote =>
      rw [snapshot_of_fetched hfetch]
      exact quoted_account hfetch hquote
  | unbuilt hfetch hquote hbuild =>
      rw [snapshot_of_fetched hfetch]
      exact quoted_account hfetch hquote
  | unsent e hfetch hquote hbuild =>
      obtain ⟨hlaw, hknown⟩ := quoted_account hfetch hquote
      rw [lawful_snoc, knownAfter_snoc, hknown, snapshot_of_fetched hfetch]
      exact ⟨⟨hlaw, EnvelopeBuilder.signedFor_of_build hbuild⟩, rfl⟩
  | answered r hfetch hquote hbuild =>
      obtain ⟨hlaw, hknown⟩ := quoted_account hfetch hquote
      rw [lawful_snoc, knownAfter_snoc, hknown]
      exact ⟨⟨hlaw, EnvelopeBuilder.signedFor_of_build hbuild⟩,
        settled_known _ r (snapshot_of_fetched hfetch)⟩

end

end Relay

end GasSponsor
