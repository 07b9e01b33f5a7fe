import GasSponsor.Api.Response
import GasSponsor.Proofs.Bytes.Hex

/-!
# What a response says

A response names a hash when its body holds nothing but the lower-case digits of the hash behind `0x`.
It explains an error when it has the status of the error's class, and its body holds the text of the
error, whether another attempt may help, and the code and codespace of the node just when the error is
a verdict of the node.
-/

namespace GasSponsor

namespace Hex

theorem mem_digits {bs : Bytes} {c : Char} (h : c ∈ digits bs) : c ∈ "0123456789abcdef".toList := by
  have hdigit : ∀ n < 16, digit n ∈ "0123456789abcdef".toList := by decide
  obtain ⟨b, _, hc⟩ := List.mem_flatMap.1 h
  have hb := b.toNat_lt
  rcases List.mem_cons.1 hc with rfl | hc
  · exact hdigit _ (by omega)
  · rw [List.mem_singleton.1 hc]
    exact hdigit _ (by omega)

end Hex

namespace Api

inductive HasStatus : RelayError → Nat → Prop
  | build (cause : BuildError) : HasStatus (.build cause) 400
  | sequenceMismatch (code : UInt32) (codespace log : String) :
      HasStatus (.sequenceMismatch code codespace log) 409
  | rejected (code : UInt32) (codespace log : String) : HasStatus (.rejected code codespace log) 422
  | config (text : String) : HasStatus (.config text) 500
  | query (name text : String) : HasStatus (.query name text) 502
  | transport (text : String) : HasStatus (.transport text) 502
  | workerUnavailable : HasStatus .workerUnavailable 503

inductive IsVerdict : RelayError → UInt32 → String → Prop
  | sequenceMismatch (code : UInt32) (codespace log : String) :
      IsVerdict (.sequenceMismatch code codespace log) code codespace
  | rejected (code : UInt32) (codespace log : String) :
      IsVerdict (.rejected code codespace log) code codespace

theorem nodeCode?_eq_some {e : RelayError} {code : UInt32} {codespace : String} :
    e.nodeCode? = some (code, codespace) ↔ IsVerdict e code codespace := by
  constructor
  · intro h
    cases e with
    | sequenceMismatch _ _ log =>
        cases h
        exact .sequenceMismatch code codespace log
    | rejected _ _ log =>
        cases h
        exact .rejected code codespace log
    | config _ | query _ _ | build _ | transport _ | workerUnavailable => cases h
  · rintro (⟨_, _, _⟩ | ⟨_, _, _⟩) <;> rfl

structure Explains (response : Response) (e : RelayError) : Prop where
  status : HasStatus e response.status
  body : ∃ members, response.body.json? = some (.object members) ∧
    members.lookup "error" = some (.string e.message) ∧
    members.lookup "retryable" = some (.bool e.isRetryable) ∧
    (∀ v, members.lookup "code" = some v ↔
      ∃ code codespace, IsVerdict e code codespace ∧ v = .ofNat code.toNat) ∧
    ∀ v, members.lookup "codespace" = some v ↔
      ∃ code codespace, IsVerdict e code codespace ∧ v = .string codespace

structure Names (response : Response) (hash : Digest) : Prop where
  status : response.status = 200
  body : ∃ digits, response.body.json? =
      some (.object [("hash", .string ("0x" ++ String.ofList digits))]) ∧
    (∀ c ∈ digits, c ∈ "0123456789abcdef".toList) ∧ Hex.Spells digits hash.bytes

theorem hasStatus (e : RelayError) : HasStatus e (Failure.relay e).status := by
  cases e <;> constructor

theorem explains_failure (e : RelayError) : Explains (.failure (.relay e)) e := by
  refine ⟨hasStatus e, ?_⟩
  cases hcode : e.nodeCode? with
  | none =>
      have hnone : ∀ code codespace, ¬ IsVerdict e code codespace := fun code codespace hverdict => by
        rw [nodeCode?_eq_some.2 hverdict] at hcode
        cases hcode
      refine ⟨[("error", .string e.message), ("retryable", .bool e.isRetryable)], ?_, rfl, rfl,
        fun v => ?_, fun v => ?_⟩
      · simp [Response.failure, Body.json?, Failure.nodeCode?, hcode, Failure.message,
          Failure.isRetryable]
      · change none = some v ↔ _
        simp [hnone]
      · change none = some v ↔ _
        simp [hnone]
  | some verdict =>
      obtain ⟨code, codespace⟩ := verdict
      have hverdict : ∀ code' codespace', IsVerdict e code' codespace' ↔
          code = code' ∧ codespace = codespace' := fun code' codespace' => by
        rw [← nodeCode?_eq_some, hcode, Option.some.injEq, Prod.mk.injEq]
      refine ⟨[("error", .string e.message), ("code", .ofNat code.toNat),
        ("codespace", .string codespace), ("retryable", .bool e.isRetryable)], ?_, rfl, rfl,
        fun v => ?_, fun v => ?_⟩
      · simp [Response.failure, Body.json?, Failure.nodeCode?, hcode, Failure.message,
          Failure.isRetryable]
      · change some (.ofNat code.toNat) = some v ↔ _
        simp [hverdict, eq_comm]
      · change some (.string codespace) = some v ↔ _
        simp [hverdict, and_assoc, eq_comm]

theorem names_relayed (hash : Digest) : Names ⟨200, .relayed hash⟩ hash :=
  ⟨rfl, Hex.digits hash.bytes, rfl, fun _ => Hex.mem_digits, Hex.spells_digits hash.bytes⟩

/-- A response names one hash. -/
theorem Names.unique {response : Response} {hash other : Digest} (h : Names response hash)
    (h' : Names response other) : hash = other := by
  obtain ⟨digits, hbody, -, hspells⟩ := h.body
  obtain ⟨digits', hbody', -, hspells'⟩ := h'.body
  rw [hbody] at hbody'
  injection hbody' with hobject
  injection hobject with hmembers
  injection hmembers with hmember
  injection hmember with _ hstring
  injection hstring with htext
  have hread := hspells'.decode
  rw [← htext, hspells.decode] at hread
  exact FixedBytes.ext (Except.ok.inj hread)

end Api

end GasSponsor
