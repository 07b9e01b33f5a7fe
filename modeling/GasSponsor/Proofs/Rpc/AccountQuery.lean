import GasSponsor.Proofs.Bytes.Base64
import GasSponsor.Proofs.Ledger
import GasSponsor.Proofs.Rpc.Verdict
import GasSponsor.Proofs.Wire.Parts

/-!
# The account behind a reply

A query for an account is answered with the number and the sequence of a base account that was really
decoded, plain or in its wrapper, and with nothing else. Whatever is wrong with a result, at any of
the three decodings, makes the reply a query error under the name of the query.
-/

namespace GasSponsor.Rpc

open Ledger

def FailsAs {α : Type} (name : String) (x : Except RelayError α) : Prop :=
  ∀ e, x = .error e → ∃ text, e = .query name text

namespace FailsAs

variable {α β : Type} {name : String}

theorem ok (a : α) : FailsAs name (.ok a) := fun _ h => nomatch h

theorem query (text : String) : FailsAs name (.error (.query name text) : Except RelayError α) :=
  fun _ h => ⟨text, (Except.error.inj h).symm⟩

theorem bind {x : Except RelayError α} {f : α → Except RelayError β} (hx : FailsAs name x)
    (hf : ∀ a, FailsAs name (f a)) : FailsAs name (x >>= f) := by
  cases x with
  | error e =>
      intro e' h
      cases h
      exact hx e rfl
  | ok a => exact hf a

theorem mapError {ε : Type} (x : Except ε α) (text : ε → String) :
    FailsAs name (x.mapError fun e => .query name (text e)) := by
  cases x with
  | error e => exact query (text e)
  | ok a => exact ok a

end FailsAs

theorem bind_eq_ok {α β : Type} {x : Except RelayError α} {f : α → Except RelayError β} {b : β} :
    x >>= f = .ok b ↔ ∃ a, x = .ok a ∧ f a = .ok b := by
  cases x with
  | error e => simp [bind, Except.bind]
  | ok a => simp [bind, Except.bind]

theorem mapError_eq_ok {α ε ε' : Type} {x : Except ε α} {f : ε → ε'} {a : α} :
    x.mapError f = .ok a ↔ x = .ok a := by
  cases x with
  | error e =>
      constructor
      · intro h
        cases h
      · intro h
        cases h
  | ok b =>
      constructor
      · intro h
        cases h
        rfl
      · intro h
        cases h
        rfl

namespace QueryResult

variable {α : Type} [Wire.Message α] {name : String} {r : QueryResult}

def bytes (r : QueryResult) : Except Base64.Error Bytes :=
  match r.value with
  | none => .ok []
  | some text => Base64.decode (Bytes.ofText text)

theorem response_of_code_ne_zero (h : r.code ≠ 0) : (r.response name : Except RelayError α) =
    .error (.query name (r.codespace ++ "/" ++ Decimal.encode r.code.toNat ++ ": " ++ r.log)) := by
  rw [response, if_pos h]
  rfl

/-- A result without a code is read in two steps. -/
theorem response_of_code_eq_zero (h : r.code = 0) : (r.response name : Except RelayError α) =
    (r.bytes.mapError fun e => RelayError.query name ("invalid base64 response: " ++ e.message)) >>=
      fun bs => (Wire.decode bs).mapError fun e =>
        RelayError.query name ("invalid protobuf response: " ++ e.message) := by
  rw [response, if_neg (not_not_intro h), bytes]
  have hread (bs : Bytes) :
      (Except.ok bs >>= fun bs => (Wire.decode bs : Wire.Result α).mapError fun e =>
        RelayError.query name ("invalid protobuf response: " ++ e.message)) =
      (Wire.decode bs : Wire.Result α).mapError fun e =>
        RelayError.query name ("invalid protobuf response: " ++ e.message) := rfl
  cases r.value with
  | none =>
      simp only [pure_bind]
      refine Eq.trans ?_ (hread []).symm
      cases (Wire.decode [] : Wire.Result α) <;> rfl
  | some text =>
      dsimp only
      cases Base64.decode (Bytes.ofText text) with
      | error e => rfl
      | ok bs =>
          simp only [pure_bind]
          refine Eq.trans ?_ (hread bs).symm
          cases (Wire.decode bs : Wire.Result α) <;> rfl

theorem response_failsAs (name : String) (r : QueryResult) :
    FailsAs name (r.response name : Except RelayError α) := by
  by_cases h : r.code = 0
  · rw [response_of_code_eq_zero h]
    exact (FailsAs.mapError _ _).bind fun bs => FailsAs.mapError _ _
  · rw [response_of_code_ne_zero h]
    exact FailsAs.query _

theorem response_eq_ok {m : α} : r.response name = .ok m ↔
    r.code = 0 ∧ ∃ bs, r.bytes = .ok bs ∧ Wire.decode bs = .ok m := by
  by_cases h : r.code = 0
  · rw [response_of_code_eq_zero h, bind_eq_ok]
    simp only [mapError_eq_ok, h, true_and]
  · rw [response_of_code_ne_zero h]
    exact iff_of_false nofun fun hok => h hok.1

end QueryResult

/-- A base account is what the bytes of an account say, or what its wrapper holds. -/
inductive IsAccount (base : BaseAccount) (account : Any) : Prop
  | plain (htype : account.typeUrl = BaseAccount.typeUrl)
      (hread : Wire.decode account.value = .ok base)
  | wrapped {codeHash : String} (htype : account.typeUrl = EthAccount.typeUrl)
      (hread : Wire.decode account.value = .ok (⟨some base, codeHash⟩ : EthAccount))

theorem typeUrl_ne : EthAccount.typeUrl ≠ BaseAccount.typeUrl := by decide

def undecodable (url : String) (e : Wire.DecodeError) : RelayError :=
  .query "account" ("invalid " ++ url ++ ": " ++ e.message)

theorem accountInfo_plain (value : Bytes) : accountInfo ⟨BaseAccount.typeUrl, value⟩ =
    (Wire.decode value).mapError (undecodable BaseAccount.typeUrl) >>= fun base : BaseAccount =>
      .ok ⟨base.accountNumber, base.sequence⟩ := by
  rw [accountInfo]
  dsimp only
  rw [if_pos rfl]
  rfl

theorem accountInfo_wrapped (value : Bytes) : accountInfo ⟨EthAccount.typeUrl, value⟩ =
    (Wire.decode value).mapError (undecodable EthAccount.typeUrl) >>= fun account : EthAccount =>
      match account.baseAccount with
      | some base => .ok ⟨base.accountNumber, base.sequence⟩
      | none => .error (.query "account" "EthAccount without base account") := by
  rw [accountInfo]
  dsimp only
  rw [if_neg typeUrl_ne, if_pos rfl]
  cases (Wire.decode value : Wire.Result EthAccount) with
  | error e => rfl
  | ok account =>
      obtain ⟨base, codeHash⟩ := account
      cases base <;> rfl

theorem accountInfo_other {url : String} (hplain : url ≠ BaseAccount.typeUrl)
    (hwrapped : url ≠ EthAccount.typeUrl) (value : Bytes) :
    accountInfo ⟨url, value⟩ = .error (.query "account" ("unsupported account type " ++ url)) := by
  rw [accountInfo]
  dsimp only
  rw [if_neg hplain, if_neg hwrapped]
  rfl

theorem accountInfo_failsAs (account : Any) : FailsAs "account" (accountInfo account) := by
  obtain ⟨url, value⟩ := account
  by_cases hplain : url = BaseAccount.typeUrl
  · subst hplain
    rw [accountInfo_plain]
    exact (FailsAs.mapError _ _).bind fun base => FailsAs.ok _
  · by_cases hwrapped : url = EthAccount.typeUrl
    · subst hwrapped
      rw [accountInfo_wrapped]
      refine (FailsAs.mapError _ _).bind fun account => ?_
      cases account.baseAccount with
      | some base => exact FailsAs.ok _
      | none => exact FailsAs.query _
    · rw [accountInfo_other hplain hwrapped]
      exact FailsAs.query _

theorem accountInfo_eq_ok {account : Any} {info : AccountInfo} : accountInfo account = .ok info ↔
    ∃ base, IsAccount base account ∧ info = ⟨base.accountNumber, base.sequence⟩ := by
  obtain ⟨url, value⟩ := account
  constructor
  · intro h
    by_cases hplain : url = BaseAccount.typeUrl
    · subst hplain
      rw [accountInfo_plain, bind_eq_ok] at h
      obtain ⟨base, hread, hinfo⟩ := h
      exact ⟨base, .plain rfl (mapError_eq_ok.1 hread), (Except.ok.inj hinfo).symm⟩
    · by_cases hwrapped : url = EthAccount.typeUrl
      · subst hwrapped
        rw [accountInfo_wrapped, bind_eq_ok] at h
        obtain ⟨⟨base?, codeHash⟩, hread, hinfo⟩ := h
        cases base? with
        | some base =>
            exact ⟨base, .wrapped rfl (mapError_eq_ok.1 hread), (Except.ok.inj hinfo).symm⟩
        | none => cases hinfo
      · rw [accountInfo_other hplain hwrapped] at h
        cases h
  · rintro ⟨base, hbase, rfl⟩
    cases hbase with
    | plain htype hread =>
        obtain rfl : url = BaseAccount.typeUrl := htype
        rw [accountInfo_plain]
        exact bind_eq_ok.2 ⟨base, mapError_eq_ok.2 hread, rfl⟩
    | wrapped htype hread =>
        obtain rfl : url = EthAccount.typeUrl := htype
        rw [accountInfo_wrapped]
        exact bind_eq_ok.2 ⟨_, mapError_eq_ok.2 hread, rfl⟩

/-- What a result says about an account, whatever its code. -/
def Says (r : QueryResult) (account : Option Any) : Prop :=
  ∃ bs, r.bytes = .ok bs ∧ Wire.decode bs = .ok (⟨account⟩ : QueryAccountResponse)

theorem Says.unique {r : QueryResult} {x y : Option Any} (hx : Says r x) (hy : Says r y) : x = y := by
  obtain ⟨bs, hbytes, hread⟩ := hx
  obtain ⟨bs', hbytes', hread'⟩ := hy
  obtain rfl : bs = bs' := Except.ok.inj (hbytes.symm.trans hbytes')
  cases hread.symm.trans hread'
  rfl

def Found (base : BaseAccount) (r : QueryResult) : Prop :=
  r.code = 0 ∧ ∃ account, Says r (some account) ∧ IsAccount base account

inductive Unfit (r : QueryResult) : Prop
  | refused (hcode : r.code ≠ 0)
  | malformedText {e : Base64.Error} (hbytes : r.bytes = .error e)
  | malformedResponse {bs : Bytes} {e : Wire.DecodeError} (hbytes : r.bytes = .ok bs)
      (hread : (Wire.decode bs : Wire.Result QueryAccountResponse) = .error e)
  | absent (hsaid : Says r none)
  | otherType {account : Any} (hsaid : Says r (some account))
      (hplain : account.typeUrl ≠ BaseAccount.typeUrl)
      (hwrapped : account.typeUrl ≠ EthAccount.typeUrl)
  | malformedAccount {account : Any} {e : Wire.DecodeError} (hsaid : Says r (some account))
      (htype : account.typeUrl = BaseAccount.typeUrl)
      (hread : (Wire.decode account.value : Wire.Result BaseAccount) = .error e)
  | malformedWrapper {account : Any} {e : Wire.DecodeError} (hsaid : Says r (some account))
      (htype : account.typeUrl = EthAccount.typeUrl)
      (hread : (Wire.decode account.value : Wire.Result EthAccount) = .error e)
  | emptyWrapper {account : Any} {codeHash : String} (hsaid : Says r (some account))
      (htype : account.typeUrl = EthAccount.typeUrl)
      (hread : Wire.decode account.value = .ok (⟨none, codeHash⟩ : EthAccount))

/-- An account is missing or cannot be read, exactly if no base account stands behind it. -/
theorem not_isAccount_cases {account : Any} (h : ∀ base, ¬ IsAccount base account) :
    (account.typeUrl ≠ BaseAccount.typeUrl ∧ account.typeUrl ≠ EthAccount.typeUrl) ∨
    (account.typeUrl = BaseAccount.typeUrl ∧
      ∃ e, (Wire.decode account.value : Wire.Result BaseAccount) = .error e) ∨
    (account.typeUrl = EthAccount.typeUrl ∧
      ((∃ e, (Wire.decode account.value : Wire.Result EthAccount) = .error e) ∨
        ∃ codeHash, Wire.decode account.value = .ok (⟨none, codeHash⟩ : EthAccount))) := by
  by_cases hplain : account.typeUrl = BaseAccount.typeUrl
  · cases hread : (Wire.decode account.value : Wire.Result BaseAccount) with
    | error e => exact .inr (.inl ⟨hplain, e, rfl⟩)
    | ok base => exact absurd (.plain hplain hread) (h base)
  · by_cases hwrapped : account.typeUrl = EthAccount.typeUrl
    · refine .inr (.inr ⟨hwrapped, ?_⟩)
      cases hread : (Wire.decode account.value : Wire.Result EthAccount) with
      | error e => exact .inl ⟨e, rfl⟩
      | ok wrapper =>
          obtain ⟨base?, codeHash⟩ := wrapper
          cases base? with
          | none => exact .inr ⟨codeHash, rfl⟩
          | some base => exact absurd (.wrapped hwrapped hread) (h base)
    · exact .inl ⟨hplain, hwrapped⟩

theorem Unfit.not_found {r : QueryResult} (h : Unfit r) (base : BaseAccount) : ¬ Found base r := by
  rintro ⟨hcode, account, hfound, hbase⟩
  cases h with
  | refused hne => exact hne hcode
  | malformedText hbytes =>
      obtain ⟨bs, hok, -⟩ := hfound
      cases hbytes.symm.trans hok
  | malformedResponse hbytes hread =>
      obtain ⟨bs, hok, hdecode⟩ := hfound
      obtain rfl := Except.ok.inj (hbytes.symm.trans hok)
      cases hread.symm.trans hdecode
  | absent hsaid => cases hsaid.unique hfound
  | otherType hsaid hplain hwrapped =>
      cases hsaid.unique hfound
      cases hbase with
      | plain htype => exact hplain htype
      | wrapped htype => exact hwrapped htype
  | malformedAccount hsaid htype hread =>
      cases hsaid.unique hfound
      cases hbase with
      | plain _ hok => cases hread.symm.trans hok
      | wrapped hother => exact typeUrl_ne (hother.symm.trans htype)
  | malformedWrapper hsaid htype hread =>
      cases hsaid.unique hfound
      cases hbase with
      | plain hother => exact typeUrl_ne (htype.symm.trans hother)
      | wrapped _ hok => cases hread.symm.trans hok
  | emptyWrapper hsaid htype hread =>
      cases hsaid.unique hfound
      cases hbase with
      | plain hother => exact typeUrl_ne (htype.symm.trans hother)
      | wrapped _ hok => cases hread.symm.trans hok

/-- Nothing else can be wrong. -/
theorem unfit_iff {r : QueryResult} : Unfit r ↔ ∀ base, ¬ Found base r := by
  constructor
  · exact Unfit.not_found
  · intro h
    by_cases hcode : r.code = 0
    · cases hbytes : r.bytes with
      | error e => exact .malformedText hbytes
      | ok bs =>
          cases hread : (Wire.decode bs : Wire.Result QueryAccountResponse) with
          | error e => exact .malformedResponse hbytes hread
          | ok response =>
              obtain ⟨account?⟩ := response
              have hsaid : Says r account? := ⟨bs, hbytes, hread⟩
              cases account? with
              | none => exact .absent hsaid
              | some account =>
                  have hnone : ∀ base, ¬ IsAccount base account := fun base hbase =>
                    h base ⟨hcode, account, hsaid, hbase⟩
                  rcases not_isAccount_cases hnone with ⟨hplain, hwrapped⟩ | ⟨htype, e, hread⟩ |
                      ⟨htype, ⟨e, hread⟩ | ⟨codeHash, hread⟩⟩
                  · exact .otherType hsaid hplain hwrapped
                  · exact .malformedAccount hsaid htype hread
                  · exact .malformedWrapper hsaid htype hread
                  · exact .emptyWrapper hsaid htype hread
    · exact .refused hcode

theorem accountReply_failsAs (address : String) (r : QueryResult) :
    FailsAs "account" (accountReply address r) := by
  refine (r.response_failsAs "account").bind fun response => ?_
  cases response.account with
  | some account => exact accountInfo_failsAs account
  | none => exact FailsAs.query _

theorem accountReply_eq_ok {address : String} {r : QueryResult} {info : AccountInfo} :
    accountReply address r = .ok info ↔
      ∃ base, Found base r ∧ info = ⟨base.accountNumber, base.sequence⟩ := by
  rw [accountReply, bind_eq_ok]
  constructor
  · rintro ⟨⟨account?⟩, hresponse, hinfo⟩
    obtain ⟨hcode, hsaid⟩ := QueryResult.response_eq_ok.1 hresponse
    cases account? with
    | some account =>
        obtain ⟨base, hbase, rfl⟩ := accountInfo_eq_ok.1 hinfo
        exact ⟨base, ⟨hcode, account, hsaid, hbase⟩, rfl⟩
    | none => cases hinfo
  · rintro ⟨base, ⟨hcode, account, hsaid, hbase⟩, rfl⟩
    exact ⟨_, QueryResult.response_eq_ok.2 ⟨hcode, hsaid⟩, accountInfo_eq_ok.2 ⟨base, hbase, rfl⟩⟩

inductive Sends (base : BaseAccount) : Any → Prop
  | plain : Sends base (Any.pack BaseAccount.typeUrl base)
  | wrapped (codeHash : String) :
      Sends base (Any.pack EthAccount.typeUrl (⟨some base, codeHash⟩ : EthAccount))

theorem length_value_le (account : Any) :
    account.value.length ≤ (Wire.encode (⟨some account⟩ : QueryAccountResponse)).length := by
  have hmem : account.value ∈ Wire.parts (⟨some account⟩ : QueryAccountResponse) := .head _
  exact Wire.length_le_of_mem_parts hmem

/-- An account that is sent is found, with every content that it was sent with. -/
theorem Sends.found {base : BaseAccount} {account : Any} (h : Sends base account) {r : QueryResult}
    (hcode : r.code = 0)
    (hvalue : r.value =
      some (Base64.encode (Wire.encode (⟨some account⟩ : QueryAccountResponse))))
    (hlen : (Wire.encode (⟨some account⟩ : QueryAccountResponse)).length < UInt64.size) :
    Found base r := by
  have hbytes : r.bytes = .ok (Wire.encode (⟨some account⟩ : QueryAccountResponse)) := by
    rw [QueryResult.bytes, hvalue]
    exact Base64.decode_encode _
  have hsaid : Says r (some account) := ⟨_, hbytes, Wire.decode_encode _ hlen⟩
  have hshort := Nat.lt_of_le_of_lt (length_value_le account) hlen
  refine ⟨hcode, account, hsaid, ?_⟩
  cases h with
  | plain => exact .plain rfl (Wire.decode_encode _ hshort)
  | wrapped codeHash => exact .wrapped rfl (Wire.decode_encode _ hshort)

namespace Connection

variable {ν : Type} (network : Network ν)

def lastRead {α : Type} (result : Json.Reader α) (heard : List Hearing) : Except Failure α :=
  match heard.getLast? with
  | none => .error .noEndpoint
  | some h => Provider.readAnswer result h.answer

theorem exchange_heard {α β : Type} (r : Request) (result : Json.Reader α)
    (read : Except Failure α → Except RelayError β) (c : Connection ν) :
    (exchange network r result read c).1 = read (lastRead result
      (exchange network.recorded r result read ⟨c.provider, (c.network, [])⟩).2.1.network.2) := by
  rcases Nat.eq_zero_or_pos c.provider.count with hcount | hcount
  · rw [exchange, exchange, Provider.request_of_count_eq_zero network r result hcount,
      Provider.request_of_count_eq_zero network.recorded r result hcount]
    rfl
  · obtain ⟨front, final, hrecorded, hread, -⟩ :=
      Provider.request_heard network r result hcount c.network
    have hheard : (c.provider.request network.recorded r result (c.network, [])).network.2 =
        front ++ [final] := congrArg Prod.snd hrecorded.network
    rw [exchange, exchange]
    dsimp only
    rw [hheard, lastRead, List.getLast?_concat, hread]

/-- A reply is read from the result that was heard last, if it is one. -/
theorem exchange_of_last {α β : Type} {r : Request} {result : Json.Reader α}
    {read : Except Failure α → Except RelayError β} {c : Connection ν} {h : Hearing} {a : α}
    (hlast : (exchange network.recorded r result read
      ⟨c.provider, (c.network, [])⟩).2.1.network.2.getLast? = some h)
    (hanswer : Provider.readAnswer result h.answer = .ok a) :
    (exchange network r result read c).1 = read (.ok a) := by
  rw [exchange_heard, lastRead, hlast]
  dsimp only
  rw [hanswer]

/-- The reply to a query for an account is an account exactly if one is found in the result that was
heard last, and then it is that one; every other reply is an error of the query. A result gives such
an error exactly if it is unfit, and every account that is sent, plain or in a wrapper, comes back as
it was. -/
theorem account_reply (c : Connection ν) (address : String) :
    let reply := (answer network c (.account address)).1
    let heard := heard network c (.account address)
    (∀ info, reply = .ok info ↔ ∃ h r base, heard.getLast? = some h ∧
      Provider.readAnswer QueryResult.reader h.answer = .ok r ∧ Found base r ∧
      info = ⟨base.accountNumber, base.sequence⟩) ∧
    (∀ e, reply = .error e → ∃ text, e = .query "account" text) ∧
    ∀ h r, heard.getLast? = some h → Provider.readAnswer QueryResult.reader h.answer = .ok r →
      (Unfit r ↔ ∃ text, reply = .error (.query "account" text)) ∧
      ∀ base account, Sends base account → r.code = 0 →
        r.value = some (Base64.encode (Wire.encode (⟨some account⟩ : QueryAccountResponse))) →
        (Wire.encode (⟨some account⟩ : QueryAccountResponse)).length < UInt64.size →
        reply = .ok ⟨base.accountNumber, base.sequence⟩ := by
  intro reply heard
  have hreply : reply = queryReply "account" (accountReply address)
      (lastRead QueryResult.reader heard) := exchange_heard network _ _ _ c
  have hfails : FailsAs "account" reply := by
    rw [hreply]
    cases lastRead QueryResult.reader heard with
    | error failure => exact FailsAs.query _
    | ok r => exact accountReply_failsAs address r
  have hread : ∀ h r, heard.getLast? = some h →
      Provider.readAnswer QueryResult.reader h.answer = .ok r → reply = accountReply address r :=
    fun h r => exchange_of_last network
  refine ⟨fun info => ⟨fun hok => ?_, ?_⟩, hfails,
    fun h r hlast hanswer => ⟨⟨fun hunfit => ?_, ?_⟩, ?_⟩⟩
  · cases hlast : heard.getLast? with
    | none =>
        rw [hreply, lastRead, hlast] at hok
        cases hok
    | some h =>
        cases hanswer : Provider.readAnswer QueryResult.reader h.answer with
        | error failure =>
            rw [hreply, lastRead, hlast] at hok
            dsimp only at hok
            rw [hanswer] at hok
            cases hok
        | ok r =>
            rw [hread h r hlast hanswer] at hok
            obtain ⟨base, hfound, hinfo⟩ := accountReply_eq_ok.1 hok
            exact ⟨h, r, base, rfl, hanswer, hfound, hinfo⟩
  · rintro ⟨h, r, base, hlast, hanswer, hfound, hinfo⟩
    rw [hread h r hlast hanswer]
    exact accountReply_eq_ok.2 ⟨base, hfound, hinfo⟩
  · cases hresult : reply with
    | error e =>
        obtain ⟨text, rfl⟩ := hfails e hresult
        exact ⟨text, rfl⟩
    | ok info =>
        rw [hread h r hlast hanswer] at hresult
        obtain ⟨base, hfound, -⟩ := accountReply_eq_ok.1 hresult
        exact absurd hfound (hunfit.not_found base)
  · rintro ⟨text, herror⟩
    rw [hread h r hlast hanswer] at herror
    refine unfit_iff.2 fun base hfound => ?_
    cases (accountReply_eq_ok.2 ⟨base, hfound, rfl⟩).symm.trans herror
  · intro base account hsends hcode hvalue hlen
    rw [hread h r hlast hanswer]
    exact accountReply_eq_ok.2 ⟨base, hsends.found hcode hvalue hlen, rfl⟩

example : (Provider.readResult QueryResult.reader ("\x7b\"jsonrpc\":\"2.0\",\"id\":1,\"result\":" ++
    "\x7b\"response\":\x7b\"code\":0,\"value\":" ++
    "\"CigKHi9ldGhlcm1pbnQudHlwZXMudjEuRXRoQWNjb3VudBIGCgQYAiAH\"\x7d\x7d\x7d")).toOption.bind
      (fun r => (accountReply "evmos1payer" r).toOption) = some ⟨2, 7⟩ := by decide +kernel

end Connection

end GasSponsor.Rpc
