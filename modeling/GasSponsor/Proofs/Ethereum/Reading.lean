import GasSponsor.Ethereum.Reader
import GasSponsor.Proofs.Rlp.Reader

/-!
# Signed transactions read back

The canonical form of a signed transaction is read back as the transaction and the signature that it
was made from. Only the chain of a legacy transaction is not written, and follows from the
signature. Each field is taken off the list by itself, so that a family is read by putting its fields
together in order.
-/

namespace GasSponsor.Ethereum

open Rlp (Item Takes Gives Reader byteItem listItem)

/-- A legacy transaction names the chain that its signature binds it to. -/
def Family.boundTo (family : Family) (g : Signature) : Family :=
  match family with
  | .legacy _ gasPrice => .legacy (chainIdOfV g.v) gasPrice
  | typed => typed

namespace Transaction

def boundTo (t : Transaction) (g : Signature) : Transaction :=
  { t with family := t.family.boundTo g }

variable (t : Transaction) (g : Signature)

theorem boundTo_boundTo : (t.boundTo g).boundTo g = t.boundTo g := by
  obtain ⟨nonce, gas, recipient, value, data, family⟩ := t
  cases family <;> rfl

theorem signedBytes_boundTo : (t.boundTo g).signedBytes g = t.signedBytes g := by
  obtain ⟨nonce, gas, recipient, value, data, family⟩ := t
  cases family <;> rfl

theorem kind_boundTo : (t.boundTo g).family.kind = t.family.kind := by
  obtain ⟨nonce, gas, recipient, value, data, family⟩ := t
  cases family <;> rfl

end Transaction

theorem lt_of_word (x : Word) : x.toNat < 256 ^ 32 := Nat.lt_of_lt_of_le x.isLt (by decide)

theorem lt_of_uint64 (x : UInt64) : x.toNat < 256 ^ 8 := Nat.lt_of_lt_of_le x.toNat_lt (by decide)

theorem takes_word (x : Word) : Takes nextWord (Rlp.number x.toNat) x := by
  have hwritten := Rlp.written_number (lt_of_word x) (by decide)
  have hread := Rlp.Item.number_ofNumber (lt_of_word x)
  have htakes := (Rlp.takes_nextAs hwritten hread).map (BitVec.ofNat 256)
  rw [BitVec.ofNat_toNat, BitVec.setWidth_eq] at htakes
  exact htakes

theorem takes_uint64 (x : UInt64) : Takes nextUInt64 (Rlp.number x.toNat) x := by
  have hwritten := Rlp.written_number (lt_of_uint64 x) (by decide)
  have hread := Rlp.Item.number_ofNumber (lt_of_uint64 x)
  have htakes := (Rlp.takes_nextAs hwritten hread).map UInt64.ofNat
  rw [UInt64.ofNat_toNat] at htakes
  exact htakes

theorem takes_machineUInt64 (x : UInt64) : Takes nextMachineUInt64 (Rlp.number x.toNat) x := by
  have hwritten := Rlp.written_number (lt_of_uint64 x) (by decide)
  have hread := Rlp.Item.machineNumber_ofNumber x.toNat_lt
  have htakes := (Rlp.takes_nextAs hwritten hread).map UInt64.ofNat
  rw [UInt64.ofNat_toNat] at htakes
  exact htakes

theorem written_fixed {n : Nat} (hn : n < UInt64.size) (x : FixedBytes n) :
    (byteItem x.bytes).Written (Rlp.bytes x.bytes) :=
  Rlp.written_bytes (by rw [x.length_eq]; exact hn)

theorem readRecipient_address (address : Address) :
    readRecipient (byteItem address.bytes) = .ok (some address) := by
  have hpayload : ¬ ((byteItem address.bytes).headerSize = 1 ∧
      (byteItem address.bytes).payload = []) := by
    rintro ⟨-, hnil⟩
    have hlength : address.bytes.length = 20 := address.length_eq
    rw [show address.bytes = [] from hnil] at hlength
    cases hlength
  rw [readRecipient, if_neg hpayload, Rlp.Item.fixed_byteItem]
  rfl

theorem takes_recipient (t : Transaction) : Takes nextRecipient t.recipientItem t.recipient := by
  rw [Transaction.recipientItem]
  cases t.recipient with
  | none => exact Rlp.takes_nextAs (Rlp.written_bytes (by decide)) rfl
  | some address =>
      exact Rlp.takes_nextAs (written_fixed (by decide) address) (readRecipient_address address)

theorem takes_data {data : Bytes} (h : data.length < UInt64.size) :
    Takes nextData (Rlp.bytes data) data :=
  Rlp.takes_nextAs (Rlp.written_bytes h) rfl

def Access.keyItems (a : Access) : Bytes := Rlp.list (a.keys.map fun k => Rlp.bytes k.bytes)

theorem Access.takes_keys {a : Access} (h : a.keyItems.length < UInt64.size) :
    Takes (Rlp.nextAs fun item => item.items.mapM (Item.fixed 32)) a.keyItems a.keys := by
  have hflatten := Nat.lt_of_le_of_lt (Rlp.length_flatten_le _) h
  have hwritten : ∀ k ∈ a.keys, (byteItem k.bytes).Written (Rlp.bytes k.bytes) :=
    fun k _ => written_fixed (by decide) k
  have hread : ∀ k ∈ a.keys, (byteItem k.bytes).fixed 32 = .ok k :=
    fun k _ => Rlp.Item.fixed_byteItem k
  exact Rlp.takes_nextAs (Rlp.written_list hflatten) (Rlp.mapM_items hwritten hread)

def Access.rlpItem (a : Access) : Item := listItem [Rlp.bytes a.address.bytes, a.keyItems].flatten

theorem Access.written_rlpItem {a : Access} (h : a.item.length < UInt64.size) :
    a.rlpItem.Written a.item :=
  Rlp.written_list (Nat.lt_of_le_of_lt (Rlp.length_flatten_le _) h)

theorem readAccess_rlpItem {a : Access} (h : a.item.length < UInt64.size) :
    readAccess a.rlpItem = .ok a := by
  have hmem : a.keyItems ∈ [Rlp.bytes a.address.bytes, a.keyItems] := by simp
  have hkeys : a.keyItems.length < UInt64.size := Nat.lt_of_le_of_lt (Rlp.length_le_of_mem hmem) h
  have haddress : Takes (Rlp.nextAs (Item.fixed 20)) (Rlp.bytes a.address.bytes) a.address :=
    Rlp.takes_nextAs (written_fixed (by decide) a.address) (Rlp.Item.fixed_byteItem a.address)
  have hpayload : a.rlpItem.payload = Rlp.bytes a.address.bytes ++ (a.keyItems ++ []) := rfl
  -- The extent of the list reaches over both items.
  have hfits : ∀ extent ∈ some a.rlpItem.payload.length,
      (Rlp.bytes a.address.bytes).length + a.keyItems.length ≤ extent := by
    intro extent hextent
    cases hextent
    rw [hpayload, List.append_nil]
    exact Nat.le_of_eq List.length_append.symm
  obtain ⟨middle, hfirst, hmiddle⟩ := haddress (a.keyItems ++ []) (some a.rlpItem.payload.length)
    fun extent hextent => Nat.le_trans (Nat.le_add_right _ _) (hfits extent hextent)
  obtain ⟨left, hsecond, -⟩ := a.takes_keys hkeys [] middle fun extent hextent =>
    Nat.le_trans (Nat.le_add_left _ _) (hfits extent (hmiddle extent hextent).2)
  have henter : a.rlpItem.enter = .ok ⟨a.rlpItem.payload, some a.rlpItem.payload.length⟩ := rfl
  rw [readAccess, henter]
  simp only [bind, Except.bind, StateT.run]
  rw [hpayload] at hfirst ⊢
  rw [hfirst]
  simp only [hsecond]
  rfl

theorem takes_accesses {accesses : List Access}
    (h : (Access.items accesses).length < UInt64.size) :
    Takes nextAccesses (Access.items accesses) accesses := by
  have hlength : ∀ a ∈ accesses, a.item.length < UInt64.size := fun a ha =>
    Nat.lt_of_le_of_lt (Rlp.length_le_of_mem (List.mem_map_of_mem ha)) h
  have hflatten := Nat.lt_of_le_of_lt (Rlp.length_flatten_le _) h
  have hwritten : ∀ a ∈ accesses, a.rlpItem.Written a.item := fun a ha =>
    a.written_rlpItem (hlength a ha)
  have hread : ∀ a ∈ accesses, readAccess a.rlpItem = .ok a := fun a ha =>
    readAccess_rlpItem (hlength a ha)
  exact Rlp.takes_nextAs (Rlp.written_list hflatten) (Rlp.mapM_items hwritten hread)

def Signature.items (g : Signature) : List Bytes :=
  [Rlp.number g.v.toNat, Rlp.number g.r.toNat, Rlp.number g.s.toNat]

theorem takes_signature (g : Signature) : Takes nextSignature g.items.flatten g := by
  refine (takes_machineUInt64 g.v).bind ?_
  refine (takes_word g.r).bind ?_
  exact (takes_word g.s).bind (Rlp.takes_pure g)

section Families

variable {t : Transaction} (g : Signature)

theorem takes_legacy {chainId : Option UInt64} {gasPrice : Word}
    (hfamily : t.family = .legacy chainId gasPrice) (hdata : t.data.length < UInt64.size) :
    Takes readLegacy (t.items ++ g.items).flatten (t.boundTo g, g) := by
  obtain ⟨nonce, gas, recipient, value, data, family⟩ := t
  cases hfamily
  refine (takes_word nonce).bind ?_
  refine (takes_word gasPrice).bind ?_
  refine (takes_word gas).bind ?_
  refine (takes_recipient _).bind ?_
  refine (takes_word value).bind ?_
  refine (takes_data hdata).bind ?_
  exact (takes_signature g).map _

theorem takes_accessList {chainId : UInt64} {gasPrice : Word} {accesses : List Access}
    (hfamily : t.family = .accessList chainId gasPrice accesses)
    (hdata : t.data.length < UInt64.size)
    (haccesses : (Access.items accesses).length < UInt64.size) :
    Takes readAccessList (t.items ++ g.items).flatten (t.boundTo g, g) := by
  obtain ⟨nonce, gas, recipient, value, data, family⟩ := t
  cases hfamily
  refine (takes_machineUInt64 chainId).bind ?_
  refine (takes_word nonce).bind ?_
  refine (takes_word gasPrice).bind ?_
  refine (takes_word gas).bind ?_
  refine (takes_recipient _).bind ?_
  refine (takes_word value).bind ?_
  refine (takes_data hdata).bind ?_
  refine (takes_accesses haccesses).bind ?_
  exact (takes_signature g).map _

theorem takes_dynamicFee {chainId : UInt64} {tipCap feeCap : Word} {accesses : List Access}
    (hfamily : t.family = .dynamicFee chainId tipCap feeCap accesses)
    (hdata : t.data.length < UInt64.size)
    (haccesses : (Access.items accesses).length < UInt64.size) :
    Takes readDynamicFee (t.items ++ g.items).flatten (t.boundTo g, g) := by
  obtain ⟨nonce, gas, recipient, value, data, family⟩ := t
  cases hfamily
  refine (takes_uint64 chainId).bind ?_
  refine (takes_word nonce).bind ?_
  refine (takes_word tipCap).bind ?_
  refine (takes_word feeCap).bind ?_
  refine (takes_word gas).bind ?_
  refine (takes_recipient _).bind ?_
  refine (takes_word value).bind ?_
  refine (takes_data hdata).bind ?_
  refine (takes_accesses haccesses).bind ?_
  exact (takes_signature g).map _

end Families

theorem readFrom_list {reader : Reader (Transaction × Signature)} {items : List Bytes}
    {signed : Transaction × Signature} (h : Takes reader items.flatten signed)
    (hlength : (Rlp.list items).length < UInt64.size) (rest : Bytes) :
    readFrom reader (Rlp.list items ++ rest) = .ok signed := by
  have hflatten := Nat.lt_of_le_of_lt (Rlp.length_flatten_le items) hlength
  obtain ⟨left, hread⟩ := h.run rest
  rw [readFrom, Rlp.enter_list hflatten]
  simp only [bind, Except.bind, StateT.run, hread, pure, Except.pure]

theorem length_list_le (t : Transaction) (g : Signature) :
    (Rlp.list (t.items ++ g.items)).length ≤ (t.signedBytes g).length := by
  have hsigned : t.signedBytes g = t.typeByte ++ Rlp.list (t.items ++ g.items) := rfl
  rw [hsigned, List.length_append]
  exact Nat.le_add_left _ _

theorem length_item_le {t : Transaction} {written : Bytes} (h : written ∈ t.items) (g : Signature) :
    written.length ≤ (t.signedBytes g).length :=
  Nat.le_trans (Rlp.length_le_of_mem (List.mem_append_left _ h)) (length_list_le t g)

theorem data_mem_items (t : Transaction) : Rlp.bytes t.data ∈ t.items := by
  rw [Transaction.items]
  cases t.family <;> simp

theorem accesses_mem_items {t : Transaction} {accesses : List Access}
    (h : (∃ chainId gasPrice, t.family = .accessList chainId gasPrice accesses) ∨
      ∃ chainId tipCap feeCap, t.family = .dynamicFee chainId tipCap feeCap accesses) :
    Access.items accesses ∈ t.items := by
  rw [Transaction.items]
  rcases h with ⟨chainId, gasPrice, hfamily⟩ | ⟨chainId, tipCap, feeCap, hfamily⟩ <;>
    simp [hfamily]

/-- A list is read as a legacy transaction. -/
theorem readSigned_list {items : List Bytes} (hpos : 0 < items.flatten.length)
    (hlength : (Rlp.list items).length < UInt64.size) (rest : Bytes) :
    readSigned (Rlp.list items ++ rest) = readFrom readLegacy (Rlp.list items ++ rest) := by
  have hflatten := Nat.lt_of_le_of_lt (Rlp.length_flatten_le items) hlength
  have hread := (Rlp.written_list hflatten).read rest
  obtain ⟨b, bs, hcons⟩ := List.exists_cons_of_length_pos hpos
  have hpayload : (listItem items.flatten).payload = b :: bs := hcons
  have hisList : (listItem items.flatten).isList = true := rfl
  rw [readSigned, hread]
  simp only [bind, Except.bind, hpayload, hisList, if_true]

/-- A small byte before the list tells the family of a typed transaction. -/
theorem readSigned_typed {type : UInt8} (h : type.toNat < 0x80) (rest : Bytes) :
    readSigned (type :: rest) =
      if type = 0x01 then readFrom readAccessList rest
      else if type = 0x02 then readFrom readDynamicFee rest
      else .error .unknownType := by
  have hlength : [type].length < UInt64.size := by
    rw [List.length_singleton]
    decide
  have hread := (Rlp.written_bytes hlength).read rest
  have hbytes : Rlp.bytes [type] = [type] := if_pos h
  rw [hbytes, List.singleton_append] at hread
  rw [readSigned, hread]
  rfl

theorem length_flatten_pos (t : Transaction) (g : Signature) :
    0 < (t.items ++ g.items).flatten.length := by
  have hnumber : 0 < (Rlp.number g.s.toNat).length :=
    (Rlp.written_number (lt_of_word g.s) (by decide)).pos
  have hmem : Rlp.number g.s.toNat ∈ t.items ++ g.items :=
    List.mem_append_right _ (by simp [Signature.items])
  exact Nat.lt_of_lt_of_le hnumber (Rlp.length_le_flatten_of_mem hmem)

/-- The canonical form of a signed transaction is read back, and what follows it is not read. -/
theorem readSigned_signedBytes {t : Transaction} {g : Signature}
    (h : (t.signedBytes g).length < UInt64.size) (rest : Bytes) :
    readSigned (t.signedBytes g ++ rest) = .ok (t.boundTo g, g) := by
  have hlist : (Rlp.list (t.items ++ g.items)).length < UInt64.size :=
    Nat.lt_of_le_of_lt (length_list_le t g) h
  have hdata : t.data.length < UInt64.size :=
    Nat.lt_of_le_of_lt (Nat.le_trans (Rlp.length_payload_le t.data)
      (length_item_le (data_mem_items t) g)) h
  have hsigned : t.signedBytes g = t.typeByte ++ Rlp.list (t.items ++ g.items) := rfl
  rw [hsigned, Transaction.typeByte]
  cases hfamily : t.family with
  | legacy chainId gasPrice =>
      rw [List.nil_append, readSigned_list (length_flatten_pos t g) hlist]
      exact readFrom_list (takes_legacy g hfamily hdata) hlist rest
  | accessList chainId gasPrice accesses =>
      have hmem := accesses_mem_items (t := t) (.inl ⟨_, _, hfamily⟩)
      have haccesses := Nat.lt_of_le_of_lt (length_item_le hmem g) h
      rw [List.singleton_append, List.cons_append, readSigned_typed (by decide), if_pos rfl]
      exact readFrom_list (takes_accessList g hfamily hdata haccesses) hlist rest
  | dynamicFee chainId tipCap feeCap accesses =>
      have hmem := accesses_mem_items (t := t) (.inr ⟨_, _, _, hfamily⟩)
      have haccesses := Nat.lt_of_le_of_lt (length_item_le hmem g) h
      rw [List.singleton_append, List.cons_append, readSigned_typed (by decide),
        if_neg (by decide), if_pos rfl]
      exact readFrom_list (takes_dynamicFee g hfamily hdata haccesses) hlist rest

section Reading

variable {property : Transaction × Signature → Prop} {signed : Transaction × Signature}

theorem of_readFrom {reader : Reader (Transaction × Signature)} {bs : Bytes}
    (hreader : Gives reader property) (h : readFrom reader bs = .ok signed) : property signed := by
  rw [readFrom] at h
  cases henter : Rlp.enter bs with
  | error e =>
      rw [henter] at h
      cases h
  | ok cursor =>
      cases hread : reader cursor with
      | error e =>
          simp only [henter, bind, Except.bind, StateT.run, hread] at h
          cases h
      | ok result =>
          simp only [henter, bind, Except.bind, StateT.run, hread] at h
          cases h
          exact hreader cursor result.1 result.2 hread

theorem of_readSigned {raw : Bytes} (hlegacy : Gives readLegacy property)
    (haccessList : Gives readAccessList property) (hdynamicFee : Gives readDynamicFee property)
    (h : readSigned raw = .ok signed) : property signed := by
  rw [readSigned] at h
  cases hitem : Rlp.readItem raw with
  | error e =>
      rw [hitem] at h
      cases h
  | ok first =>
      simp only [hitem, bind, Except.bind] at h
      split at h
      · cases h
      · split at h
        · exact of_readFrom hlegacy h
        · split at h
          · exact of_readFrom haccessList h
          · split at h
            · exact of_readFrom hdynamicFee h
            · cases h

end Reading

/-- A legacy transaction that was read is on the chain of its signature. -/
theorem boundTo_of_readSigned {raw : Bytes} {t : Transaction} {g : Signature}
    (h : readSigned raw = .ok (t, g)) : t.boundTo g = t := by
  have hlegacy : Gives readLegacy fun x => x.1.boundTo x.2 = x.1 := by
    iterate 7 refine Rlp.gives_bind fun _ => ?_
    exact Rlp.gives_pure rfl
  have haccessList : Gives readAccessList fun x => x.1.boundTo x.2 = x.1 := by
    iterate 9 refine Rlp.gives_bind fun _ => ?_
    exact Rlp.gives_pure rfl
  have hdynamicFee : Gives readDynamicFee fun x => x.1.boundTo x.2 = x.1 := by
    iterate 10 refine Rlp.gives_bind fun _ => ?_
    exact Rlp.gives_pure rfl
  exact of_readSigned hlegacy haccessList hdynamicFee h

end GasSponsor.Ethereum
