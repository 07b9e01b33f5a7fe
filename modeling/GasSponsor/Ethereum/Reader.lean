import GasSponsor.Ethereum.Transaction
import GasSponsor.Rlp.Reader

/-!
# Reading signed transactions

The family is told by the first byte of the payload: a list is a legacy transaction, and a byte of
one or two stands before the list of a typed one. What follows the signature is not read.
-/

namespace GasSponsor.Ethereum

open Rlp (Item Reader next nextAs)

def nextWord : Reader Word := do
  let n ← nextAs (Item.number 32)
  return BitVec.ofNat 256 n

def nextUInt64 : Reader UInt64 := do
  let n ← nextAs (Item.number 8)
  return UInt64.ofNat n

def nextMachineUInt64 : Reader UInt64 := do
  let n ← nextAs Item.machineNumber
  return UInt64.ofNat n

/-- Empty bytes stand for no recipient. -/
def readRecipient (item : Item) : Except Rlp.Error (Option Address) :=
  if item.headerSize = 1 ∧ item.payload = [] then
    if item.isList then .error .expectedBytes else .ok none
  else do
    let address ← item.fixed 20
    return some address

def nextRecipient : Reader (Option Address) := nextAs readRecipient

/-- Call data may be written as a list; its payload is taken. -/
def nextData : Reader Bytes := nextAs fun item => .ok item.payload

def readAccess (item : Item) : Except Rlp.Error Access := do
  let cursor ← item.enter
  let (address, cursor) ← (nextAs (Item.fixed 20)).run cursor
  let (keys, _) ← (nextAs fun item => item.items.mapM (Item.fixed 32)).run cursor
  return ⟨address, keys⟩

def nextAccesses : Reader (List Access) := nextAs fun item => item.items.mapM readAccess

def nextSignature : Reader Signature := do
  let v ← nextMachineUInt64
  let r ← nextWord
  let s ← nextWord
  return ⟨v, r, s⟩

def readLegacy : Reader (Transaction × Signature) := do
  let nonce ← nextWord
  let gasPrice ← nextWord
  let gas ← nextWord
  let recipient ← nextRecipient
  let value ← nextWord
  let data ← nextData
  let g ← nextSignature
  return (⟨nonce, gas, recipient, value, data, .legacy (chainIdOfV g.v) gasPrice⟩, g)

def readAccessList : Reader (Transaction × Signature) := do
  let chainId ← nextMachineUInt64
  let nonce ← nextWord
  let gasPrice ← nextWord
  let gas ← nextWord
  let recipient ← nextRecipient
  let value ← nextWord
  let data ← nextData
  let accesses ← nextAccesses
  let g ← nextSignature
  return (⟨nonce, gas, recipient, value, data, .accessList chainId gasPrice accesses⟩, g)

def readDynamicFee : Reader (Transaction × Signature) := do
  let chainId ← nextUInt64
  let nonce ← nextWord
  let tipCap ← nextWord
  let feeCap ← nextWord
  let gas ← nextWord
  let recipient ← nextRecipient
  let value ← nextWord
  let data ← nextData
  let accesses ← nextAccesses
  let g ← nextSignature
  return (⟨nonce, gas, recipient, value, data, .dynamicFee chainId tipCap feeCap accesses⟩, g)

def readFrom (reader : Reader (Transaction × Signature)) (bs : Bytes) :
    Except Rlp.Error (Transaction × Signature) := do
  let cursor ← Rlp.enter bs
  let (signed, _) ← reader.run cursor
  return signed

def readSigned (raw : Bytes) : Except Rlp.Error (Transaction × Signature) := do
  let (item, _) ← Rlp.readItem raw
  match item.payload with
  | [] => .error .emptySlice
  | type :: _ =>
    if item.isList then readFrom readLegacy raw
    else if type = 0x01 then readFrom readAccessList raw.tail
    else if type = 0x02 then readFrom readDynamicFee raw.tail
    else .error .unknownType

end GasSponsor.Ethereum
