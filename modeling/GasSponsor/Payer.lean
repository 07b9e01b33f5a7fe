import GasSponsor.Bech32
import GasSponsor.Bytes.Hex
import GasSponsor.Curve.Ecdsa
import GasSponsor.Error
import GasSponsor.Hash.Ripemd160
import GasSponsor.Text.Quoted

/-!
# The payer

The key that pays for every envelope, its compressed public key, and the ledger address that the
public key hashes to.
-/

namespace GasSponsor

structure PrivateKey where
  scalar : Nat
  pos : 0 < scalar
  lt : scalar < Curve.n

namespace PrivateKey

/-- Keys are written in 24 to 32 bytes. -/
def ofBytes? (bs : Bytes) : Option PrivateKey :=
  if bs.length < 24 ∨ 32 < bs.length then none
  else if h : 0 < bs.toNat ∧ bs.toNat < Curve.n then some ⟨bs.toNat, h.1, h.2⟩
  else none

/-- The abscissa of the public point behind a byte that tells the parity of the ordinate. -/
def publicKey (key : PrivateKey) : Bytes :=
  match (Curve.Point.base.scale key.scalar).affine? with
  | some (x, y) => (if y % 2 = 0 then 2 else 3) :: Bytes.fixed 32 x
  | none => []

def sign (key : PrivateKey) (payload : Bytes) : Except BuildError Bytes :=
  match Ecdsa.sign? key.scalar (Sha256.hash payload) with
  | some g => .ok g.bytes
  | none => .error (.signing "signature error")

end PrivateKey

structure PayerIdentity where
  key : PrivateKey
  publicKey : Bytes
  address : Address
  bech32 : String

namespace PayerIdentity

def addressOf (publicKey : Bytes) : Address := Ripemd160.hash (Sha256.hash publicKey).bytes

def ofKey (key : PrivateKey) (hrp : String) : Except RelayError PayerIdentity :=
  let publicKey := key.publicKey
  let address := addressOf publicKey
  match Bech32.encode (Bytes.ofText hrp) address.bytes with
  | .error e => .error (.config ("invalid bech32 prefix: " ++ e.message))
  | .ok bech32 => .ok ⟨key, publicKey, address, bech32⟩

def invalidKey (reason : String) : RelayError :=
  .config ("invalid fee payer private key: " ++ reason)

/-- Reads a key in hexadecimal, with or without `0x` and with blank space around it. -/
def ofHex (text hrp : String) : Except RelayError PayerIdentity :=
  let text := String.ofList (Printable.trim text.toList)
  if text.isEmpty then .error (.config "empty fee payer private key")
  else
    match Hex.decode (Hex.dropMark text) with
    | .error e => .error (invalidKey e.message)
    | .ok bs =>
      match PrivateKey.ofBytes? bs with
      | none => .error (invalidKey "signature error")
      | some key => ofKey key hrp

def ofEnvironment (environment : String → Option String) (name hrp : String) :
    Except RelayError PayerIdentity :=
  match environment name with
  | none => .error (.config ("fee payer private key not set; set " ++ name))
  | some text => ofHex text hrp

def sign (p : PayerIdentity) (payload : Bytes) : Except BuildError Bytes := p.key.sign payload

def description (p : PayerIdentity) : String :=
  "PayerIdentity \x7b address: " ++ Quoted.text p.bech32 ++ ", .. \x7d"

end PayerIdentity

end GasSponsor
