import GasSponsor.Bytes

/-!
# Recursive length prefix: reading

Items are read one after another from a byte string. The reader is lenient in two ways: the payload
of a list is taken where bytes are expected, and the extent that a list declares binds only its
first item, so that further items may lie behind the end of the list.
-/

namespace GasSponsor.Rlp

inductive Error
  | tooShort
  | tooBig
  | invalidIndirection
  | lengthWithZeroPrefix
  | expectedBytes
  | expectedList
  | emptySlice
  | unknownType
deriving DecidableEq, Repr

/-- A header at the start of a byte string: what it announces, its own size, and the length of the
payload. A byte below `0x80` has no header and is its own payload. -/
structure Header where
  isList : Bool
  size : Nat
  length : Nat
deriving DecidableEq, Repr

/-- A length of at least 56 in `size` bytes without leading zeros. -/
def readLength (isList : Bool) (size : Nat) : Bytes → Except Error Header
  | [] => .error .tooShort
  | 0 :: _ => .error .lengthWithZeroPrefix
  | bs =>
    if bs.length < size then .error .tooShort
    else
      let length := Bytes.toNat (bs.take size)
      if length ≤ 55 then .error .invalidIndirection else .ok ⟨isList, size + 1, length⟩

def readHeader : Bytes → Except Error Header
  | [] => .error .tooShort
  | b :: rest =>
    let b := b.toNat
    if b ≤ 0x7f then .ok ⟨false, 0, 1⟩
    else if b ≤ 0xb7 then .ok ⟨false, 1, b - 0x80⟩
    else if b ≤ 0xbf then readLength false (b - 0xb7) rest
    else if b ≤ 0xf7 then .ok ⟨true, 1, b - 0xc0⟩
    else readLength true (b - 0xf7) rest

structure Item where
  isList : Bool
  headerSize : Nat
  payload : Bytes
deriving DecidableEq, Repr

def readItem (bs : Bytes) : Except Error (Item × Bytes) := do
  let h ← readHeader bs
  if bs.length < h.size + h.length then .error .tooShort
  else .ok (⟨h.isList, h.size, (bs.drop h.size).take h.length⟩, bs.drop (h.size + h.length))

namespace Item

def bytes (item : Item) : Except Error Bytes :=
  if item.isList then .error .expectedBytes
  else
    match item.payload with
    | [b] =>
      if item.headerSize = 1 ∧ b.toNat < 0x80 then .error .invalidIndirection else .ok [b]
    | payload => .ok payload

def number (width : Nat) (item : Item) : Except Error Nat := do
  let bs ← item.bytes
  if bs.head? = some 0 then .error .invalidIndirection
  else if bs.length ≤ width then .ok bs.toNat
  else .error .tooBig

/-- A number that fits in a machine word of eight bytes. Excess length is reported before leading
zeros. -/
def machineNumber (item : Item) : Except Error Nat := do
  let bs ← item.bytes
  if 8 < bs.length then .error .tooBig
  else if bs.head? = some 0 then .error .invalidIndirection
  else .ok bs.toNat

def fixed (n : Nat) (item : Item) : Except Error (FixedBytes n) := do
  let bs ← item.bytes
  if h : bs.length = n then .ok ⟨bs, h⟩
  else if bs.length < n then .error .tooShort
  else .error .tooBig

end Item

/-- The items of a list that are still to be read. `window` is the extent of the list as long as its
first item has not been read. -/
structure Cursor where
  bytes : Bytes
  window : Option Nat
deriving DecidableEq, Repr

def enter (bs : Bytes) : Except Error Cursor :=
  match bs with
  | [] => .error .expectedList
  | b :: _ =>
    if b.toNat < 0xc0 then .error .expectedList
    else do
      let h ← readHeader bs
      if bs.length < h.size + h.length then .error .tooShort
      else .ok ⟨bs.drop h.size, some h.length⟩

def Item.enter (item : Item) : Except Error Cursor :=
  if item.isList then .ok ⟨item.payload, some item.payload.length⟩ else .error .expectedList

abbrev Reader := StateT Cursor (Except Error)

def next : Reader Item := fun c => do
  let (item, _) ← readItem (match c.window with
    | some w => c.bytes.take w
    | none => c.bytes)
  .ok (item, ⟨c.bytes.drop (item.headerSize + item.payload.length), none⟩)

def nextAs {α : Type} (read : Item → Except Error α) : Reader α := do
  let item ← next
  read item

/-- The items of a byte string up to the first that has no valid header. -/
def itemsUpTo : Nat → Bytes → List Item
  | 0, _ => []
  | count + 1, bs =>
    match readItem bs with
    | .ok (item, rest) => item :: itemsUpTo count rest
    | .error _ => []

/-- The items of a list; bytes count as an empty list. -/
def Item.items (item : Item) : List Item :=
  if item.isList then itemsUpTo item.payload.length item.payload else []

end GasSponsor.Rlp
