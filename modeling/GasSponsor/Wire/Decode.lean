import GasSponsor.Wire.Schema
import GasSponsor.Wire.Varint

/-!
# Reading messages

A message is a sequence of records, each a key and a value. A record of a declared field is merged
into the value read so far: a plain field is replaced, a repeated one grows, and a message field is
merged into the message that is there. A record with an undeclared tag is skipped, whatever its
wire type, except that groups nest only to a limit.

A nested message is read from the bytes that follow, not from a copy of its own bytes, and must end
where its length says.
-/

namespace GasSponsor.Wire

def depthLimit : Nat := 100

def readKey (bs : Bytes) : Result (Nat × WireType × Bytes) := do
  let (key, rest) ← Varint.read bs
  if UInt32.size ≤ key then fail (.keyTooLarge key)
  else
    match WireType.ofCode? (key % 8) with
    | none => fail (.unknownWireType (key % 8))
    | some type => if key / 8 = 0 then fail .zeroTag else .ok (key / 8, type, rest)

def dropExactly (count : Nat) (bs : Bytes) : Result Bytes :=
  if bs.length < count then fail .underflow else .ok (bs.drop count)

/-- Skips records up to the end of the group `tag`. Every record takes at least one byte, so that
`records` may be the number of bytes left. -/
def skipGroup (skip : WireType → Nat → Bytes → Result Bytes) (tag : Nat) :
    Nat → Bytes → Result Bytes
  | 0, _ => fail .invalidVarint
  | records + 1, bs => do
    let (inner, type, rest) ← readKey bs
    if type = .endGroup then
      if inner = tag then .ok rest else fail .endOfOtherGroup
    else do
      let rest ← skip type inner rest
      skipGroup skip tag records rest

/-- Skips the value of a record, `depth` levels above the limit. -/
def skipValue : Nat → WireType → Nat → Bytes → Result Bytes
  | 0, _, _, _ => fail .tooDeep
  | depth + 1, type, tag, bs =>
    match type with
    | .varint => do
      let (_, rest) ← Varint.read bs
      .ok rest
    | .fixed64 => dropExactly 8 bs
    | .fixed32 => dropExactly 4 bs
    | .lengthDelimited => do
      let (length, rest) ← Varint.read bs
      dropExactly length rest
    | .startGroup => skipGroup (skipValue depth) tag (bs.length + 1) bs
    | .endGroup => fail .endOfOtherGroup

def readChunk (bs : Bytes) : Result (Bytes × Bytes) := do
  let (length, rest) ← Varint.read bs
  if rest.length < length then fail .underflow
  else .ok (rest.take length, rest.drop length)

/-- Reads the value of a record of the right wire type. Numbers of 32 bits keep the lowest bits of
what is read. -/
def Scalar.readValue : (s : Scalar) → Bytes → Result (s.Value × Bytes)
  | .uint64, bs => do
    let (v, rest) ← Varint.read bs
    .ok (UInt64.ofNat v, rest)
  | .uint32, bs => do
    let (v, rest) ← Varint.read bs
    .ok (UInt32.ofNat v, rest)
  | .int32, bs => do
    let (v, rest) ← Varint.read bs
    .ok ((UInt32.ofNat v).toInt32, rest)
  | .bool, bs => do
    let (v, rest) ← Varint.read bs
    .ok (decide (v ≠ 0), rest)
  | .double, bs =>
    if bs.length < 8 then fail .underflow
    else .ok (⟨UInt64.ofNat (Bytes.toNatLE (bs.take 8))⟩, bs.drop 8)
  | .string, bs => do
    let (chunk, rest) ← readChunk bs
    match Bytes.toText? chunk with
    | some text => .ok (text, rest)
    | none => fail .notUtf8
  | .bytes, bs => readChunk bs

def Scalar.read (s : Scalar) (type : WireType) (bs : Bytes) : Result (s.Value × Bytes) :=
  if type = s.wireType then s.readValue bs else fail (.wrongWireType type s.wireType)

/-- Reads records while more than `limit` bytes are left; `records` bounds their number. -/
def readRecords {α : Type} (merge : α → Nat → WireType → Bytes → Result (α × Bytes))
    (limit : Nat) : Nat → α → Bytes → Result (α × Bytes)
  | 0, v, bs => .ok (v, bs)
  | records + 1, v, bs =>
    if bs.length ≤ limit then .ok (v, bs)
    else do
      let (tag, type, rest) ← readKey bs
      let (v, rest) ← merge v tag type rest
      readRecords merge limit records v rest

def readNested {α : Type} (merge : α → Nat → WireType → Bytes → Result (α × Bytes)) (v : α)
    (bs : Bytes) : Result (α × Bytes) := do
  let (length, rest) ← Varint.read bs
  if rest.length < length then fail .underflow
  else do
    let limit := rest.length - length
    let (v, left) ← readRecords merge limit rest.length v rest
    if left.length = limit then .ok (v, left) else fail .lengthExceeded

def labelled {α : Type} (label : String) (r : Result α) : Result α :=
  r.mapError (·.within label)

namespace Fields

/-- Merges the record that follows its key into a message, `depth` levels above the limit. -/
def merge : (f : Fields) → (depth : Nat) → f.Value → Nat → WireType → Bytes →
    Result (f.Value × Bytes)
  | nil, depth, v, tag, type, bs => do
    let rest ← skipValue depth type tag bs
    .ok (v, rest)
  | plain t label s more, depth, (x, v), tag, type, bs =>
    if tag = t then do
      let (x, rest) ← labelled label (s.read type bs)
      .ok ((x, v), rest)
    else do
      let (v, rest) ← more.merge depth v tag type bs
      .ok ((x, v), rest)
  | repeated t label s more, depth, (xs, v), tag, type, bs =>
    if tag = t then do
      let (x, rest) ← labelled label (s.read type bs)
      .ok ((xs ++ [x], v), rest)
    else do
      let (v, rest) ← more.merge depth v tag type bs
      .ok ((xs, v), rest)
  | message t label inner more, depth, (x, v), tag, type, bs =>
    if tag = t then do
      let (m, rest) ← labelled label <|
        if type ≠ .lengthDelimited then fail (.wrongWireType type .lengthDelimited)
        else if depth = 0 then fail .tooDeep
        else readNested (inner.merge (depth - 1)) (x.getD inner.default) bs
      .ok ((some m, v), rest)
    else do
      let (v, rest) ← more.merge depth v tag type bs
      .ok ((x, v), rest)
  | messages t label inner more, depth, (xs, v), tag, type, bs =>
    if tag = t then do
      let (m, rest) ← labelled label <|
        if type ≠ .lengthDelimited then fail (.wrongWireType type .lengthDelimited)
        else if depth = 0 then fail .tooDeep
        else readNested (inner.merge (depth - 1)) inner.default bs
      .ok ((xs ++ [m], v), rest)
    else do
      let (v, rest) ← more.merge depth v tag type bs
      .ok ((xs, v), rest)

def decode (f : Fields) (bs : Bytes) : Result f.Value := do
  let (v, _) ← readRecords (f.merge depthLimit) 0 bs.length f.default bs
  .ok v

end Fields

end GasSponsor.Wire
