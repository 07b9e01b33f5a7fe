import GasSponsor.Json.Number
import GasSponsor.Text.Quoted

/-!
# Reading JSON

A reader takes characters off the front of a text. It fails in two ways: the text is no JSON, or it
is JSON of another shape than the reader asks for, which may show a string of it. Reading goes from
left to right, and the first fault met counts. Values that nobody asks for are skipped under a more
lenient grammar: a number may be out of range, a surrogate may stand alone, and nesting is not
limited. A repetition is bounded by the text that is left when it begins, which has a character for
each round.
-/

namespace GasSponsor.Json

inductive Fault
  | malformed
  | mismatched (found : String)
deriving DecidableEq, Repr

def Fault.message : Fault → String
  | malformed => "malformed content"
  | mismatched found => "unexpected " ++ found

abbrev Reader := StateT (List Char) (Except Fault)

namespace Reader

variable {α σ : Type}

def malformed : Reader α := throw .malformed

def mismatched : Reader α := throw (.mismatched "content")

def unwanted (text : List Char) : Reader α :=
  throw (.mismatched ("string " ++ Quoted.text (String.ofList text)))

def isBlank (c : Char) : Bool := c = ' ' ∨ c = '\n' ∨ c = '\t' ∨ c = '\r'

def skipBlanks : Reader Unit := modify (·.dropWhile isBlank)

def peek : Reader (Option Char) := do return (← get).head?

def skip : Reader Unit := modify List.tail

def peekToken : Reader (Option Char) := do
  skipBlanks
  peek

def next : Reader Char := do
  match ← get with
  | [] => malformed
  | c :: cs =>
    set cs
    return c

def expect (c : Char) : Reader Unit := do
  if (← next) ≠ c then malformed

def word (cs : List Char) : Reader Unit := cs.forM expect

def digits : Reader (List Char) := do
  let cs ← get
  set (cs.dropWhile Char.isDigit)
  return cs.takeWhile Char.isDigit

def someDigits : Reader (List Char) := do
  match ← digits with
  | [] => malformed
  | ds => return ds

/-- A number at whose first character the text stands. A zero has no digits behind it. -/
def numeral : Reader Numeral := do
  let negative := (← peek) = some '-'
  if negative then skip
  let whole ← someDigits
  if whole.head? = some '0' ∧ whole ≠ ['0'] then malformed
  let fraction ← if (← peek) = some '.' then do skip; someDigits else pure []
  let exponent ← if (← peek) = some 'e' ∨ (← peek) = some 'E' then do
      skip
      let sign ← peek
      if sign = some '+' ∨ sign = some '-' then skip
      pure (some (decide (sign = some '-'), ← someDigits))
    else pure none
  return ⟨negative, whole, fraction, exponent⟩

def number : Reader Number := do
  match (← numeral).number? with
  | some n => return n
  | none => malformed

def hexValue? (c : Char) : Option Nat :=
  let n := c.toNat
  if 48 ≤ n ∧ n ≤ 57 then some (n - 48)
  else if 97 ≤ n ∧ n ≤ 102 then some (n - 87)
  else if 65 ≤ n ∧ n ≤ 70 then some (n - 55)
  else none

def hexDigit : Reader Nat := do
  match hexValue? (← next) with
  | some d => return d
  | none => malformed

def codeUnit : Reader Nat := do
  let a ← hexDigit
  let b ← hexDigit
  let c ← hexDigit
  let d ← hexDigit
  return ((16 * a + b) * 16 + c) * 16 + d

def isLeading (n : Nat) : Bool := 0xd800 ≤ n ∧ n < 0xdc00

def isTrailing (n : Nat) : Bool := 0xdc00 ≤ n ∧ n < 0xe000

/-- The character of an escape by code units. A leading surrogate needs a trailing one behind it. -/
def unicode : Reader Char := do
  let n ← codeUnit
  if isTrailing n then malformed
  if isLeading n then
    expect '\\'
    expect 'u'
    let m ← codeUnit
    if !isTrailing m then malformed
    return Char.ofNat (0x10000 + (n - 0xd800) * 0x400 + (m - 0xdc00))
  return Char.ofNat n

def escaped : Reader Char := do
  match ← next with
  | '"' => return '"'
  | '\\' => return '\\'
  | '/' => return '/'
  | 'b' => return '\x08'
  | 'f' => return '\x0c'
  | 'n' => return '\n'
  | 'r' => return '\r'
  | 't' => return '\t'
  | 'u' => unicode
  | _ => malformed

/-- A string as it was read, and whether it was written without escapes. -/
structure Written where
  text : List Char
  isPlain : Bool

def quotedFrom : (bound : List Char) → Reader Written
  | [] => malformed
  | _ :: bound => do
    match ← next with
    | '"' => return ⟨[], true⟩
    | '\\' =>
      let c ← escaped
      let q ← quotedFrom bound
      return ⟨c :: q.text, false⟩
    | c =>
      if c.toNat < 0x20 then malformed
      let q ← quotedFrom bound
      return ⟨c :: q.text, q.isPlain⟩

def quoted : Reader Written := do
  expect '"'
  quotedFrom (← get)

def key : Reader String := do return String.ofList (← quoted).text

def skipQuotedFrom : (bound : List Char) → Reader Unit
  | [] => malformed
  | _ :: bound => do
    match ← next with
    | '"' => return
    | '\\' =>
      match ← next with
      | 'u' => discard codeUnit
      | c => if c ∉ ['"', '\\', '/', 'b', 'f', 'n', 'r', 't'] then malformed
      skipQuotedFrom bound
    | c =>
      if c.toNat < 0x20 then malformed
      skipQuotedFrom bound

def skipQuoted : Reader Unit := do
  expect '"'
  skipQuotedFrom (← get)

def behindColon (value : Reader α) : Reader α := do
  skipBlanks
  expect ':'
  value

/-- The members of an object behind its opening brace, each read by `member` once its key has been
taken. -/
def membersFrom {κ : Type} (key : Reader κ) (member : σ → κ → Reader σ) :
    (bound : List Char) → Bool → σ → Reader σ
  | [], _, _ => malformed
  | _ :: bound, first, s => do
    match ← peekToken with
    | some '}' =>
      skip
      return s
    | some ',' => do
      if first then malformed
      skip
    | _ => if !first then malformed
    if (← peekToken) ≠ some '"' then malformed
    let k ← key
    membersFrom key member bound false (← member s k)

def members {κ : Type} (key : Reader κ) (member : σ → κ → Reader σ) (s : σ) : Reader σ := do
  expect '{'
  membersFrom key member (← get) true s

def hasElement (first : Bool) : Reader Bool := do
  match ← peekToken with
  | some ']' => return false
  | some ',' => do
    if first then malformed
    skip
    return true
  | _ =>
    if !first then malformed
    return true

def elementsFrom (element : σ → Reader σ) : (bound : List Char) → Bool → σ → Reader σ
  | [], _, _ => malformed
  | _ :: bound, first, s => do
    if ← hasElement first then elementsFrom element bound false (← element s)
    else
      skip
      return s

def elements (element : σ → Reader σ) (s : σ) : Reader σ := do
  expect '['
  elementsFrom element (← get) true s

def skipNested : (bound : List Char) → Reader Unit
  | [] => malformed
  | _ :: bound => do
    match ← peekToken with
    | some 'n' => word "null".toList
    | some 't' => word "true".toList
    | some 'f' => word "false".toList
    | some '"' => skipQuoted
    | some '[' => elements (fun _ => skipNested bound) ()
    | some '{' => members skipQuoted (fun _ _ => behindColon (skipNested bound)) ()
    | _ => discard numeral

def skipValue : Reader Unit := do skipNested (← get)

def rawValue : Reader (List Char) := do
  skipBlanks
  let before ← get
  skipValue
  return before.take (before.length - (← get).length)

/-- Fails on a value of an unwanted kind. A scalar is read first, and a fault in it counts. A string
is shown. -/
def refuse : Reader α := do
  match ← peekToken with
  | some 'n' => word "null".toList
  | some 't' => word "true".toList
  | some 'f' => word "false".toList
  | some '"' => unwanted (← quoted).text
  | some '[' => mismatched
  | some '{' => mismatched
  | _ => discard number
  mismatched

def string : Reader String := do
  match ← peekToken with
  | some '"' => return String.ofList (← quoted).text
  | _ => refuse

/-- A string that stands in the text letter for letter. -/
def plainString : Reader String := do
  match ← peekToken with
  | some '"' => do
    let q ← quoted
    if !q.isPlain then unwanted q.text
    return String.ofList q.text
  | _ => refuse

def integer (least greatest : Int) : Reader Int := do
  let c ← peekToken
  if c = some '-' ∨ (c.any Char.isDigit) then
    match ← number with
    | .integer n => if least ≤ n ∧ n ≤ greatest then return n else mismatched
    | .floating .. => mismatched
  else refuse

def optional (value : Reader α) : Reader (Option α) := do
  match ← peekToken with
  | some 'n' => do
    word "null".toList
    return none
  | _ => some <$> value

def whole (value : Reader α) : Reader α := do
  let a ← value
  skipBlanks
  if (← get) ≠ [] then malformed
  return a

end Reader

end GasSponsor.Json
