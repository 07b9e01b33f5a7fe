import GasSponsor.Number.Binary64

/-!
# The words of a TOML document

Blanks, comments, line ends, keys, strings, numbers, dates and times. A scanner takes its word off
the front of a text, or fails and leaves the text to another.
-/

namespace GasSponsor.Toml

abbrev Scanner := StateT (List Char) Option

namespace Scanner

def peek : Scanner (Option Char) := do return (← get).head?

def next : Scanner Char := do
  match ← get with
  | [] => failure
  | c :: cs =>
    set cs
    return c

def one (p : Char → Bool) : Scanner Char := do
  let c ← next
  if p c then return c else failure

def expect (c : Char) : Scanner Unit := discard (one (· = c))

def word (text : String) : Scanner Unit := text.toList.forM expect

def takeWhile (p : Char → Bool) : Scanner (List Char) := do
  let cs ← get
  set (cs.dropWhile p)
  return cs.takeWhile p

def optional {α : Type} (s : Scanner α) : Scanner (Option α) := (some <$> s) <|> pure none

def isBlank (c : Char) : Bool := c = ' ' ∨ c = '\t'

def blanks : Scanner Unit := discard (takeWhile isBlank)

/-- Controls other than the tab stand nowhere but in line ends. -/
def isText (c : Char) : Bool := c = '\t' ∨ (0x20 ≤ c.toNat ∧ c.toNat ≠ 0x7f)

def newline : Scanner Unit := expect '\n' <|> word "\r\n"

def comment : Scanner Unit := do
  expect '#'
  discard (takeWhile isText)

def lineEnd : Scanner Unit := do
  if (← get) ≠ [] then newline

def lineRest : Scanner Unit := do
  blanks
  discard (optional comment)
  lineEnd

def skipLinesFrom : Nat → Scanner Unit
  | 0 => return
  | fuel + 1 => do
    blanks
    discard (optional comment)
    match ← optional newline with
    | some _ => skipLinesFrom fuel
    | none => return

def skipLines : Scanner Unit := do skipLinesFrom ((← get).length + 1)

def isHexDigit (c : Char) : Bool :=
  c.isDigit ∨ ('a' ≤ c ∧ c ≤ 'f') ∨ ('A' ≤ c ∧ c ≤ 'F')

def digitValue (c : Char) : Nat := if c.isDigit then c.toNat - 48 else c.toLower.toNat - 87

def number (base : Nat) (digits : List Char) : Nat :=
  digits.foldl (fun n c => base * n + digitValue c) 0

def codePoint (width : Nat) : Scanner Char := do
  let cs := (← get).take width
  set ((← get).drop width)
  let n := number 16 cs
  if cs.length = width ∧ cs.all isHexDigit ∧ n.isValidChar then return Char.ofNat n else failure

def escaped : Scanner Char := do
  match ← next with
  | 'b' => return '\x08'
  | 'f' => return '\x0c'
  | 'n' => return '\n'
  | 'r' => return '\r'
  | 't' => return '\t'
  | '"' => return '"'
  | '\\' => return '\\'
  | 'u' => codePoint 4
  | 'U' => codePoint 8
  | _ => failure

def basicFrom : Nat → Scanner (List Char)
  | 0 => failure
  | fuel + 1 => do
    match ← next with
    | '"' => return []
    | '\\' => do
      let c ← escaped
      return c :: (← basicFrom fuel)
    | c => if isText c then return c :: (← basicFrom fuel) else failure

def basicString : Scanner (List Char) := do
  expect '"'
  basicFrom (← get).length

def literalString : Scanner (List Char) := do
  expect '\''
  let cs ← takeWhile fun c => isText c ∧ c ≠ '\''
  expect '\''
  return cs

def dropSpace : List Char → List Char
  | ' ' :: cs => dropSpace cs
  | '\t' :: cs => dropSpace cs
  | '\n' :: cs => dropSpace cs
  | '\r' :: '\n' :: cs => dropSpace cs
  | cs => cs

/-- A backslash at the end of a line, with all blanks and line ends behind it. -/
def continuation : Scanner Unit := do
  expect '\\'
  blanks
  newline
  modify dropSpace

/-- The rest of a string in three quotes of a kind. Up to two quotes may stand before the closing
ones; a line end becomes a line feed. -/
def multilineFrom (quote : Char) (escapes : Bool) : Nat → Scanner (List Char)
  | 0 => failure
  | fuel + 1 => do
    let quotes := ((← get).takeWhile (· = quote)).length
    if 3 ≤ quotes then
      let closing := min quotes 5
      set ((← get).drop closing)
      return List.replicate (closing - 3) quote
    else if escapes ∧ (← peek) = some '\\' then
      match ← optional continuation with
      | some _ => multilineFrom quote escapes fuel
      | none => do
        expect '\\'
        let c ← escaped
        return c :: (← multilineFrom quote escapes fuel)
    else
      match ← optional newline with
      | some _ => return '\n' :: (← multilineFrom quote escapes fuel)
      | none => do
        let c ← one isText
        return c :: (← multilineFrom quote escapes fuel)

def multiline (quote : Char) (escapes : Bool) : Scanner (List Char) := do
  expect quote
  expect quote
  expect quote
  discard (optional newline)
  multilineFrom quote escapes ((← get).length + 1)

def string : Scanner String := do
  let cs ← multiline '"' true <|> basicString <|> multiline '\'' false <|> literalString
  return String.ofList cs

def isBareKeyChar (c : Char) : Bool := c.isAlphanum ∨ c = '-' ∨ c = '_'

def bareKey : Scanner (List Char) := do
  match ← takeWhile isBareKeyChar with
  | [] => failure
  | cs => return cs

def simpleKey : Scanner String := do
  return String.ofList (← basicString <|> literalString <|> bareKey)

def keyFrom : Nat → Scanner (List String)
  | 0 => failure
  | fuel + 1 => do
    blanks
    let k ← simpleKey
    blanks
    if (← peek) = some '.' then
      expect '.'
      return k :: (← keyFrom fuel)
    else return [k]

/-- How many parts a key may have at most, and how deep arrays and tables may stand in each other.
-/
def maxDepth : Nat := 79

def key : Scanner (List String) := keyFrom maxDepth

def moreDigits (p : Char → Bool) : List Char → List Char × List Char
  | '_' :: c :: cs =>
    if p c then
      let (ds, rest) := moreDigits p cs
      (c :: ds, rest)
    else ([], '_' :: c :: cs)
  | c :: cs =>
    if p c then
      let (ds, rest) := moreDigits p cs
      (c :: ds, rest)
    else ([], c :: cs)
  | [] => ([], [])

def digits (p : Char → Bool) : Scanner (List Char) := do
  let first ← one p
  let (ds, rest) := moreDigits p (← get)
  set rest
  return first :: ds

def sign : Scanner Bool := do
  match ← peek with
  | some '-' => do
    expect '-'
    return true
  | some '+' => do
    expect '+'
    return false
  | _ => return false

def decimal : Scanner (List Char) := do
  if (← peek) = some '0' then
    expect '0'
    return ['0']
  else digits Char.isDigit

def based (mark : String) (base : Nat) (p : Char → Bool) : Scanner Int := do
  word mark
  return number base (← digits p)

/-- An integer of 64 bits. Only a decimal one may have a sign. -/
def integer : Scanner Int := do
  let n ← based "0x" 16 isHexDigit
    <|> based "0o" 8 (fun c => '0' ≤ c ∧ c ≤ '7')
    <|> based "0b" 2 (fun c => c = '0' ∨ c = '1')
    <|> do
      let negative ← sign
      let n : Int := number 10 (← decimal)
      return if negative then -n else n
  if Int64.minValue.toInt ≤ n ∧ n ≤ Int64.maxValue.toInt then return n else failure

def overflows (digits : List Char) (power : Int) : Bool :=
  let n := number 10 digits
  let places : Int := digits.length + power
  if n = 0 ∨ places < 300 then false
  else if 400 + digits.length < places then true
  else if 0 ≤ power then Binary64.ofNat (n * Decimal.power power.toNat) = .infinite
  else Binary64.ofRatio n (Decimal.power (-power).toNat) = .infinite

def exponent : Scanner Int := do
  discard (one fun c => c = 'e' ∨ c = 'E')
  let negative ← sign
  let n : Int := number 10 (← digits Char.isDigit)
  return if negative then -n else n

def floating : Scanner Unit := do
  let negative ← sign
  word "inf" <|> word "nan" <|> do
    let whole ← decimal
    let fraction ← optional do
      expect '.'
      digits Char.isDigit
    let power ← optional exponent
    if fraction.isNone ∧ power.isNone then failure
    let fraction := fraction.getD []
    if !negative ∧ overflows (whole ++ fraction) (power.getD 0 - fraction.length) then failure

def bounded (width least greatest : Nat) : Scanner Nat := do
  let cs := (← get).take width
  set ((← get).drop width)
  let n := number 10 cs
  if cs.length = width ∧ cs.all Char.isDigit ∧ least ≤ n ∧ n ≤ greatest then return n else failure

def daysInMonth (year month : Nat) : Nat :=
  if month = 2 then
    if year % 4 = 0 ∧ (year % 100 ≠ 0 ∨ year % 400 = 0) then 29 else 28
  else if month ∈ [4, 6, 9, 11] then 30
  else 31

def date : Scanner Unit := do
  let year ← bounded 4 0 9999
  expect '-'
  let month ← bounded 2 1 12
  expect '-'
  discard (bounded 2 1 (daysInMonth year month))

def time : Scanner Unit := do
  discard (bounded 2 0 23)
  expect ':'
  discard (bounded 2 0 59)
  expect ':'
  discard (bounded 2 0 60)
  discard (optional do
    expect '.'
    discard (one Char.isDigit)
    takeWhile Char.isDigit)

def offset : Scanner Unit :=
  (discard (one fun c => c = 'Z' ∨ c = 'z')) <|> do
    discard (one fun c => c = '+' ∨ c = '-')
    discard (bounded 2 0 23)
    expect ':'
    discard (bounded 2 0 59)

def dateTime : Scanner Unit := do
  match ← optional date with
  | none => time
  | some _ =>
    discard (optional do
      discard (one fun c => c = 'T' ∨ c = 't' ∨ c = ' ')
      time
      optional offset)

end Scanner

end GasSponsor.Toml
