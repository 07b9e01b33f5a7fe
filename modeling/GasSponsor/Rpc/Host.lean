import GasSponsor.Bytes.Hex
import GasSponsor.Domain.Label

/-!
# Hosts

A host is a domain, an address of four bytes, or an address of eight groups between brackets. A
domain whose last label is a number must be an address of four bytes. Under a scheme that is not one
of the web, a host is any text without separators, or an address between brackets.
-/

namespace GasSponsor.Rpc.Host

open CodePoints (split)

def isHexDigit (c : Char) : Bool :=
  c.isDigit || ('a' ≤ c && c ≤ 'f') || ('A' ≤ c && c ≤ 'F')

def numberIn? (base : Nat) (isDigit : Char → Bool) (cs : List Char) : Option Nat :=
  if cs.all isDigit then
    some (cs.foldl (fun n c =>
      base * n + (if c.isDigit then c.toNat - 48 else c.toLower.toNat - 87)) 0)
  else none

/-- One part of an address in numbers: octal behind a zero, hexadecimal behind `0x`. -/
def partNumber? (cs : List Char) : Option Nat :=
  match cs with
  | [] => none
  | '0' :: 'x' :: rest => numberIn? 16 isHexDigit rest
  | '0' :: 'X' :: rest => numberIn? 16 isHexDigit rest
  | '0' :: rest => numberIn? 8 (fun c => '0' ≤ c ∧ c ≤ '7') rest
  | cs => numberIn? 10 Char.isDigit cs

def withoutRoot (parts : List (List Char)) : List (List Char) :=
  if 1 < parts.length ∧ parts.getLast? = some [] then parts.dropLast else parts

def endsInNumber (parts : List (List Char)) : Bool :=
  match (withoutRoot parts).getLast? with
  | none => false
  | some last => (last ≠ [] ∧ last.all Char.isDigit) ∨ (partNumber? last).isSome

/-- An address of four bytes in at most four numbers. The last one fills the bytes that the others
leave. -/
def isFourBytes (parts : List (List Char)) : Bool :=
  match (withoutRoot parts).mapM partNumber? with
  | none => false
  | some numbers =>
    numbers.length ≤ 4 ∧ numbers.dropLast.all (· < 256) ∧
      numbers.getLast?.getD 0 < 1 <<< (8 * (5 - numbers.length))

def isByte (cs : List Char) : Bool :=
  cs ≠ [] ∧ cs.all Char.isDigit ∧ (cs.head? ≠ some '0' ∨ cs.length = 1) ∧
    (Decimal.decode cs).any (· < 256)

def isDotted (cs : List Char) : Bool :=
  let parts := split (· = '.') cs
  parts.length = 4 ∧ parts.all isByte

def isGroup (cs : List Char) : Bool := cs ≠ [] ∧ cs.length ≤ 4 ∧ cs.all isHexDigit

/-- The number of groups with colons between them. Four bytes with points stand for the last two,
if they may. -/
def groups? (allowsDotted : Bool) (cs : List Char) : Option Nat :=
  if cs = [] then some 0
  else
    let parts := split (· = ':') cs
    if parts.all isGroup then some parts.length
    else if allowsDotted ∧ parts.dropLast.all isGroup ∧ parts.getLast?.any isDotted then
      some (parts.length + 1)
    else none

def aroundGap? : List Char → Option (List Char × List Char)
  | [] => none
  | ':' :: ':' :: rest => some ([], rest)
  | c :: cs => (aroundGap? cs).map fun (before, after) => (c :: before, after)

/-- Eight groups, or fewer with a gap for at least one. -/
def isEightGroups (cs : List Char) : Bool :=
  match aroundGap? cs with
  | none => groups? true cs = some 8
  | some (before, after) =>
    match groups? false before, groups? true after with
    | some m, some n => m + n ≤ 7
    | _, _ => false

def isBracketed (cs : List Char) : Bool :=
  cs.getLast? = some ']' && isEightGroups cs.tail.dropLast

def unescape : Bytes → Bytes
  | 0x25 :: high :: low :: rest =>
    match Hex.digitValue? high, Hex.digitValue? low with
    | some h, some l => UInt8.ofNat (16 * h + l) :: unescape rest
    | _, _ => 0x25 :: unescape (high :: low :: rest)
  | b :: rest => b :: unescape rest
  | [] => []

def isDomain (cs : List Char) : Bool :=
  match Bytes.toText? (unescape (Bytes.ofText (String.ofList cs))) with
  | none => false
  | some text =>
    match Domain.labels? text.toList with
    | none => false
    | some labels =>
      let parts := labels.map Domain.Label.written
      parts ≠ [[]] ∧ (endsInNumber parts → isFourBytes parts)

def isHost (cs : List Char) : Bool :=
  if cs.head? = some '[' then isBracketed cs else isDomain cs

def isSeparator (c : Char) : Bool := c ∈ "\x00\t\n\r #/:<>?@[\\]^|".toList

def isOpaque (cs : List Char) : Bool :=
  if cs.head? = some '[' then isBracketed cs else !cs.any isSeparator

end GasSponsor.Rpc.Host
