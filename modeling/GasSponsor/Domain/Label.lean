import GasSponsor.Domain.Direction
import GasSponsor.Domain.Joining
import GasSponsor.Domain.Mapping
import GasSponsor.Domain.Normal
import GasSponsor.Domain.Punycode

/-!
# Labels of a domain

A domain is mapped, brought into normal form and cut into labels at its points. A label that begins
with `xn--` stands for a text with other characters than ASCII, which must already be mapped and in
normal form. No label begins with a mark or has a joiner out of place, and in a domain with
characters that are written to the left the direction of each label is clear.
-/

namespace GasSponsor.Domain

/-- A label as it stands, and the text that it stands for. -/
structure Label where
  written : List Char
  text : List Char

def isAscii (c : Char) : Bool := c.toNat < 128

/-- Controls, blanks and the signs by which the parts of an address are told apart. -/
def isForbidden (c : Char) : Bool :=
  c.toNat ≤ 0x20 || c.toNat = 0x7f || c ∈ "#%/:<>?@[\\]^|".toList

def mark : List Char := "xn--".toList

def maxText : Nat := 1000

def maxMarked : Nat := 2000

def isWellFormed (text : List Char) : Bool :=
  !text.head?.any Mark.isMark && Joining.areJoinersPlaced [] text

def markedText? (cs : List Char) : Option (List Char) :=
  if cs.all isAscii ∧ cs.getLast? ≠ some '-' ∧ cs ≠ [] ∧ cs.length ≤ maxMarked then do
    let text ← Punycode.decode cs
    if !text.all isAscii ∧ text.all (fun c => isPermitted c ∧ c ≠ '.') ∧
        Normal.normalize text = text then some text
    else none
  else none

def Label.ofMapped? (written : List Char) : Option Label := do
  let text ←
    if mark.isPrefixOf written then markedText? (written.drop mark.length)
    else if written.all isAscii ∨ written.length ≤ maxText then some written
    else none
  if !text.any isForbidden ∧ isWellFormed text then some ⟨written, text⟩ else none

def mappedText? (cs : List Char) : Option (List Char) := do
  let mapped ← cs.mapM mapped?
  return Normal.normalize mapped.flatten

def labels? (cs : List Char) : Option (List Label) := do
  let text ← mappedText? cs
  let labels ← (CodePoints.split (· = '.') text).mapM Label.ofMapped?
  if labels.any (fun l => Direction.needsRule l.text) ∧
      !labels.all (fun l => Direction.isClear l.text) then none
  else some labels

end GasSponsor.Domain
