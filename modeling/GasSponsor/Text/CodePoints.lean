/-!
# Code points

Sets of code points as lists of ranges, and the reading of hexadecimal code points.
-/

namespace GasSponsor.CodePoints

/-- Ranges of code points, both ends included. -/
abbrev Ranges := List (Nat × Nat)

def Ranges.contains (rs : Ranges) (c : Char) : Bool :=
  rs.any fun (first, last) => first ≤ c.toNat ∧ c.toNat ≤ last

def split (isSeparator : Char → Bool) (cs : List Char) : List (List Char) :=
  cs.foldr (fun c pieces =>
    match pieces with
    | [] => [[c]]
    | p :: rest => if isSeparator c then [] :: p :: rest else (c :: p) :: rest) [[]]

def words (text : String) : List (List Char) :=
  (split (fun c => c = ' ' ∨ c = '\n') text.toList).filter (· ≠ [])

def digitValue (c : Char) : Nat :=
  if c.isDigit then c.toNat - 48 else c.toNat - 87

def number (cs : List Char) : Nat := cs.foldl (fun n c => 16 * n + digitValue c) 0

end GasSponsor.CodePoints
