import GasSponsor.Text.Printable

/-!
# Quoted text

Text between quotes, with an escape for the quote, the backslash, the common controls and every
character that is not printable.
-/

namespace GasSponsor.Quoted

def hexDigits (n : Nat) : List Char := Nat.toDigits 16 n

def escape (quote c : Char) : List Char :=
  if c = '\x00' then ['\\', '0']
  else if c = '\t' then ['\\', 't']
  else if c = '\r' then ['\\', 'r']
  else if c = '\n' then ['\\', 'n']
  else if c = '\\' ∨ c = quote then ['\\', c]
  else if Printable.isPrintable c then [c]
  else "\\u\x7b".toList ++ hexDigits c.toNat ++ ['}']

def text (s : String) : String :=
  String.ofList ('"' :: s.toList.flatMap (escape '"') ++ ['"'])

def char (c : Char) : String :=
  String.ofList ('\'' :: escape '\'' c ++ ['\''])

end GasSponsor.Quoted
