/-!
# Media types

A media type is a type and a subtype, each a token, with parameters behind semicolons. The last plus
sign in a subtype sets off its suffix. A parameter is a token, an equals sign and a token or a
quoted text; blanks may stand before a parameter and behind a quoted text. Case does not matter.
-/

namespace GasSponsor.Api

structure MediaType where
  type : List Char
  subtype : List Char
  suffix : Option (List Char)
deriving DecidableEq, Repr

namespace MediaType

def isTokenChar (c : Char) : Bool := c.isAlphanum || c ∈ "!#$%&'*+-.^_`|~".toList

def isQuotedChar (c : Char) : Bool := 31 < c.toNat ∧ c.toNat < 127

def afterQuoted : List Char → Option (List Char)
  | [] => some []
  | ' ' :: cs => afterQuoted cs
  | ';' :: cs => some cs
  | _ => none

/-- Whether a text is a list of parameters. A quoted value has at least one character, and the first
may itself be a quote. -/
def parameters : Nat → List Char → Bool
  | 0, cs => cs.isEmpty
  | fuel + 1, cs =>
    match cs.dropWhile (· = ' ') with
    | [] => true
    | cs =>
      let name := cs.takeWhile isTokenChar
      match cs.dropWhile isTokenChar with
      | '=' :: '"' :: c :: cs =>
        let inside := cs.takeWhile fun c => isQuotedChar c ∧ c ≠ '"'
        match cs.drop inside.length with
        | '"' :: cs => !name.isEmpty ∧ isQuotedChar c ∧ (afterQuoted cs).any (parameters fuel)
        | _ => false
      | '=' :: cs =>
        let value := cs.takeWhile isTokenChar
        match cs.dropWhile isTokenChar with
        | [] => !name.isEmpty
        | ';' :: cs => !name.isEmpty ∧ !value.isEmpty ∧ parameters fuel cs
        | _ => false
      | _ => false

/-- Splits a subtype at its last plus sign, unless that is its first character. -/
def splitSuffix (cs : List Char) : List Char × Option (List Char) :=
  let suffix := (cs.reverse.takeWhile (· ≠ '+')).reverse
  let subtype := cs.take (cs.length - suffix.length - 1)
  if '+' ∈ cs ∧ subtype ≠ [] then (subtype, some suffix) else (cs, none)

def ofText (text : String) : Option MediaType :=
  let cs := text.toList.map Char.toLower
  let type := cs.takeWhile isTokenChar
  match cs.dropWhile isTokenChar with
  | '/' :: cs =>
    let whole := cs.takeWhile isTokenChar
    let (subtype, suffix) := splitSuffix whole
    let media : MediaType := ⟨type, subtype, suffix⟩
    if type.isEmpty then none
    else
      match cs.dropWhile isTokenChar with
      | [] => some media
      | ';' :: ps => if !whole.isEmpty ∧ parameters ps.length ps then some media else none
      | _ => none
  | _ => none

def isJson (m : MediaType) : Bool :=
  m.type = "application".toList ∧
    (m.subtype = "json".toList ∨ m.suffix = some "json".toList)

end MediaType

end GasSponsor.Api
