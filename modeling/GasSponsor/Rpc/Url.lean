import GasSponsor.Rpc.Host
import GasSponsor.Text.Decimal

/-!
# Endpoint addresses

Whether a text is a URL. It begins with a scheme and a colon. Under a scheme of the web a host must
follow; under any other scheme one may follow two slashes, and in the address of a file it may be
missing. Before the host may stand the name of a user, and behind it a port. What comes after them
is not looked at.
-/

namespace GasSponsor.Rpc.Url

/-- Controls and blanks at both ends do not count, nor line breaks and tabs anywhere. -/
def trim (cs : List Char) : List Char :=
  let low := fun (c : Char) => decide (c.toNat ≤ 0x20)
  (((cs.dropWhile low).reverse.dropWhile low).reverse).filter (· ∉ ['\t', '\n', '\r'])

def scheme? (cs : List Char) : Option (List Char × List Char) :=
  let scheme := cs.takeWhile fun c => c.isAlphanum ∨ c ∈ ['+', '-', '.']
  match scheme, cs.drop scheme.length with
  | c :: _, ':' :: rest => if c.isAlpha then some (scheme.map Char.toLower, rest) else none
  | _, _ => none

inductive Kind
  | web
  | file
  | other
deriving DecidableEq, Repr

def Kind.ofScheme (scheme : List Char) : Kind :=
  if scheme ∈ ["http".toList, "https".toList, "ws".toList, "wss".toList, "ftp".toList] then .web
  else if scheme = "file".toList then .file
  else .other

/-- Slashes of either kind count under a scheme of the web and for files. -/
def isSlash (kind : Kind) (c : Char) : Bool := c = '/' ∨ (kind ≠ .other ∧ c = '\\')

def authority (kind : Kind) (cs : List Char) : List Char :=
  cs.takeWhile fun c => !isSlash kind c && c ≠ '?' && c ≠ '#'

def splitUser (cs : List Char) : Option (List Char) × List Char :=
  let tail := (cs.reverse.takeWhile (· ≠ '@')).reverse
  if '@' ∈ cs then (some (cs.take (cs.length - tail.length - 1)), tail) else (none, tail)

/-- The host up to the first colon that is not between brackets, and what follows it. -/
def splitPort (inside : Bool) : List Char → List Char × List Char
  | [] => ([], [])
  | c :: cs =>
    if c = ':' ∧ !inside then ([], c :: cs)
    else
      let (host, port) := splitPort (if c = '[' then true else if c = ']' then false else inside) cs
      (c :: host, port)

/-- A port may be left out behind its colon. -/
def isPort (port : List Char) : Bool :=
  match port with
  | [] => true
  | _ :: digits =>
    let digits := digits.takeWhile (· ≠ '\\')
    digits = [] ∨ (Decimal.decode digits).any (· < UInt16.size)

/-- Whether a user is named. A lone colon names nobody. -/
def namesUser (user : Option (List Char)) : Bool :=
  match user with
  | none => false
  | some name => name ≠ [] ∧ name ≠ [':']

/-- Whether an authority has a host that its kind allows. `follows` tells whether anything stands
behind the authority. -/
def isAuthority (kind : Kind) (follows : Bool) (cs : List Char) : Bool :=
  let (user, rest) := splitUser cs
  let (host, port) := splitPort false rest
  if user = some [] ∧ rest = [] ∧ follows then false
  else if kind = .web then host ≠ [] && Host.isHost host && isPort port
  else if host = [] then port = [] && !namesUser user
  else Host.isOpaque host && isPort port

def isDrive (cs : List Char) : Bool :=
  match cs with
  | [c, d] => c.isAlpha ∧ (d = ':' ∨ d = '|')
  | _ => false

def isUrl (text : String) : Bool :=
  match scheme? (trim text.toList) with
  | none => false
  | some (scheme, rest) =>
    let kind := Kind.ofScheme scheme
    match kind with
    | .web =>
      let rest := rest.dropWhile (isSlash kind)
      let authority := authority kind rest
      isAuthority kind (authority.length < rest.length) authority
    | .file =>
      let start := rest.takeWhile (isSlash kind)
      let host := authority kind (rest.drop 2)
      start.length < 2 ∨ host = [] ∨ isDrive host ∨ Host.isHost host
    | .other =>
      match rest with
      | '/' :: '/' :: rest =>
        let authority := authority kind rest
        isAuthority kind (authority.length < rest.length) authority
      | _ => true

end GasSponsor.Rpc.Url
