/-!
# Environment references

A reference to a variable of the environment is a dollar sign and a name between braces: capital
letters, digits and underscores, and no digit first. It is replaced by the text of the variable, or
by nothing. What has been put in is not looked at again, and everything else stays as it is.
-/

namespace GasSponsor.Environment

def isNameStart (c : Char) : Bool := c.isUpper ∨ c = '_'

def isNameChar (c : Char) : Bool := isNameStart c ∨ c.isDigit

/-- The name in a reference whose opening brace has been taken, and what follows the reference. -/
def reference? (cs : List Char) : Option (List Char × List Char) :=
  let name := cs.takeWhile isNameChar
  match cs.drop name.length with
  | '\x7d' :: rest => if name.head?.any isNameStart then some (name, rest) else none
  | _ => none

theorem length_reference? {cs name rest : List Char} (h : reference? cs = some (name, rest)) :
    rest.length < cs.length := by
  simp only [reference?] at h
  split at h
  · next r hr =>
    split at h
    · simp only [Option.some.injEq, Prod.mk.injEq] at h
      obtain ⟨_, rfl⟩ := h
      have := congrArg List.length hr
      simp only [List.length_drop, List.length_cons] at this
      omega
    · simp at h
  · simp at h

def expand (lookup : String → Option String) (cs : List Char) : List Char :=
  match cs with
  | [] => []
  | '$' :: '\x7b' :: cs =>
    match h : reference? cs with
    | some (name, rest) =>
      have := length_reference? h
      ((lookup (String.ofList name)).getD "").toList ++ expand lookup rest
    | none => '$' :: expand lookup ('\x7b' :: cs)
  | c :: cs => c :: expand lookup cs
termination_by cs.length

def substitute (lookup : String → Option String) (text : String) : String :=
  String.ofList (expand lookup text.toList)

end GasSponsor.Environment
