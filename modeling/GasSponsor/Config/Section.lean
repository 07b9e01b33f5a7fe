import GasSponsor.Toml.Document

/-!
# Sections of a configuration

A section is read field by field. A table gives its fields by name and an array by position; a date
has the form of a table, but none of the fields. What a section holds besides is not looked at.
-/

namespace GasSponsor.Config

open Toml (Value)

abbrev Section := String → Nat → Option Value

def Section.ofValue : Value → Option Section
  | .table _ entries => some fun name _ => entries.lookup name
  | .array items => some fun _ i => items[i]?
  | .tables items => some fun _ i => items[i]?.map (.table .header)
  | .dateTime => some fun _ _ => none
  | _ => none

def text : Value → Option String
  | .string s => some s
  | _ => none

def flag : Value → Option Bool
  | .boolean b => some b
  | _ => none

def natural (bound : Nat) : Value → Option Nat
  | .integer n => if 0 ≤ n ∧ n < bound then some n.toNat else none
  | _ => none

def texts : Value → Option (List String)
  | .array items => items.mapM text
  | _ => none

def isEmptyValue : Value → Bool
  | .array items => items.isEmpty
  | .table _ entries => entries.isEmpty
  | .tables items => items.isEmpty
  | _ => false

/-- A name out of several: as text, or as the only key of a table with nothing under it. -/
def choice {α : Type} (names : List (String × α)) : Value → Option α
  | .string s => names.lookup s
  | .table _ [(name, v)] => if isEmptyValue v then names.lookup name else none
  | _ => none

variable {α : Type}

def Section.required (s : Section) (name : String) (position : Nat) (read : Value → Option α) :
    Option α :=
  (s name position).bind read

def Section.optional (s : Section) (name : String) (position : Nat) (read : Value → Option α)
    (default : α) : Option α :=
  match s name position with
  | some v => read v
  | none => some default

end GasSponsor.Config
