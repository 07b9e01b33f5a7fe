import GasSponsor.Toml.Scanner

/-!
# TOML documents

A document is a list of statements: headers of tables and of arrays of tables, and entries that
belong to the table of the last header. Putting them together refuses whatever would define a table
or an entry twice. Numbers with a fraction and dates are read, but only their kind is kept.
-/

namespace GasSponsor.Toml

/-- How a table came about: under a header of its own, on the way to another header, by a dotted
key, or between braces. -/
inductive Origin
  | header
  | implied
  | dotted
  | braces
deriving DecidableEq, Repr

inductive Value
  | string (s : String)
  | integer (n : Int)
  | floating
  | boolean (b : Bool)
  | dateTime
  | array (items : List Value)
  | table (origin : Origin) (entries : List (String × Value))
  | tables (items : List (List (String × Value)))

abbrev Entries := List (String × Value)

namespace Entries

def put (key : String) (v : Value) : Entries → Entries
  | [] => [(key, v)]
  | (k, w) :: rest => if key = k then (k, v) :: rest else (k, w) :: put key v rest

/-- Adds a value under a dotted key. No table on the way was closed by a header or by braces, and
the last one was made by a dotted key. -/
def addDotted (es : Entries) : List String → Value → Option Entries
  | [], _ => none
  | [key], v => if (es.lookup key).isSome then none else some (es.put key v)
  | key :: path, v =>
    let mayEnd := fun origin => path.length ≠ 1 ∨ origin = Origin.dotted
    match es.lookup key with
    | none => do return es.put key (.table .dotted (← addDotted [] path v))
    | some (.table .dotted inner) =>
      do return es.put key (.table .dotted (← addDotted inner path v))
    | some (.table .implied inner) =>
      if mayEnd .implied then do return es.put key (.table .implied (← addDotted inner path v))
      else none
    | some (.tables items) =>
      match items.getLast? with
      | some inner =>
        if mayEnd .header then
          do return es.put key (.tables (items.dropLast ++ [← addDotted inner path v]))
        else none
      | none => none
    | some _ => none

/-- Changes the table at the path of a header. A table on the way that is not there yet is implied;
of an array of tables the last one is meant. -/
def under (f : Entries → Option Entries) (es : Entries) : List String → Option Entries
  | [] => f es
  | key :: path =>
    match es.lookup key with
    | none => do return es.put key (.table .implied (← under f [] path))
    | some (.table .braces _) => none
    | some (.table origin inner) => do return es.put key (.table origin (← under f inner path))
    | some (.tables items) =>
      match items.getLast? with
      | some inner => do return es.put key (.tables (items.dropLast ++ [← under f inner path]))
      | none => none
    | some _ => none

/-- Opens a table under a header. It may only have been implied before. -/
def openTable (key : String) (es : Entries) : Option Entries :=
  match es.lookup key with
  | none => some (es.put key (.table .header []))
  | some (.table .implied inner) => some (es.put key (.table .header inner))
  | some _ => none

def openElement (key : String) (es : Entries) : Option Entries :=
  match es.lookup key with
  | none => some (es.put key (.tables [[]]))
  | some (.tables items) => some (es.put key (.tables (items ++ [[]])))
  | some _ => none

end Entries

namespace Scanner

def itemsFrom (item : Scanner Value) : Nat → Scanner (List Value)
  | 0 => failure
  | fuel + 1 => do
    skipLines
    if (← peek) = some ']' then
      expect ']'
      return []
    let v ← item
    skipLines
    match ← next with
    | ',' => return v :: (← itemsFrom item fuel)
    | ']' => return [v]
    | _ => failure

def assignment (item : Scanner Value) : Scanner (List String × Value) := do
  let k ← key
  expect '='
  blanks
  return (k, ← item)

def assignmentsFrom (item : Scanner Value) : Nat → Entries → Scanner Entries
  | 0, _ => failure
  | fuel + 1, es => do
    let (k, v) ← assignment item
    let es ← (es.addDotted k v : Option Entries)
    blanks
    match ← next with
    | ',' => assignmentsFrom item fuel es
    | '\x7d' => return es
    | _ => failure

def braces (item : Scanner Value) : Scanner Entries := do
  blanks
  if (← peek) = some '\x7d' then
    expect '\x7d'
    return []
  else assignmentsFrom item (← get).length []

def scalar : Scanner Value := do
  match ← peek with
  | some '"' => return .string (← string)
  | some '\'' => return .string (← string)
  | some 't' => do
    word "true"
    return .boolean true
  | some 'f' => do
    word "false"
    return .boolean false
  | _ =>
    (do dateTime; return .dateTime) <|> (do floating; return .floating) <|>
      (do return .integer (← integer))

def value : Nat → Scanner Value
  | 0 => scalar
  | depth + 1 => do
    match ← peek with
    | some '[' => do
      expect '['
      return .array (← itemsFrom (value depth) (← get).length)
    | some '\x7b' => do
      expect '\x7b'
      return .table .braces (← braces (value depth))
    | _ => scalar

inductive Statement
  | table (path : List String)
  | element (path : List String)
  | entry (path : List String) (v : Value)

def header : Scanner Statement := do
  expect '['
  if (← peek) = some '[' then
    expect '['
    let k ← key
    word "]]"
    return .element k
  else
    let k ← key
    expect ']'
    return .table k

def statementsFrom : Nat → Scanner (List Statement)
  | 0 => failure
  | fuel + 1 => do
    blanks
    match ← peek with
    | none => return []
    | some '#' => do
      lineRest
      statementsFrom fuel
    | some '\n' => do
      newline
      statementsFrom fuel
    | some '\r' => do
      newline
      statementsFrom fuel
    | some '[' => do
      let s ← header
      lineRest
      return s :: (← statementsFrom fuel)
    | some _ => do
      let (k, v) ← assignment (value maxDepth)
      lineRest
      return .entry k v :: (← statementsFrom fuel)

/-- The statements of a whole text. A byte order mark may stand before them. -/
def statements : Scanner (List Statement) := do
  discard (optional (expect '\ufeff'))
  statementsFrom ((← get).length + 1)

end Scanner

namespace Document

structure State where
  root : Entries
  path : List String

def State.apply (s : State) : Scanner.Statement → Option State
  | .table path =>
    match path.getLast? with
    | some key => do return ⟨← s.root.under (Entries.openTable key) path.dropLast, path⟩
    | none => none
  | .element path =>
    match path.getLast? with
    | some key => do return ⟨← s.root.under (Entries.openElement key) path.dropLast, path⟩
    | none => none
  | .entry path v => do return { s with root := ← s.root.under (·.addDotted path v) s.path }

def read (text : String) : Option Entries := do
  let statements ← Scanner.statements.run' text.toList
  let s ← statements.foldlM State.apply ⟨[], []⟩
  return s.root

end Document

end GasSponsor.Toml
