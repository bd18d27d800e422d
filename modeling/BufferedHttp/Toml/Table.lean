import BufferedHttp.Toml.Value

/-!
# What may be added to a table

A key is bound once. Keys before a dot name tables that only dotted keys add to, headers name
tables on the way to the one they open, and a table is opened by one header only. Under a name of
several tables, what is added goes into the last one.
-/

namespace BufferedHttp.Toml

abbrev Entries := List (String × Value)

/-- A key with the tables named before it. -/
structure Path where
  tables : List String
  name : String
  deriving DecidableEq

structure Binding where
  path : Path
  value : Value

/-- A header with the bindings below it. -/
structure Section where
  path : Path
  repeated : Bool
  bindings : List Binding

namespace Entries

def get? (es : Entries) (key : String) : Option Value := es.lookup key

/-- The entries with another value for a key that is bound. -/
def replace (es : Entries) (key : String) (v : Value) : Entries :=
  es.map fun e => if e.1 = key then (key, v) else e

def erase (es : Entries) (key : String) : Entries := es.filter fun e => e.1 ≠ key

def bindName (es : Entries) (name : String) (v : Value) : Option Entries :=
  match es.get? name with
  | none => some (es ++ [(name, v)])
  | some _ => none

/-- Changes the last of several tables. -/
def inLast (change : Entries → Option Entries) (items : List Entries) : Option (List Entries) :=
  match items.getLast? with
  | some last => (change last).map fun last => items.dropLast ++ [last]
  | none => none

/-- Binds a key behind dots. The table that gets the key must be one of dotted keys. -/
def bindDotted (name : String) (v : Value) : List String → Entries → Option Entries
  | [], es => es.bindName name v
  | key :: keys, es =>
    match es.get? key with
    | none => (bindDotted name v keys []).map fun t => es ++ [(key, .table .dotted t)]
    | some (.table origin t) =>
      if origin = .dotted ∨ (origin = .implied ∧ keys ≠ []) then
        (bindDotted name v keys t).map fun t => es.replace key (.table origin t)
      else none
    | some (.tables items) =>
      if keys ≠ [] then
        (inLast (bindDotted name v keys) items).map fun items => es.replace key (.tables items)
      else none
    | some _ => none

def bind (es : Entries) (b : Binding) : Option Entries :=
  bindDotted b.path.name b.value b.path.tables es

def bindAll (es : Entries) (bs : List Binding) : Option Entries := bs.foldlM bind es

/-- Changes the table that the tables of a header lead to. -/
def atTable (change : Entries → Option Entries) : List String → Entries → Option Entries
  | [], es => change es
  | key :: keys, es =>
    match es.get? key with
    | none => (atTable change keys []).map fun t => es ++ [(key, .table .implied t)]
    | some (.table .inline _) => none
    | some (.table origin t) =>
      (atTable change keys t).map fun t => es.replace key (.table origin t)
    | some (.tables items) =>
      (inLast (atTable change keys) items).map fun items => es.replace key (.tables items)
    | some _ => none

/-- Opens a table. A table that was only implied moves to the end. -/
def openTable (name : String) (bs : List Binding) (es : Entries) : Option Entries :=
  match es.get? name with
  | none => (bindAll [] bs).map fun t => es ++ [(name, .table .header t)]
  | some (.table .implied t) =>
    (bindAll t bs).map fun t => es.erase name ++ [(name, .table .header t)]
  | some _ => none

/-- Opens one more of several tables. -/
def openNext (name : String) (bs : List Binding) (es : Entries) : Option Entries :=
  match es.get? name with
  | none => (bindAll [] bs).map fun t => es ++ [(name, .tables [t])]
  | some (.tables items) =>
    (bindAll [] bs).map fun t => es.replace name (.tables (items ++ [t]))
  | some _ => none

def addSection (es : Entries) (s : Section) : Option Entries :=
  atTable ((if s.repeated then openNext else openTable) s.path.name s.bindings) s.path.tables es

theorem bind_of_tables_eq_nil {b : Binding} (h : b.path.tables = []) (es : Entries) :
    es.bind b = es.bindName b.path.name b.value := by
  simp [bind, h, bindDotted]

end Entries

end BufferedHttp.Toml
