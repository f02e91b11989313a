/-!
# TOML documents

A document is a table of named items. Tables remember how they came to be, because that decides what
may still be added to them: one with a header of its own is complete but for its header's lines, one
that only a longer header or a dotted key mentions may still be filled.
-/

namespace HostRegistry.Toml

/-- How a table came to be. -/
inductive Origin
  /-- By a header of its own, or as the document itself. -/
  | header
  /-- By the header of a table inside it. -/
  | implied
  /-- By a dotted key. -/
  | dotted
  /-- Written between braces. -/
  | inline
  /-- By a dotted key between braces. -/
  | inlineDotted
deriving DecidableEq, Repr

inductive Item
  | text (s : String)
  | integer (n : Int)
  | boolean (b : Bool)
  | fraction
  /-- A date, a time or both. -/
  | moment
  | array (items : List Item)
  | table (origin : Origin) (members : List (String × Item))
  /-- Tables under headers in double brackets, in their order. -/
  | tables (items : List (List (String × Item)))

abbrev Table := List (String × Item)

def Table.get? (t : Table) (key : String) : Option Item := List.lookup key t

/-- Replaces the item under the key, or adds one at the end. -/
def Table.put : Table → String → Item → Table
  | [], key, item => [(key, item)]
  | (k, i) :: rest, key, item =>
    if k = key then (k, item) :: rest else (k, i) :: Table.put rest key item

/-- Rewrites the last of the tables. -/
def updateLast (f : Table → Option Table) : List Table → Option (List Table)
  | [] => none
  | [last] => (f last).map ([·])
  | t :: rest => (updateLast f rest).map (t :: ·)

/-- Rewrites the table that the names of a header lead to; missing ones are implied. -/
def Table.within (f : Table → Option Table) : List String → Table → Option Table
  | [], t => f t
  | key :: path, t =>
    match t.get? key with
    | none => (Table.within f path []).map fun inner => t.put key (.table .implied inner)
    | some (.table origin inner) =>
      if origin = .inline || origin = .inlineDotted then none
      else (Table.within f path inner).map fun inner => t.put key (.table origin inner)
    | some (.tables items) =>
      (updateLast (Table.within f path) items).map fun items => t.put key (.tables items)
    | some _ => none

/-- Sets a key that no item has yet. -/
def Table.define (t : Table) (key : String) (item : Item) : Option Table :=
  if (t.get? key).isSome then none else some (t.put key item)

/-- Sets the key that the parts of a dotted key lead to, from a table of the given origin. Parts on
the way must be missing or come from dotted keys themselves. -/
def Table.assign (key : String) (item : Item) : List String → Origin → Table → Option Table
  | [], _, t => t.define key item
  | part :: path, _, t =>
    let onward (origin : Origin) (inner : Table) : Option Table :=
      if path.isEmpty && origin ≠ .dotted then none
      else Table.assign key item path origin inner
    match t.get? part with
    | none => (onward .dotted []).map fun inner => t.put part (.table .dotted inner)
    | some (.table origin inner) =>
      if origin = .dotted || origin = .implied then
        (onward origin inner).map fun inner => t.put part (.table origin inner)
      else none
    | some (.tables items) =>
      (updateLast (onward .header) items).map fun items => t.put part (.tables items)
    | some _ => none

/-- Like `assign`, between braces. -/
def Table.assignInline (key : String) (item : Item) : List String → Table → Option Table
  | [], t => t.define key item
  | part :: path, t =>
    match t.get? part with
    | none =>
      (Table.assignInline key item path []).map fun inner => t.put part (.table .inlineDotted inner)
    | some (.table .inlineDotted inner) =>
      (Table.assignInline key item path inner).map fun inner =>
        t.put part (.table .inlineDotted inner)
    | some _ => none

/-- Opens the table of a header, given the names before the last and the last. -/
def Table.openTable (t : Table) (path : List String) (key : String) : Option Table :=
  t.within (fun parent =>
    match parent.get? key with
    | none => some (parent.put key (.table .header []))
    | some (.table .implied inner) => some (parent.put key (.table .header inner))
    | some _ => none) path

/-- Opens one more of the tables under a header in double brackets. -/
def Table.openTables (t : Table) (path : List String) (key : String) : Option Table :=
  t.within (fun parent =>
    match parent.get? key with
    | none => some (parent.put key (.tables [[]]))
    | some (.tables items) => some (parent.put key (.tables (items ++ [[]])))
    | some _ => none) path

end HostRegistry.Toml
