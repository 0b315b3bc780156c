import DocFilter.Entries

set_option autoImplicit false

namespace DocFilter.Toml

/-- How a table came to be, which decides what may be added to it later. -/
inductive Origin where
  /-- By a header of its own. -/
  | header
  /-- As a part of a longer header. -/
  | implied
  /-- As a part of a dotted key. -/
  | dotted
  /-- Between braces; nothing may be added. -/
  | inline
  deriving DecidableEq

inductive Item where
  | string (text : String)
  | integer (value : Int)
  /-- A number with a fraction or an exponent, or one that is not finite. -/
  | float
  | bool (truth : Bool)
  | datetime
  | array (items : List Item)
  | table (origin : Origin) (entries : List (String × Item))
  /-- The tables of an array of tables, the latest first. -/
  | tables (elements : List (List (String × Item)))
  deriving Inhabited

structure Table where
  origin : Origin
  entries : List (String × Item)

namespace Table

def empty (origin : Origin) : Table := ⟨origin, []⟩

def put (table : Table) (key : String) (item : Item) : Table :=
  ⟨table.origin, Entries.insert key item table.entries⟩

/-- Changes the table at the end of a path. Tables that are missing on the way are made. The way
leads into the latest table of an array of tables. A path of a dotted key may not lead through a
table that has a header of its own. -/
def alter (fresh : Origin) (change : Table → Option Table) :
    List String → Table → Option Table
  | [], table => change table
  | key :: rest, table =>
      match Entries.lookup key table.entries with
      | none =>
          (alter fresh change rest (empty fresh)).map fun inner =>
            table.put key (.table inner.origin inner.entries)
      | some (.table origin entries) =>
          if origin = .inline ∨ (fresh = .dotted ∧ origin = .header) then none
          else (alter fresh change rest ⟨origin, entries⟩).map fun inner =>
            table.put key (.table inner.origin inner.entries)
      | some (.tables (latest :: earlier)) =>
          (alter fresh change rest ⟨.header, latest⟩).map fun inner =>
            table.put key (.tables (inner.entries :: earlier))
      | some _ => none

/-- Gives a key its value. A key has one value, and a dotted key ends in a table of dotted keys. -/
def assign (path : List String) (key : String) (item : Item) (table : Table) : Option Table :=
  alter .dotted (fun inner =>
    if decide (inner.origin = .dotted) = path.isEmpty then none
    else if (Entries.lookup key inner.entries).isSome then none
    else some (inner.put key item)) path table

/-- Opens the table of a header. It may exist only as a part of longer headers. -/
def openTable (path : List String) (key : String) (table : Table) : Option Table :=
  alter .implied (fun inner =>
    match Entries.lookup key inner.entries with
    | none => some (inner.put key (.table .header []))
    | some (.table .implied entries) => some (inner.put key (.table .header entries))
    | some _ => none) path table

def openElement (path : List String) (key : String) (table : Table) : Option Table :=
  alter .implied (fun inner =>
    match Entries.lookup key inner.entries with
    | none => some (inner.put key (.tables [[]]))
    | some (.tables elements) => some (inner.put key (.tables ([] :: elements)))
    | some _ => none) path table

end Table

/-- A line of a document. The last key of a path stands apart from the others. -/
inductive Statement where
  | header (path : List String) (key : String)
  | elementHeader (path : List String) (key : String)
  | assignment (path : List String) (key : String) (item : Item)

def build (current : List String) (root : Table) : List Statement → Option Table
  | [] => some root
  | .header path key :: rest =>
      (root.openTable path key).bind fun root => build (path ++ [key]) root rest
  | .elementHeader path key :: rest =>
      (root.openElement path key).bind fun root => build (path ++ [key]) root rest
  | .assignment path key item :: rest =>
      (Table.alter .implied (Table.assign path key item) current root).bind fun root =>
        build current root rest

end DocFilter.Toml
