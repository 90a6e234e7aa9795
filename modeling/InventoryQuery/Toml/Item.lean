/-!
# TOML tables

The values that a TOML text describes and how its lines add up to tables. Each table remembers how
it came about, because that decides what may still be added to it: a table that was opened by a
header or written inline is complete, one that exists only because a longer name mentions it is
not, and a dotted key adds to tables that dotted keys have made.
-/

namespace InventoryQuery.Toml

/-- How a table came about. -/
inductive Origin where
  /-- It was opened by a header of its own. -/
  | header
  /-- A longer header mentions it. -/
  | mentioned
  /-- A dotted key mentions it. -/
  | dotted
  /-- It was written in braces. -/
  | inline
  deriving DecidableEq, Repr

/-- A value. Numbers with a fraction and points in time are kept as they are written. -/
inductive Item where
  | string (value : String)
  | integer (value : Int)
  | boolean (value : Bool)
  | float (literal : String)
  | moment (literal : String)
  | array (items : List Item)
  | table (origin : Origin) (entries : List (String × Item))
  /-- Tables that are opened one after the other by headers in double brackets. -/
  | tables (elements : List (List (String × Item)))
  deriving Inhabited, Repr

/-- The entries of a table in the order in which they were added. -/
abbrev Entries := List (String × Item)

namespace Entries

/-- The item at a key. -/
def find? (key : String) : Entries → Option Item
  | [] => none
  | (k, item) :: rest => if k = key then some item else find? key rest

/-- The entries with the item at a key replaced, or added at the end. -/
def set (key : String) (item : Item) : Entries → Entries
  | [] => [(key, item)]
  | (k, old) :: rest => if k = key then (k, item) :: rest else (k, old) :: set key item rest

/-- Add an item under a dotted key, whose last part must be new. Every table on the way has to be
one that dotted keys may add to. -/
def insertDotted (key : String) (item : Item) : List String → Entries → Option Entries
  | [], entries => if (find? key entries).isSome then none else some (entries ++ [(key, item)])
  | part :: path, entries =>
    match find? part entries with
    | none => (insertDotted key item path []).map (fun sub => entries ++ [(part, .table .dotted sub)])
    | some (.table .dotted sub) =>
      (insertDotted key item path sub).map (fun sub => set part (.table .dotted sub) entries)
    | some (.table .mentioned sub) =>
      if path.isEmpty then none
      else (insertDotted key item path sub).map (fun sub => set part (.table .mentioned sub) entries)
    | some _ => none

/-- Change the last table of several. -/
def onLast (change : Entries → Option Entries) : List Entries → Option (List Entries)
  | [] => none
  | [last] => (change last).map (fun last => [last])
  | element :: elements => (onLast change elements).map (element :: ·)

/-- Change the table at a path. A missing table on the way comes about by being mentioned; a value
or an inline table is in the way. -/
def within (change : Entries → Option Entries) : List String → Entries → Option Entries
  | [], entries => change entries
  | part :: path, entries =>
    match find? part entries with
    | none => (within change path []).map (fun sub => entries ++ [(part, .table .mentioned sub)])
    | some (.table .inline _) => none
    | some (.table origin sub) =>
      (within change path sub).map (fun sub => set part (.table origin sub) entries)
    | some (.tables elements) =>
      (onLast (within change path) elements).map
        (fun elements => set part (.tables elements) entries)
    | some _ => none

/-- Open a table by a header. It must be new, or so far only mentioned by longer headers. -/
def openTable (key : String) (entries : Entries) : Option Entries :=
  match find? key entries with
  | none => some (entries ++ [(key, .table .header [])])
  | some (.table .mentioned sub) => some (set key (.table .header sub) entries)
  | some _ => none

/-- Open one more of several tables with the same header. -/
def openElement (key : String) (entries : Entries) : Option Entries :=
  match find? key entries with
  | none => some (entries ++ [(key, .tables [[]])])
  | some (.tables elements) => some (set key (.tables (elements ++ [[]])) entries)
  | some _ => none

end Entries

/-- A key: the tables that it mentions and its last part. -/
structure Key where
  path : List String
  last : String
  deriving DecidableEq, Repr

/-- All parts of a key. -/
def Key.parts (key : Key) : List String := key.path ++ [key.last]

/-- What a line says. -/
inductive Statement where
  | header (key : Key)
  | element (key : Key)
  | pair (key : Key) (item : Item)
  deriving Repr

/-- What the lines read so far add up to, and the table that the next line adds to. -/
structure Document where
  root : Entries := []
  current : List String := []
  deriving Repr

/-- Take in one more line. -/
def Document.add (document : Document) : Statement → Option Document
  | .header key =>
    (Entries.within (Entries.openTable key.last) key.path document.root).map
      (fun root => ⟨root, key.parts⟩)
  | .element key =>
    (Entries.within (Entries.openElement key.last) key.path document.root).map
      (fun root => ⟨root, key.parts⟩)
  | .pair key item =>
    (Entries.within (Entries.insertDotted key.last item key.path) document.current
        document.root).map
      (fun root => { document with root })

/-- The table that some lines add up to. -/
def entriesOf (statements : List Statement) : Option Entries :=
  (statements.foldlM Document.add {}).map Document.root

/-- The table of the pairs between braces. -/
def inlineTable? (pairs : List (Key × Item)) : Option Item :=
  (pairs.foldlM
    (fun entries (pair : Key × Item) =>
      Entries.insertDotted pair.1.last pair.2 pair.1.path entries)
    []).map (Item.table .inline)

end InventoryQuery.Toml
