import HubPublisher.Toml.Value

/-!
Building tables from keys and headers.

A table comes into being by its own header, by the header of a table inside it, or by a dotted key.
Which of these it was decides what may be added to it later: a header may complete a table that
only other headers implied, and a dotted key may reach into tables that only dotted keys made.
-/
namespace HubPublisher.Toml

/-- How a table came into being. -/
inductive Origin where
  /-- By its own header, or as the document. -/
  | header
  /-- By the header of a table inside it. -/
  | implied
  /-- By a dotted key. -/
  | dotted
  deriving DecidableEq

/-- What a key of an unfinished table holds. -/
inductive Item where
  | value (v : Value)
  | table (origin : Origin) (entries : List (String × Item))
  /-- Tables under one header in double brackets, the newest first. -/
  | tables (newestFirst : List (List (String × Item)))

abbrev Items := List (String × Item)

/-- A table together with how it came into being. -/
abbrev Section := Origin × Items

/-- Goes down a path of keys and changes the table at its end. Missing tables are made on the way;
under a header in double brackets the way leads into the newest table. -/
def changeAt (made : Origin) (change : Section → Option Section) :
    List String → Section → Option Section
  | [], s => change s
  | key :: path, (origin, items) =>
    match items.lookup key with
    | none =>
      (changeAt made change path (made, [])).map fun t =>
        (origin, insertEntry key (.table t.1 t.2) items)
    | some (.table o inner) =>
      if made = .dotted ∧ o = .header then none
      else (changeAt made change path (o, inner)).map fun t =>
        (origin, insertEntry key (.table t.1 t.2) items)
    | some (.tables (newest :: older)) =>
      (changeAt made change path (.header, newest)).map fun t =>
        (origin, insertEntry key (.tables (t.2 :: older)) items)
    | some _ => none

/-- Puts a value under a dotted key. The last table on the way has to be one that a dotted key
made, or the table itself if the key has one part. -/
def addValue (path : List String) (key : String) (v : Value) : Section → Option Section :=
  changeAt .dotted (fun (origin, items) =>
    if (origin == .dotted) == path.isEmpty then none
    else if (items.lookup key).isSome then none
    else some (origin, insertEntry key (.value v) items)) path

/-- Opens the table of a header. -/
def openTable (path : List String) (key : String) : Section → Option Section :=
  changeAt .implied (fun (origin, items) =>
    match items.lookup key with
    | none => some (origin, insertEntry key (.table .header []) items)
    | some (.table .implied inner) => some (origin, insertEntry key (.table .header inner) items)
    | some _ => none) path

/-- Opens one more table of a header in double brackets. -/
def openTables (path : List String) (key : String) : Section → Option Section :=
  changeAt .implied (fun (origin, items) =>
    match items.lookup key with
    | none => some (origin, insertEntry key (.tables [[]]) items)
    | some (.tables ts) => some (origin, insertEntry key (.tables ([] :: ts)) items)
    | some _ => none) path

mutual
/-- The value that a finished item is. -/
def Item.finish : Item → Value
  | .value v => v
  | .table _ entries => .table (finishEntries entries)
  | .tables newestFirst => .array (finishTables newestFirst).reverse
def finishEntries : Items → List (String × Value)
  | [] => []
  | (key, item) :: rest => (key, item.finish) :: finishEntries rest
def finishTables : List Items → List Value
  | [] => []
  | t :: rest => .table (finishEntries t) :: finishTables rest
end

end HubPublisher.Toml
