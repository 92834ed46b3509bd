import Decomment.Value

/-!
# Statements of the settings format

A text of settings is a list of statements: pairs of a key and a value, headers that open a table,
and headers that open the next element of a list of tables. `Document.ofStatements?` makes a table of
them, and `statements` gives the statements that make up a table.

A table is defined once. To see that, the table under construction (`Draft`) keeps track of how each
of its tables came about: by a header, as part of the path of a header, or as part of a dotted key.
-/

namespace Decomment.Toml

/-- A statement. -/
inductive Statement
  /-- A key, written as a path if it is dotted, and its value. -/
  | pair (path : List String) (value : Value)
  /-- The header of a table. -/
  | header (path : List String)
  /-- The header of the next element of a list of tables. -/
  | arrayHeader (path : List String)
deriving Repr, Inhabited

/-! ## From statements to a table -/

/-- How a table came about. -/
inductive Origin
  /-- By a header of its own, or as the whole text. -/
  | explicit
  /-- As part of the path of a header. -/
  | implied
  /-- As part of a dotted key. -/
  | dotted
deriving DecidableEq, Repr, Inhabited

/-- A tree under construction. -/
inductive Draft
  | leaf (value : Value)
  | table (origin : Origin) (entries : List (String × Draft))
  | tables (elements : List (List (String × Draft)))
deriving Inhabited

namespace Draft

/-- The entries of a table under construction. -/
abbrev Entries := List (String × Draft)

/-- Changes the entry with a key that is there. -/
def replace (entries : Entries) (key : String) (draft : Draft) : Entries :=
  entries.map fun entry => if entry.1 = key then (key, draft) else entry

/-- Changes the table at the end of a path by `change`, which also learns how it came about. Tables
that are not there are made; of a list of tables, the last element is meant. A path of a dotted key
does not lead through a table that has a header. -/
def update (byKey : Bool) (change : Origin → Entries → Option Entries) :
    (path : List String) → Origin → Entries → Option Entries
  | [], origin, entries => change origin entries
  | key :: path, _, entries =>
    match entries.lookup key with
    | none => do
      let origin := if byKey then Origin.dotted else Origin.implied
      let inner ← update byKey change path origin []
      some (entries ++ [(key, table origin inner)])
    | some (leaf _) => none
    | some (table origin inner) =>
      if byKey && origin == .explicit then none
      else do
        let inner ← update byKey change path origin inner
        some (replace entries key (table origin inner))
    | some (tables elements) =>
      match elements.getLast? with
      | none => none
      | some last => do
        let last ← update byKey change path .explicit last
        some (replace entries key (tables (elements.dropLast ++ [last])))

/-- Adds a pair to a table. A dotted key adds to tables that only dotted keys have made. -/
def addPair (path : List String) (value : Value) (origin : Origin) (entries : Entries) :
    Option Entries :=
  match path.getLast? with
  | none => none
  | some key =>
    update true (fun inner entries =>
      if (inner == .dotted) == path.dropLast.isEmpty then none
      else if (entries.lookup key).isSome then none
      else some (entries ++ [(key, leaf value)])) path.dropLast origin entries

/-- Opens a table by its header. -/
def openTable (path : List String) (root : Entries) : Option Entries :=
  match path.getLast? with
  | none => none
  | some key =>
    update false (fun _ entries =>
      match entries.lookup key with
      | none => some (entries ++ [(key, table .explicit [])])
      | some (table .implied inner) => some (replace entries key (table .explicit inner))
      | some _ => none) path.dropLast .explicit root

/-- Opens the next element of a list of tables by its header. -/
def openElement (path : List String) (root : Entries) : Option Entries :=
  match path.getLast? with
  | none => none
  | some key =>
    update false (fun _ entries =>
      match entries.lookup key with
      | none => some (entries ++ [(key, tables [[]])])
      | some (tables elements) => some (replace entries key (tables (elements ++ [[]])))
      | some _ => none) path.dropLast .explicit root

mutual

/-- The finished value. -/
def toValue : Draft → Value
  | leaf value => value
  | table _ entries => .table (toFields entries)
  | tables elements => .array (toElements elements)

/-- The finished fields of a table. -/
def toFields : Entries → Fields
  | [] => []
  | (key, draft) :: entries => (key, toValue draft) :: toFields entries

/-- The finished elements of a list of tables. -/
def toElements : List Entries → List Value
  | [] => []
  | entries :: elements => .table (toFields entries) :: toElements elements

end

end Draft

/-- A text of settings that was read up to some statement. -/
structure Document where
  /-- What the statements have made so far. -/
  root : Draft.Entries := []
  /-- The path of the table that pairs go to. -/
  current : List String := []
deriving Inhabited

namespace Document

/-- Carries out one statement. -/
def add (doc : Document) : Statement → Option Document
  | .pair path value => do
    let root ← Draft.update false (Draft.addPair path value) doc.current .explicit doc.root
    some { doc with root }
  | .header path => (Draft.openTable path doc.root).map (⟨·, path⟩)
  | .arrayHeader path => (Draft.openElement path doc.root).map (⟨·, path⟩)

/-- The table that statements make up. -/
def ofStatements? (statements : List Statement) : Option Fields :=
  (statements.foldlM add {}).map fun doc => Draft.toFields doc.root

end Document

/-- The table that the pairs of an inline table make up. -/
def inlineFields? (pairs : List (List String × Value)) : Option Fields :=
  (pairs.foldlM (fun entries (path, value) => Draft.addPair path value .explicit entries) []).map
    Draft.toFields

/-! ## From a table to statements -/

/-- Whether a value is a list that is written as a sequence of tables. -/
def isTableList : Value → Bool
  | .array (item :: items) => (item :: items).all fun
    | .table _ => true
    | _ => false
  | _ => false

/-- Whether a field is written as a pair: not as a table, not as a list of tables, and not at all if
it is nothing. -/
def isPlain : Value → Bool
  | .null => false
  | .table _ => false
  | value => !isTableList value

/-- The pairs of a table, which come before its inner tables. -/
def pairs (fields : Fields) : List Statement :=
  (fields.filter (isPlain ·.2)).map fun (key, value) => .pair [key] value

mutual

/-- The statements of the inner tables of a table at a path. -/
def innerStatements (path : List String) : Fields → List Statement
  | [] => []
  | (key, value) :: fields => fieldStatements (path ++ [key]) value ++ innerStatements path fields

/-- The statements of a field at a path, if it is a table or a list of tables. -/
def fieldStatements (path : List String) : Value → List Statement
  | .table fields => .header path :: (pairs fields ++ innerStatements path fields)
  | .array items => if isTableList (.array items) then elementStatements path items else []
  | _ => []

/-- The statements of a list of tables at a path. -/
def elementStatements (path : List String) : List Value → List Statement
  | [] => []
  | item :: items => elementStatement path item ++ elementStatements path items

/-- The statements of one table of a list of tables at a path. -/
def elementStatement (path : List String) : Value → List Statement
  | .table fields => .arrayHeader path :: (pairs fields ++ innerStatements path fields)
  | _ => []

end

/-- The statements that make up a table. -/
def statements (fields : Fields) : List Statement :=
  pairs fields ++ innerStatements [] fields

end Decomment.Toml
