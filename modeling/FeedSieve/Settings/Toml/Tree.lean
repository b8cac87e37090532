import FeedSieve.Settings.Toml.Error
import FeedSieve.Value

/-!
# Nested tables

Tables hold entries in the order in which they are first named. A path leads through tables, and through
the last table of a list of tables; tables that are missing on the way are created.
-/
namespace FeedSieve.Settings.Toml

abbrev Entries := List (String × Value)

namespace Entries

def get? (entries : Entries) (name : String) : Option Value := (entries.find? (·.1 == name)).map (·.2)

/-- Gives a name a value. A new name goes to the end. -/
def set (entries : Entries) (name : String) (value : Value) : Entries :=
  match entries with
  | [] => [(name, value)]
  | (key, old) :: rest =>
    if key = name then (key, value) :: rest else (key, old) :: set rest name value

/-- Changes the table at a path. With `intoLists`, a list of tables stands for its last one. -/
def change (intoLists : Bool) (edit : Entries → Except Cause Entries) :
    Key → Entries → Except Cause Entries
  | [], entries => edit entries
  | name :: path, entries =>
    match entries.get? name with
    | none => return entries.set name (.table (← change intoLists edit path []))
    | some (.table inner) => return entries.set name (.table (← change intoLists edit path inner))
    | some (.list items) =>
      match intoLists, items.getLast? with
      | true, some (.table inner) => do
        let inner ← change intoLists edit path inner
        return entries.set name (.list (items.dropLast ++ [.table inner]))
      | _, _ => .error .overwritten
    | some _ => .error .overwritten

/-- Adds an entry, refused with a cause if the name is taken. -/
def addNew (name : String) (value : Value) (taken : Cause) (entries : Entries) :
    Except Cause Entries :=
  if (entries.get? name).isSome then .error taken else .ok (entries ++ [(name, value)])

def openTable (path : Key) (entries : Entries) : Except Cause Entries :=
  entries.change true .ok path

/-- Adds an empty table to the list of tables under a name. -/
def appendTable (name : String) (entries : Entries) : Except Cause Entries :=
  match entries.get? name with
  | none => .ok (entries ++ [(name, .list [.table []])])
  | some (.list items) => .ok (entries.set name (.list (items ++ [.table []])))
  | some _ => .error .overwritten

end Entries

/-- The tables that may not be opened again: those declared by name, and those that are sealed with all
they hold. Tables that dotted keys create are declared from the next heading on. -/
structure Marks where
  declared : List Key
  sealedKeys : List Key
  pending : List Key

namespace Marks

def empty : Marks := ⟨[], [], []⟩

def isDeclared (m : Marks) (key : Key) : Bool := m.declared.contains key

/-- Whether a table lies in something sealed. -/
def isSealed (m : Marks) (key : Key) : Bool := m.sealedKeys.any (·.isPrefixOf key)

def declare (m : Marks) (key : Key) : Marks := { m with declared := key :: m.declared }

/-- Seals a value. -/
def sealKey (m : Marks) (key : Key) : Marks := { m with sealedKeys := key :: m.sealedKeys }

/-- Declares a table from the next heading on. -/
def declareLater (m : Marks) (key : Key) : Marks := { m with pending := key :: m.pending }

/-- Declares what waited for a heading. -/
def atHeading (m : Marks) : Marks := { m with declared := m.pending ++ m.declared, pending := [] }

/-- Forgets the marks on a table and on all it holds. -/
def forget (m : Marks) (key : Key) : Marks :=
  { m with
    declared := m.declared.filter (!key.isPrefixOf ·)
    sealedKeys := m.sealedKeys.filter (!key.isPrefixOf ·) }

end Marks

end FeedSieve.Settings.Toml
