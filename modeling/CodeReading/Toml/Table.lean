import CodeReading.Toml.Basic

set_option autoImplicit false

/-!
# Assembling tables

Keys and headers are paths. Passing through a table that is not there makes it; what a path meets on
its way decides whether it may go on. No key is set twice.
-/
namespace CodeReading.Toml

def setEntry (key : String) (value : Value) : Entries → Entries
  | [] => [(key, value)]
  | (other, old) :: entries =>
    if other = key then (key, value) :: entries else (other, old) :: setEntry key value entries

/-- The table at the end of a path changed by `change`, which sees its origin. A dotted key may not
    pass through a table that has a header of its own; nothing passes through an inlined table, and
    a repeated table is entered at its last element. -/
def changeAt (byKey : Bool) (change : Origin → Entries → Option Entries) :
    List String → Origin → Entries → Option Entries
  | [], origin, entries => change origin entries
  | key :: path, _, entries =>
    match entries.lookup key with
    | none =>
      let origin := if byKey then .dotted else .implied
      (changeAt byKey change path origin []).map fun child =>
        setEntry key (.table origin child) entries
    | some (.table origin child) =>
      if origin = .inlined ∨ (byKey ∧ origin = .header) then none
      else
        (changeAt byKey change path origin child).map fun child =>
          setEntry key (.table origin child) entries
    | some (.tables items) =>
      match items.getLast? with
      | some (.table origin child) =>
        (changeAt byKey change path origin child).map fun child =>
          setEntry key (.tables (items.dropLast ++ [.table origin child])) entries
      | _ => none
    | some _ => none

structure Binding where
  path : List String
  key : String
  value : Value

/-- A table with one more binding. The table that a dotted key ends in must be made by dotted keys
    only. -/
def bindEntry (entries : Entries) (binding : Binding) : Option Entries :=
  changeAt true
    (fun origin entries =>
      if (binding.path ≠ [] ∧ origin ≠ .dotted) ∨ (entries.lookup binding.key).isSome then none
      else some (entries ++ [(binding.key, binding.value)]))
    binding.path .header entries

def bindAll (entries : Entries) (bindings : List Binding) : Option Entries :=
  bindings.foldlM bindEntry entries

structure Section where
  path : List String
  key : String
  repeated : Bool
  bindings : List Binding

def addSection (root : Entries) (part : Section) : Option Entries :=
  changeAt false
    (fun _ entries =>
      match entries.lookup part.key, part.repeated with
      | none, false =>
        (bindAll [] part.bindings).map fun table => setEntry part.key (.table .header table) entries
      | some (.table .implied table), false =>
        (bindAll table part.bindings).map fun table =>
          setEntry part.key (.table .header table) entries
      | none, true =>
        (bindAll [] part.bindings).map fun table =>
          setEntry part.key (.tables [.table .header table]) entries
      | some (.tables items), true =>
        (bindAll [] part.bindings).map fun table =>
          setEntry part.key (.tables (items ++ [.table .header table])) entries
      | _, _ => none)
    part.path .header root

def assemble (bindings : List Binding) (sections : List Section) : Option Entries :=
  (bindAll [] bindings).bind fun root => sections.foldlM addSection root

end CodeReading.Toml
