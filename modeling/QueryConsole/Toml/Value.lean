/-!
# TOML values

## Main definitions

- `Toml.Value`: a value of a TOML document
- `Toml.Entries`: the keys of a table and their values
- `Toml.Value.entry`: what a value holds under a key or, if it is a list, at a position
-/

namespace QueryConsole

namespace Toml

/-- A value of a TOML document. Of floating-point numbers, dates and times only the kind is kept:
no setting takes one. -/
inductive Value
  | text (s : String)
  | integer (n : Int)
  | float
  | boolean (b : Bool)
  /-- a date, a time of day, or both -/
  | moment
  | list (items : List Value)
  | table (entries : List (String × Value))
  deriving Repr

/-- The keys of a table and their values. -/
abbrev Entries := List (String × Value)

/-- What a value holds for the field of a record. A table is asked for the name of the field and a
list for its position; a moment is a record that lacks every field. Nothing else is a record. -/
def Value.field (v : Value) (position : Nat) (name : String) : Option (Option Value) :=
  match v with
  | .table entries => some (entries.lookup name)
  | .list items => some items[position]?
  | .moment => some none
  | _ => none

end Toml

end QueryConsole
