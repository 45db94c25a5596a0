import QueryConsole.Error
import QueryConsole.Text.Blank

/-!
# Tabs of the console

## Main definitions

- `Tab`: the tabs
- `Tab.parse`: the tab that an operator names
-/

namespace QueryConsole

/-- The tabs of the console. -/
inductive Tab
  | query
  | schema
  | live
  deriving DecidableEq, Repr, Inhabited

/-- The tab of a name. Outer white space and the case of ASCII letters do not matter; the schema tab
has two names. -/
def Tab.parse (name : String) : Except Error Tab :=
  let word := Text.lower (Text.trim name)
  if word = "query" then .ok .query
  else if word = "schema" ∨ word = "graph" then .ok .schema
  else if word = "live" then .ok .live
  else .error (.invalidInput s!"unknown tab '{word}'")

end QueryConsole
