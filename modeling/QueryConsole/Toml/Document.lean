import QueryConsole.Toml.Number

/-!
# TOML documents

A document is a list of lines: headers, which say what table the lines below them belong to, and
assignments. Both name tables by paths of keys. A table that a path only passes through may still
get a header of its own, but no table is defined twice, and dotted keys add only to tables that
dotted keys have made.

## Main definitions

- `Toml.keys`: a path of keys
- `Toml.value`: a value, within a limit of values inside one another
- `Toml.Node`: a table while lines are still added to it
- `Toml.assign`, `Toml.openTable`, `Toml.openEntry`: what a line does
- `Toml.parse`: the table that a document is
-/

namespace QueryConsole

namespace Toml

/-! ### Keys -/

/-- The characters of a key without quotes. -/
def isKeyChar (c : Char) : Bool :=
  c.isAlphanum || c == '-' || c == '_'

/-- One key. -/
def key (cs : List Char) : Option (String × List Char) :=
  match cs with
  | '"' :: rest => basic rest
  | '\'' :: rest => literal rest
  | _ =>
    if (cs.takeWhile isKeyChar).isEmpty then none
    else some (String.ofList (cs.takeWhile isKeyChar), cs.dropWhile isKeyChar)

/-- At most so many keys with dots between them. -/
def keysWithin : Nat → List Char → Option (List String × List Char)
  | 0, _ => none
  | n + 1, cs => do
    let (k, rest) ← key (skipSpace cs)
    match skipSpace rest with
    | '.' :: rest =>
      let (ks, rest) ← keysWithin n rest
      return (k :: ks, rest)
    | rest => return ([k], rest)

/-- How many keys a path may have, and how many lists and tables may lie inside one another. -/
def limit : Nat := 79

/-- A path of keys. -/
def keys (cs : List Char) : Option (List String × List Char) := keysWithin limit cs

/-! ### Tables under construction -/

/-- How a table came to be. -/
inductive Standing
  /-- it has a header of its own -/
  | header
  /-- the path of a header passed through it -/
  | passed
  /-- dotted keys made it -/
  | dotted
  deriving DecidableEq, Repr

/-- What a key stands for while lines are still added. -/
inductive Node
  | value (v : Value)
  | table (standing : Standing) (entries : List (String × Node))
  /-- the tables under headers in double brackets, last first -/
  | tables (items : List (List (String × Node)))
  deriving Repr

/-- The entries of a table under construction. -/
abbrev Nodes := List (String × Node)

/-- Give a key another meaning. -/
def replace (key : String) (node : Node) (entries : Nodes) : Nodes :=
  entries.map fun e => if e.1 = key then (key, node) else e

/-- Assign a value to a path of keys. Only a fresh table takes a key directly: the one under the
last header, and those that dotted keys made. -/
def assign (v : Value) (fresh : Bool) : List String → Nodes → Option Nodes
  | [], _ => none
  | [k], entries =>
    if fresh ∧ (entries.lookup k).isNone then some (entries ++ [(k, .value v)]) else none
  | k :: k' :: path, entries =>
    match entries.lookup k with
    | none => do return entries ++ [(k, .table .dotted (← assign v true (k' :: path) []))]
    | some (.value _) => none
    | some (.table .header _) => none
    | some (.table standing inner) => do
      let inner ← assign v (standing = .dotted) (k' :: path) inner
      return replace k (.table standing inner) entries
    | some (.tables []) => none
    | some (.tables (last :: before)) => do
      return replace k (.tables ((← assign v false (k' :: path) last) :: before)) entries

/-- Change the table that a path leads to. Of several tables under one header the last one is
meant, and what is missing on the way is made. -/
def within (change : Nodes → Option Nodes) : List String → Nodes → Option Nodes
  | [], entries => change entries
  | k :: path, entries =>
    match entries.lookup k with
    | none => do return entries ++ [(k, .table .passed (← within change path []))]
    | some (.value _) => none
    | some (.table standing inner) => do
      return replace k (.table standing (← within change path inner)) entries
    | some (.tables []) => none
    | some (.tables (last :: before)) => do
      return replace k (.tables ((← within change path last) :: before)) entries

/-- Give a table its header. -/
def openTable (k : String) (entries : Nodes) : Option Nodes :=
  match entries.lookup k with
  | none => some (entries ++ [(k, .table .header [])])
  | some (.table .passed inner) => some (replace k (.table .header inner) entries)
  | _ => none

/-- Begin a further table under a header in double brackets. -/
def openEntry (k : String) (entries : Nodes) : Option Nodes :=
  match entries.lookup k with
  | none => some (entries ++ [(k, .tables [[]])])
  | some (.tables items) => some (replace k (.tables ([] :: items)) entries)
  | _ => none

mutual

/-- A finished value. -/
def Node.toValue : Node → Value
  | .value v => v
  | .table _ entries => .table (finish entries)
  | .tables items => .list (finishAll [] items)

/-- A finished table. -/
def finish : List (String × Node) → Entries
  | [] => []
  | (k, n) :: rest => (k, n.toValue) :: finish rest

/-- Finished tables, put in front of others in reverse. -/
def finishAll (done : List Value) : List (List (String × Node)) → List Value
  | [] => done
  | entries :: rest => finishAll (.table (finish entries) :: done) rest

end

/-! ### Values -/

/-- A value of one word or text. -/
def word (cs : List Char) : Option (Value × List Char) :=
  match cs with
  | '"' :: '"' :: '"' :: rest => (basicLines rest).map fun (s, rest) => (.text s, rest)
  | '"' :: rest => (basic rest).map fun (s, rest) => (.text s, rest)
  | '\'' :: '\'' :: '\'' :: rest => (literalLines rest).map fun (s, rest) => (.text s, rest)
  | '\'' :: rest => (literal rest).map fun (s, rest) => (.text s, rest)
  | 't' :: 'r' :: 'u' :: 'e' :: rest => some (.boolean true, rest)
  | 'f' :: 'a' :: 'l' :: 's' :: 'e' :: rest => some (.boolean false, rest)
  | _ => number cs

/-- The items of a list behind the opening bracket, at most so many. A comma may stand behind the
last one. -/
def items (item : List Char → Option (Value × List Char)) (done : List Value) :
    Nat → List Char → Option (Value × List Char)
  | 0, _ => none
  | n + 1, cs =>
    match skipLines false cs with
    | ']' :: rest => some (.list done.reverse, rest)
    | cs => do
      let (v, rest) ← item cs
      match skipLines false rest with
      | ',' :: rest => items item (v :: done) n rest
      | ']' :: rest => return (.list (v :: done).reverse, rest)
      | _ => none

/-- A path of keys, an equals sign and a value. -/
def assignment (item : List Char → Option (Value × List Char)) (cs : List Char) :
    Option (List String × Value × List Char) := do
  let (path, rest) ← keys cs
  let rest ← Text.expect '=' rest
  let (v, rest) ← item (skipSpace rest)
  return (path, v, rest)

/-- The assignments of a table in braces, at most so many, with commas between them. -/
def members (item : List Char → Option (Value × List Char)) (done : Nodes) :
    Nat → List Char → Option (Value × List Char)
  | 0, _ => none
  | n + 1, cs => do
    let (path, v, rest) ← assignment item cs
    let done ← assign v true path done
    match skipSpace rest with
    | ',' :: rest => members item done n rest
    | '\x7d' :: rest => return (.table (finish done), rest)
    | _ => none

/-- A value that has at most so many lists and tables inside one another. -/
def value : Nat → List Char → Option (Value × List Char)
  | 0, cs => word cs
  | depth + 1, cs =>
    match cs with
    | '[' :: rest => items (value depth) [] cs.length rest
    | '\x7b' :: rest =>
      match skipSpace rest with
      | '\x7d' :: rest => some (.table [], rest)
      | rest => members (value depth) [] cs.length rest
    | _ => word cs

/-! ### Lines -/

/-- A document as far as it was read: its table, and the path of the last header. -/
structure Draft where
  root : Nodes := []
  path : List String := []

/-- A header names a table by its path. -/
def Draft.header (d : Draft) (openIn : String → Nodes → Option Nodes) (path : List String) :
    Option Draft := do
  let last ← path.getLast?
  let root ← within (openIn last) path.dropLast d.root
  return ⟨root, path⟩

/-- One line. -/
def Draft.line (d : Draft) (cs : List Char) : Option (Draft × List Char) :=
  match cs with
  | '[' :: '[' :: rest => do
    let (path, rest) ← keys rest
    let rest ← lineEnd (← Text.expect ']' (← Text.expect ']' rest))
    return (← d.header openEntry path, rest)
  | '[' :: rest => do
    let (path, rest) ← keys rest
    let rest ← lineEnd (← Text.expect ']' rest)
    return (← d.header openTable path, rest)
  | _ =>
    match lineEnd cs with
    | some rest => some (d, rest)
    | none => do
      let (path, v, rest) ← assignment (value limit) cs
      let root ← within (assign v true path) d.path d.root
      return (⟨root, d.path⟩, ← lineEnd rest)

/-- At most so many lines, up to the end. -/
def Draft.lines (d : Draft) : Nat → List Char → Option Draft
  | 0, _ => none
  | n + 1, cs =>
    match skipSpace cs with
    | [] => some d
    | cs => do
      let (d, rest) ← d.line cs
      d.lines n rest

/-- What follows the byte-order mark that a document may begin with. -/
def skipMark : List Char → List Char
  | '\uFEFF' :: rest => rest
  | cs => cs

/-- The table that a document is, unless it is malformed. -/
def parse (s : String) : Option Entries :=
  (Draft.lines {} (s.length + 1) (skipMark s.toList)).map fun d => finish d.root

end Toml

end QueryConsole
