import QueryConsole.Json.Lexeme

/-!
# The grammar of JSON

One machine reads every JSON text; what it makes of the lexemes is left to a `Reading`. The machine
works on the bytes and a stack of the lists and objects that are still open, and takes one lexeme at
a time, so a reading accepts a text when each of its lexemes and every nesting is accepted.

## Main definitions

- `Json.Reading`: what is made of the lexemes, and how deep values may be nested
- `Json.Reading.step`: one lexeme
- `Json.Reading.read`: a whole text
-/

namespace QueryConsole

namespace Json

/-- What is made of the lexemes of a JSON text: `ν` stands for values and `τ` for texts. -/
structure Reading (ν τ : Type) where
  /-- how many lists and objects may be open at once -/
  depth : Option Nat
  /-- reads a text after its opening quote -/
  text : List UInt8 → Except Fault (τ × List UInt8)
  /-- the value of a numeral, if it has one -/
  number : Numeral → Option ν
  null : ν
  bool : Bool → ν
  ofText : τ → ν
  list : List ν → ν
  /-- the value of an object's members, if they make one -/
  object : List (τ × ν) → Option ν

/-- A list or object that is still open, its entries last first. -/
inductive Frame (ν τ : Type)
  /-- a list -/
  | list (items : List ν)
  /-- an object between members -/
  | object (members : List (τ × ν))
  /-- an object that waits for the value of a key -/
  | member (members : List (τ × ν)) (key : τ)

/-- What may come next. -/
inductive Want
  /-- a value -/
  | value
  /-- a value or the end of the list just opened -/
  | first
  /-- a key -/
  | key
  /-- a key or the end of the object just opened -/
  | firstKey
  /-- a comma or the end of the innermost open list or object -/
  | more
  deriving DecidableEq, Repr

/-- A text that is being read: what may come next, what is open, and the bytes left. -/
structure Reader (ν τ : Type) where
  want : Want
  stack : List (Frame ν τ)
  rest : List UInt8

/-- What one lexeme leads to. -/
inductive Progress (ν τ : Type)
  | done (value : ν) (rest : List UInt8)
  | reading (next : Reader ν τ)

namespace Reading

variable {ν τ : Type}

/-- A value has been read. -/
def finish (value : ν) (stack : List (Frame ν τ)) (rest : List UInt8) :
    Except Fault (Progress ν τ) :=
  match stack with
  | [] => .ok (.done value rest)
  | .list items :: stack => .ok (.reading ⟨.more, .list (value :: items) :: stack, rest⟩)
  | .member members key :: stack =>
    .ok (.reading ⟨.more, .object ((key, value) :: members) :: stack, rest⟩)
  | .object _ :: _ => .error (.behind .keyNotText rest)

/-- A list or object has been opened. -/
def enter (r : Reading ν τ) (want : Want) (frame : Frame ν τ) (stack : List (Frame ν τ))
    (rest : List UInt8) : Except Fault (Progress ν τ) :=
  if r.depth.any (· ≤ stack.length) then .error (.behind .nesting rest)
  else .ok (.reading ⟨want, frame :: stack, rest⟩)

/-- The innermost list or object has been closed. -/
def leave (r : Reading ν τ) (stack : List (Frame ν τ)) (rest : List UInt8) :
    Except Fault (Progress ν τ) :=
  match stack with
  | .list items :: stack => finish (r.list items.reverse) stack rest
  | .object members :: stack =>
    match r.object members.reverse with
    | some value => finish value stack rest
    | none => .error (.behind .embedding rest)
  | _ => .error (.behind .expectedValue rest)

/-- Reads a value or opens one. -/
def stepValue (r : Reading ν τ) (stack : List (Frame ν τ)) (bytes : List UInt8) :
    Except Fault (Progress ν τ) :=
  match bytes with
  | [] => .error (.ahead .endInValue [])
  | b :: rest =>
    if b = 0x6E then do finish r.null stack (← word [0x75, 0x6C, 0x6C] rest)
    else if b = 0x74 then do finish (r.bool true) stack (← word [0x72, 0x75, 0x65] rest)
    else if b = 0x66 then do finish (r.bool false) stack (← word [0x61, 0x6C, 0x73, 0x65] rest)
    else if b = 0x2D ∨ isDigit b then do
      let (n, rest) ← numeral (b :: rest)
      match r.number n with
      | some value => finish value stack rest
      | none => .error (.behind .range rest)
    else if b = 0x22 then do
      let (t, rest) ← r.text rest
      finish (r.ofText t) stack rest
    else if b = 0x5B then r.enter .first (.list []) stack rest
    else if b = 0x7B then r.enter .firstKey (.object []) stack rest
    else .error (.ahead .expectedValue bytes)

/-- Reads a key and its colon. -/
def stepKey (r : Reading ν τ) (stack : List (Frame ν τ)) (bytes : List UInt8) :
    Except Fault (Progress ν τ) :=
  match bytes, stack with
  | [], _ => .error (.ahead .endInObject [])
  | b :: rest, .object members :: stack =>
    if b = 0x22 then do
      let (key, rest) ← r.text rest
      match skipBlank rest with
      | [] => .error (.ahead .endInObject [])
      | c :: rest =>
        if c = 0x3A then .ok (.reading ⟨.value, .member members key :: stack, rest⟩)
        else .error (.ahead .expectedColon (c :: rest))
    else .error (.ahead .keyNotText bytes)
  | _ :: _, _ => .error (.ahead .keyNotText bytes)

/-- Reads a comma or closes the innermost list or object. -/
def stepMore (r : Reading ν τ) (stack : List (Frame ν τ)) (bytes : List UInt8) :
    Except Fault (Progress ν τ) :=
  match stack, bytes with
  | .list _ :: _, [] => .error (.ahead .endInList [])
  | .list _ :: _, b :: rest =>
    if b = 0x2C then .ok (.reading ⟨.value, stack, rest⟩)
    else if b = 0x5D then r.leave stack rest
    else .error (.ahead .expectedCommaOrListEnd bytes)
  | _, [] => .error (.ahead .endInObject [])
  | _, b :: rest =>
    if b = 0x2C then .ok (.reading ⟨.key, stack, rest⟩)
    else if b = 0x7D then r.leave stack rest
    else .error (.ahead .expectedCommaOrObjectEnd bytes)

/-- Reads one lexeme. -/
def step (r : Reading ν τ) (s : Reader ν τ) : Except Fault (Progress ν τ) :=
  let bytes := skipBlank s.rest
  match s.want, bytes with
  | .value, _ => r.stepValue s.stack bytes
  | .first, [] => .error (.ahead .endInList [])
  | .first, b :: rest => if b = 0x5D then r.leave s.stack rest else r.stepValue s.stack bytes
  | .key, _ => r.stepKey s.stack bytes
  | .firstKey, [] => .error (.ahead .endInObject [])
  | .firstKey, b :: rest => if b = 0x7D then r.leave s.stack rest else r.stepKey s.stack bytes
  | .more, _ => r.stepMore s.stack bytes

/-- Reads lexemes until a value outside all lists and objects is complete, at most `fuel` of
them. -/
def run (r : Reading ν τ) : Nat → Reader ν τ → Except Fault (ν × List UInt8)
  | 0, s => .error (.behind .endInValue s.rest)
  | fuel + 1, s => do
    match ← r.step s with
    | .done value rest => .ok (value, rest)
    | .reading next => r.run fuel next

/-- Reads a whole text: one value, and nothing but blanks after it. Each lexeme takes at least one
byte, so there are no more of them than bytes. -/
def read (r : Reading ν τ) (bytes : List UInt8) : Except Fault ν := do
  let (value, rest) ← r.run (bytes.length + 1) ⟨.value, [], bytes⟩
  match skipBlank rest with
  | [] => .ok value
  | b :: rest => .error (.ahead .trailing (b :: rest))

end Reading

end Json

end QueryConsole
