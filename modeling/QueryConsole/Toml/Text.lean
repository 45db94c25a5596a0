import QueryConsole.Text.Digits

/-!
# Texts in TOML

Blanks, comments and line ends, and the four kinds of quoted text: basic or literal, on one line or
on several. A text on several lines begins behind a line end that directly follows its opening
quotes, its own line ends are line feeds however they are written, and up to two quotes may stand
before the three that close it.

## Main definitions

- `Toml.skipSpace`, `Toml.skipLines`: blanks, with and without line ends
- `Toml.lineEnd`: what may stand behind the last word of a line
- `Toml.basic`, `Toml.literal`, `Toml.basicLines`, `Toml.literalLines`: the quoted texts
-/

namespace QueryConsole

namespace Toml

/-- The blanks within a line. -/
def isSpace (c : Char) : Bool := c == ' ' || c == '\t'

/-- The characters that may stand in comments and literal texts: the tab, and all that are not
controls of ASCII. -/
def isPlain (c : Char) : Bool :=
  c == '\t' || (' ' ≤ c && c ≤ '~') || '\u0080' ≤ c

/-- What follows the blanks. -/
def skipSpace (cs : List Char) : List Char := cs.dropWhile isSpace

/-- What follows a line end. -/
def newline? : List Char → Option (List Char)
  | '\n' :: rest => some rest
  | '\r' :: '\n' :: rest => some rest
  | _ => none

/-- What follows a comment. -/
def skipComment : List Char → List Char
  | '#' :: rest => rest.dropWhile isPlain
  | cs => cs

/-- The end of a line: blanks and a comment, and then a line end or nothing more. -/
def lineEnd (cs : List Char) : Option (List Char) :=
  match skipComment (skipSpace cs) with
  | [] => some []
  | cs => newline? cs

/-- What follows blanks, line ends and comments. -/
def skipLines (inComment : Bool) : List Char → List Char
  | '\n' :: rest => skipLines false rest
  | '\r' :: '\n' :: rest => skipLines false rest
  | c :: rest =>
    if inComment && isPlain c then skipLines true rest
    else if !inComment && isSpace c then skipLines false rest
    else if !inComment && c == '#' then skipLines true rest
    else c :: rest
  | [] => []

/-- The character of a code point, unless it is a surrogate or too large. -/
def scalar? (n : Nat) : Option Char :=
  if n.isValidChar then some (Char.ofNat n) else none

/-- The character behind a backslash that stands for another one. -/
def escapeValue : Char → Option Char
  | 'b' => some '\x08'
  | 't' => some '\t'
  | 'n' => some '\n'
  | 'f' => some '\x0c'
  | 'r' => some '\r'
  | '"' => some '"'
  | '\\' => some '\\'
  | _ => none

/-- Where in a quoted text the reader stands. -/
inductive Place
  /-- between characters -/
  | plain
  /-- behind a backslash -/
  | escape
  /-- among the digits of a code point: how many are still to come, and the value so far -/
  | code (left value : Nat)
  /-- behind a backslash and blanks, before the line end -/
  | gap
  /-- behind a backslash and a line end, before the next character that is no blank -/
  | skip
  /-- inside a line end of two characters, which may be one that is skipped -/
  | carriage (skipped : Bool)
  /-- behind some quotes -/
  | quotes (count : Nat)
  deriving DecidableEq, Repr

/-- A further digit of a code point: the character it completes, and the place behind it. -/
def codeDigit (left value : Nat) (c : Char) : Option (List Char × Place) := do
  let value := value * 16 + (← Text.digitIn 16 c)
  if left ≤ 1 then return ([← scalar? value], .plain) else return ([], .code (left - 1) value)

/-- The character behind a backslash, in a text on one line. -/
def escaped (c : Char) : Option (List Char × Place) :=
  if c = 'u' then some ([], .code 4 0)
  else if c = 'U' then some ([], .code 8 0)
  else (escapeValue c).map fun d => ([d], .plain)

/-- The characters of a basic text behind its opening quote, and what follows its closing one. -/
def basicFrom (done : List Char) : Place → List Char → Option (List Char × List Char)
  | _, [] => none
  | .escape, c :: rest => do
    let (out, place) ← escaped c
    basicFrom (out ++ done) place rest
  | .code left value, c :: rest => do
    let (out, place) ← codeDigit left value c
    basicFrom (out ++ done) place rest
  | _, c :: rest =>
    if c = '"' then some (done.reverse, rest)
    else if c = '\\' then basicFrom done .escape rest
    else if isPlain c then basicFrom (c :: done) .plain rest
    else none

/-- A basic text behind its opening quote. -/
def basic (cs : List Char) : Option (String × List Char) :=
  (basicFrom [] .plain cs).map fun (s, rest) => (String.ofList s, rest)

/-- A literal text behind its opening quote. -/
def literal (cs : List Char) : Option (String × List Char) :=
  match cs.dropWhile fun c => isPlain c && c != '\'' with
  | '\'' :: rest => some (String.ofList (cs.takeWhile fun c => isPlain c && c != '\''), rest)
  | _ => none

/-- One character of a text on several lines, between characters. -/
def linesPlain (escapes : Bool) (quote c : Char) : Option (List Char × Place) :=
  if c = quote then some ([], .quotes 1)
  else if c = '\\' ∧ escapes then some ([], .escape)
  else if c = '\n' then some (['\n'], .plain)
  else if c = '\r' then some ([], .carriage false)
  else if isPlain c then some ([c], .plain)
  else none

/-- One character of a text on several lines: the characters that are then known to belong to the
text, and the place behind it. -/
def linesStep (escapes : Bool) (quote : Char) : Place → Char → Option (List Char × Place)
  | .plain, c => linesPlain escapes quote c
  | .escape, c =>
    if isSpace c then some ([], .gap)
    else if c = '\n' then some ([], .skip)
    else if c = '\r' then some ([], .carriage true)
    else escaped c
  | .code left value, c => codeDigit left value c
  | .gap, c =>
    if isSpace c then some ([], .gap)
    else if c = '\n' then some ([], .skip)
    else if c = '\r' then some ([], .carriage true)
    else none
  | .skip, c =>
    if isSpace c ∨ c = '\n' then some ([], .skip)
    else if c = '\r' then some ([], .carriage true)
    else linesPlain escapes quote c
  | .carriage skipped, c =>
    if c = '\n' then some (if skipped then ([], .skip) else (['\n'], .plain)) else none
  | .quotes count, c =>
    if c = quote then some ([], .quotes (count + 1))
    else (linesPlain escapes quote c).map fun (out, place) =>
      (List.replicate count quote ++ out, place)

/-- The end of a text, if enough quotes were read: three close it and the others belong to it. -/
def closing (quote : Char) (done : List Char) : Place → Option (List Char)
  | .quotes count =>
    if 3 ≤ count then some ((List.replicate (count - 3) quote ++ done).reverse) else none
  | _ => none

/-- The characters of a text on several lines behind its opening quotes, and what follows its
closing ones, which are at most five. -/
def linesFrom (escapes : Bool) (quote : Char) (done : List Char) :
    Place → List Char → Option (List Char × List Char)
  | place, [] => (closing quote done place).map fun s => (s, [])
  | place, c :: rest =>
    match if c = quote ∧ place ≠ .quotes 5 then none else closing quote done place with
    | some s => some (s, c :: rest)
    | none => do
      let (out, place) ← linesStep escapes quote place c
      linesFrom escapes quote (out.reverse ++ done) place rest

/-- A text on several lines behind its opening quotes. -/
def lines (escapes : Bool) (quote : Char) (cs : List Char) : Option (String × List Char) :=
  (linesFrom escapes quote [] .plain ((newline? cs).getD cs)).map
    fun (s, rest) => (String.ofList s, rest)

/-- A basic text on several lines. -/
def basicLines : List Char → Option (String × List Char) := lines true '"'

/-- A literal text on several lines. -/
def literalLines : List Char → Option (String × List Char) := lines false '\''

end Toml

end QueryConsole
