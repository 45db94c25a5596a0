import QueryConsole.Text.Blank
import QueryConsole.Text.Digits
import QueryConsole.Text.Lines

/-!
# Addresses to listen at

An address is a host and a port number. A host may be an address of four bytes, written as one to
four numbers, an address of eight groups, or a name. Of all names only that of the machine itself is
known.

## Main definitions

- `Address.isFourBytes`, `Address.isEightGroups`: the two forms of numbers
- `Address.isName`: whether a text can be a name at all
- `Address.check`: whether an address can be listened at
-/

namespace QueryConsole

namespace Address

/-- The wording of the system for an address that is in use. -/
def inUse : String := "Address already in use (os error 98)"

/-- The wording for an address without a port number. -/
def noPort : String := "invalid socket address"

/-- The wording for a port number that is none. -/
def badPort : String := "invalid port value"

/-- The wording for a name that nobody can be asked about. -/
def unknownHost : String :=
  "failed to lookup address information: Temporary failure in name resolution"

/-- The wording for a host that is not even a name. -/
def noHost : String :=
  "failed to lookup address information: Name or service not known"

/-! ### Ports -/

/-- The largest port number. -/
def greatestPort : Nat := 65535

/-- Whether a text is a port number. -/
def isPort (cs : List Char) : Bool :=
  let digits := match cs with
    | '+' :: rest => rest
    | _ => cs
  (Text.numeral 10 digits).any (· ≤ greatestPort)

/-! ### Four bytes -/

/-- A number among four bytes: hexadecimal behind `0x`, octal behind another zero, otherwise
decimal. -/
def part : List Char → Option Nat
  | '0' :: 'x' :: digits => Text.numeral 16 digits
  | '0' :: 'X' :: digits => Text.numeral 16 digits
  | '0' :: digit :: digits => Text.numeral 8 (digit :: digits)
  | digits => Text.numeral 10 digits

/-- Whether numbers fill so many bytes: each of them one, and the last one all that are left. -/
def areFilled : Nat → List Nat → Bool
  | 0, _ => false
  | _, [] => false
  | bytes, [n] => n < Nat.pow 256 bytes
  | bytes + 1, n :: rest => n < 256 && areFilled bytes rest

/-- Whether a host is an address of four bytes, written as one number or several. -/
def isFourBytes (host : List Char) : Bool :=
  ((Text.piecesBetween "." host).mapM part).any (areFilled 4)

/-! ### Eight groups -/

/-- Whether a text is a byte in decimal digits without a zero in front. -/
def isByte : List Char → Bool
  | '0' :: _ :: _ => false
  | cs => (Text.numeral 10 cs).any (· < 256)

/-- Whether a text is one group: up to four hexadecimal digits. -/
def isGroup (cs : List Char) : Bool :=
  cs.length ≤ 4 && (Text.numeral 16 cs).isSome

/-- Whether a text is four bytes as they may stand at the end of groups. -/
def isByteTail (cs : List Char) : Bool :=
  let bytes := Text.piecesBetween "." cs
  bytes.length == 4 && bytes.all isByte

/-- How many groups texts stand for. Four bytes at the end are two groups. -/
def groupCount : List (List Char) → Option Nat
  | [] => some 0
  | [last] =>
    if isByteTail last then some 2 else if isGroup last then some 1 else none
  | group :: rest => if isGroup group then (groupCount rest).map (· + 1) else none

/-- The groups between colons; the empty text has none. -/
def groups (cs : List Char) : List (List Char) :=
  if cs.isEmpty then [] else Text.piecesBetween ":" cs

/-- A host without the number of the network it lies in, unless that is no number. -/
def splitZone (host : List Char) : Option (List Char) :=
  match host.span (· != '%') with
  | (host, []) => some host
  | (host, _ :: zone) => (Text.numeral 10 zone).map fun _ => host

/-- Whether a host is an address of eight groups. Once, two colons stand for one group of zeros or
more. -/
def isEightGroups (host : List Char) : Bool :=
  match (splitZone host).map (Text.piecesBetween "::") with
  | some [all] => groupCount (groups all) = some 8
  | some [front, back] =>
    !front.contains '.' &&
      ((groupCount (groups front)).bind fun n =>
        (groupCount (groups back)).map (n + ·)).any (· < 8)
  | _ => false

/-! ### Names -/

/-- The longest names. -/
def longestName : Nat := 253

/-- The longest parts of names. -/
def longestLabel : Nat := 63

/-- The characters of names. -/
def isNameChar (c : Char) : Bool :=
  c.isAlphanum || c == '-' || c == '_' || c == '.'

/-- Whether a text can be a name. A dot may stand at its end. -/
def isName (host : List Char) : Bool :=
  let name := if host.getLast? = some '.' then host.dropLast else host
  name.all isNameChar && name.head? != some '-' && name.length ≤ longestName &&
    (Text.piecesBetween "." name).all fun label => !label.isEmpty && label.length ≤ longestLabel

/-- The name of the machine itself. -/
def ownName : String := "localhost"

/-! ### Addresses -/

/-- Whether a host is known without asking anyone. -/
def isKnown (host : List Char) : Bool :=
  isFourBytes host || isEightGroups host || Text.lower (String.ofList host) == ownName

/-- A host without the brackets around it, if it has some. -/
def unbracket : List Char → Option (List Char)
  | '[' :: rest => if rest.getLast? = some ']' then some rest.dropLast else none
  | _ => none

/-- Why an address cannot be listened at, if it cannot. The port number follows the last colon; the
eight groups may stand in brackets, and then no sign stands in front of the port number. -/
def check (address : String) : Except String Unit :=
  match address.toList.reverse.span (· != ':') with
  | (_, []) => .error noPort
  | (port, _ :: host) =>
    let (host, port) := (host.reverse, port.reverse)
    if !isPort port then .error badPort
    else if isKnown host || (port.head? != some '+' && (unbracket host).any isEightGroups) then
      .ok ()
    else if isName host then .error unknownHost
    else .error noHost

end Address

end QueryConsole
