import QueryConsole.Text.Blank

/-!
# Targets of requests

A target is a path with a search behind it. A scheme and a host may stand in front of the path, and
a target that does not begin with a slash is a host alone.

    /a/b?c        http://host/a/b?c        host

## Main definitions

- `Http.Target`: a target and its parts
- `Http.Target.parse`: the target of a text
-/

namespace QueryConsole

namespace Http

/-- A target. -/
structure Target where
  /-- the scheme and the host, as far as they are given -/
  origin : List Char
  /-- the path, empty if there is only a host -/
  path : List Char
  /-- the question mark and what follows it -/
  search : List Char
  deriving DecidableEq, Repr

namespace Target

/-- The text of a target. -/
def text (t : Target) : String :=
  String.ofList (t.origin ++ t.path ++ t.search)

/-- The characters of schemes. -/
def isSchemeChar (c : Char) : Bool :=
  c.isAlphanum || c == '+' || c == '-' || c == '.'

/-- The scheme in front of a target, with its colon and its slashes, and what follows it. The two
schemes of the web are written in small letters. -/
def splitScheme (cs : List Char) : Option (List Char × List Char) :=
  match cs.span isSchemeChar with
  | (c :: scheme, ':' :: '/' :: '/' :: rest) =>
    let scheme := String.ofList (c :: scheme)
    let isWeb := Text.lower scheme == "http" || Text.lower scheme == "https"
    some (((if isWeb then Text.lower scheme else scheme) ++ "://").toList, rest)
  | _ => none

/-- Where a host ends. -/
def endsHost (c : Char) : Bool :=
  c == '/' || c == '?'

/-- The target behind an origin. Behind a scheme and a host, no path is the topmost one. -/
def behind (origin cs : List Char) : Target :=
  let path := cs.takeWhile (· != '?')
  ⟨origin, if path.isEmpty then ['/'] else path, cs.dropWhile (· != '?')⟩

/-- The target of a text. What follows a number sign is not for the server. -/
def parse (s : String) : Target :=
  let cs := s.toList.takeWhile (· != '#')
  if cs.head? = some '/' ∨ cs = ['*'] then behind [] cs
  else match splitScheme cs with
    | some (scheme, rest) =>
      behind (scheme ++ rest.takeWhile (!endsHost ·)) (rest.dropWhile (!endsHost ·))
    | none => ⟨cs, [], []⟩

/-- The target that is a slash longer, unless it is a host alone. -/
def slashed (t : Target) : Option Target :=
  if t.path.isEmpty then none else some { t with path := t.path ++ ['/'] }

end Target

end Http

end QueryConsole
