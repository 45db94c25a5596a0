import QueryConsole.Files
import QueryConsole.Http.Date
import QueryConsole.Http.MediaType
import QueryConsole.Http.Message
import QueryConsole.Http.Range

/-!
# Static files

Files are found below one directory, and no path leads out of it. A directory is shown by its index
file, at the path that ends in a slash. A request may ask for a file only if it was changed since
some moment, or only if it was not, and it may ask for a part of it.

## Main definitions

- `Http.Site`: a directory that is shown
- `Http.Site.unescape`: a path with its escapes undone
- `Http.Site.names`: the names along a path
- `Http.Site.find`: what a request is for
- `Http.Site.serve`: the answer to a request
-/

namespace QueryConsole

namespace Http

/-- A directory that is shown. -/
structure Site where
  /-- its path -/
  path : String
  /-- what is there -/
  root : FileTree
  /-- when its files were changed last, in seconds after the epoch -/
  changed : Nat

namespace Site

/-! ### Paths -/

/-- The value of a hexadecimal digit. -/
def hexDigit (b : UInt8) : Option UInt8 :=
  if 0x30 ≤ b ∧ b ≤ 0x39 then some (b - 0x30)
  else if 0x41 ≤ b ∧ b ≤ 0x46 then some (b - 0x37)
  else if 0x61 ≤ b ∧ b ≤ 0x66 then some (b - 0x57)
  else none

/-- The bytes with every percent sign and its two digits undone; other percent signs stay. -/
def unescapeBytes : List UInt8 → List UInt8
  | 0x25 :: a :: b :: rest =>
    match hexDigit a, hexDigit b with
    | some x, some y => (x * 16 + y) :: unescapeBytes rest
    | _, _ => 0x25 :: unescapeBytes (a :: b :: rest)
  | b :: rest => b :: unescapeBytes rest
  | [] => []

/-- A path with its escapes undone, unless what they stand for is no text. -/
def unescape (path : List Char) : Option (List Char) :=
  Utf8.decode? (unescapeBytes (Utf8.encode path))

/-- The names along a path. Empty ones and the names of the place itself do not count; a path that
starts at the top or goes up has none. -/
def segments (path : List Char) : Option (List String) :=
  let names := (Trail.components (String.ofList path)).filter fun n => n != "" && n != "."
  if path.head? = some '/' ∨ names.contains ".." then none else some names

/-- The names along the path of a request. The slashes in front of it are no part of it, unless they
are escaped. -/
def names (path : List Char) : Option (List String) :=
  (unescape (path.dropWhile (· == '/'))).bind segments

/-! ### Files -/

/-- How long the path of a file is, in bytes. -/
def pathSize (site : Site) (names : List String) : Nat :=
  names.foldl (fun n name => n + 1 + name.utf8ByteSize) site.path.utf8ByteSize

/-- What lies along names below the directory, and otherwise the answer to a request for it. What no
file can be called is missing like other files, but a name or a path that is too long is a failure
of the server. -/
def lookup (site : Site) (names : List String) : Except Answer FileTree :=
  if names.any (·.contains '\x00') then .error .notFound
  else if Trail.longestPath < site.pathSize names then .error .failed
  else match Trail.walk names [site.root] with
    | .ok (t :: _) => .ok t
    | .error .name => .error .failed
    | _ => .error .notFound

/-- The file that shows a directory. -/
def index : String := "index.html"

/-- The answer that sends a request to the path with a slash. -/
def redirect (target : Target) : Answer :=
  match target.slashed with
  | some target => ⟨307, [("location", target.text)], []⟩
  | none => .failed

/-- The file that a request is for, with its name, and otherwise the answer. -/
def find (site : Site) (target : Target) : Except Answer (String × FileTree) := do
  let some names := names target.path | throw .notFound
  match ← site.lookup names with
  | .file content executable =>
    return (names.getLast?.getD "", .file content executable)
  | .directory _ =>
    if target.path.getLast? = some '/' then
      return (index, ← site.lookup (names ++ [index]))
    else throw (redirect target)

/-- The bytes of what stands for a file. A directory has none. -/
def content : FileTree → List UInt8
  | .file content _ => content
  | .directory _ => []

/-! ### Answers -/

/-- The answer to a request that no longer holds because the file was changed. -/
def preconditionFailed : Answer := ⟨412, [], []⟩

/-- The answer to a request for a file that was not changed. -/
def notModified : Answer := ⟨304, [], []⟩

/-- The answer that the moments in a request lead to, if it is not the file. A moment that cannot be
read is left aside. -/
def stale (site : Site) (r : Request) : Option Answer :=
  let unchangedSince := (r.header "if-unmodified-since").bind moment
  let changedSince := (r.header "if-modified-since").bind moment
  if unchangedSince.any (· < site.changed) then some preconditionFailed
  else if changedSince.any (site.changed ≤ ·) then some notModified
  else none

/-- An answer that tells which part of how many bytes it is about. -/
def about (status : Nat) (type part : String) (size : Nat) (body : List UInt8) : Answer :=
  (Answer.content status type body).adding [("content-range", s!"bytes {part}/{size}")]

/-- The answer that is a file, or the part of it that is asked for. -/
def fileAnswer (name : String) (content : List UInt8) (range : Option String) : Answer :=
  let type := mediaType name
  match portion content.length range with
  | .whole => .content 200 type content
  | .stretch first last =>
    about 206 type s!"{first}-{last}" content.length (slice first last content)
  | .several =>
    about 416 type "*" content.length (Utf8.bytesOf "Cannot serve multipart range requests")
  | .nothing => about 416 type "*" content.length []

/-- The answer to a request for a file. -/
def answer (site : Site) (r : Request) : Answer :=
  match site.find r.target with
  | .error a => a
  | .ok (name, file) =>
    (site.stale r).getD
      (fileAnswer name (content file) ((r.header "range").filter isPlain))

/-- The methods that files have. -/
def methods : String := "GET,HEAD"

/-- The answer to a request. -/
def serve (site : Site) (r : Request) : Answer :=
  match r.method with
  | .get => site.answer r
  | .head => (site.answer r).withoutBody
  | _ => .notAllowed methods

end Site

end Http

end QueryConsole
