import EngineLink.Number.Leading
import EngineLink.Reference.Fault
import EngineLink.Text.Search
import EngineLink.Text.Utf8

/-!
# Where a path leads

A collection is opened by a text.  The text is the path of a file or, if it begins with
{lit}`file:`, an address with a path and options, one of which says how the file may be
opened.  Some paths stand for a database in memory.

- {lit}`Address.ofText` reads an address.
- {lit}`Location.file?` follows a path to a file.
- {lit}`Location.ofText` finds the place that a text leads to.
-/

namespace EngineLink
namespace Reference

/-- How a database may be opened. -/
inductive Access where
  | read
  | write
  | create
  | memory
  deriving DecidableEq

namespace Access

/-- The way of opening with a name. -/
def ofName? : String → Option Access
  | "ro" => some .read
  | "rw" => some .write
  | "rwc" => some .create
  | "memory" => some .memory
  | _ => none

/-- Whether a database can only be read. -/
def isReadOnly (access : Access) : Bool := access = .read

/-- Whether there has to be a database before. -/
def needsFile (access : Access) : Bool := access = .read || access = .write

/-- How much a way of opening asks for. -/
def demand : Access → Nat
  | .read => 1
  | .write => 2
  | .create => 6
  | .memory => 0

/-- How much a later option may ask for. -/
def limit : Access → Nat
  | .memory => 128
  | access => access.demand

end Access

/-! ## Addresses -/

/-- A path with options. -/
structure Address where
  path : String
  options : List (String × String)
  deriving DecidableEq

namespace Address

/-- What an address begins with. -/
def scheme : String := "file:"

/-- The bytes of a part of an address, in which a percent sign with two hexadecimal digits
stands for any byte. -/
def unescaped : List Char → Bytes
  | '%' :: a :: b :: rest =>
    if Leading.isDigit 16 a && Leading.isDigit 16 b then
      UInt8.ofNat (Leading.ofDigits 16 [a, b]) :: unescaped rest
    else Utf8.encode "%" ++ unescaped (a :: b :: rest)
  | c :: rest => Utf8.encode (String.singleton c) ++ unescaped rest
  | [] => []

/-- A part of an address as it is meant.  It ends before a byte of zero. -/
def part (cs : List Char) : String :=
  (Utf8.decode? ((unescaped cs).takeWhile (· ≠ 0))).getD (String.ofList cs)

/-- What follows the host of an address, which can only be this one. -/
def afterHost : List Char → Except Fault (List Char)
  | '/' :: '/' :: rest =>
    let host := String.ofList (rest.takeWhile (· ≠ '/'))
    if host = "" ∨ host = "localhost" then .ok (rest.dropWhile (· ≠ '/'))
    else .error (Fault.plain ("invalid uri authority: " ++ host))
  | rest => .ok rest

/-- The options of an address.  One without a name is none. -/
def optionsOf (cs : List Char) : List (String × String) :=
  (((String.ofList cs).splitOn "&").map fun entry =>
    let name := entry.toList.takeWhile (· ≠ '=')
    (part name, part (entry.toList.drop (name.length + 1)))).filter (·.1 ≠ "")

/-- Read an address; any other text is a path without options. -/
def ofText (text : String) : Except Fault Address :=
  if Text.beginsWith text scheme then do
    let rest ← afterHost (text.toList.drop scheme.length)
    let rest := rest.takeWhile (· ≠ '#')
    let path := rest.takeWhile (· ≠ '?')
    return ⟨part path, optionsOf (rest.drop (path.length + 1))⟩
  else .ok ⟨text, []⟩

/-- How a database may be opened after one more option. -/
def apply (access : Access) (entry : String × String) : Except Fault Access :=
  match entry with
  | ("mode", name) =>
    match Access.ofName? name with
    | none => .error (Fault.plain ("no such access mode: " ++ name))
    | some wanted =>
      if access.limit < wanted.demand then
        .error (.failure .permissionDenied 3 ("access mode not allowed: " ++ name))
      else .ok wanted
  | ("cache", name) =>
    if name = "shared" ∨ name = "private" then .ok access
    else .error (Fault.plain ("no such cache mode: " ++ name))
  | _ => .ok access

/-- How the database at an address may be opened. -/
def access (address : Address) : Except Fault Access := address.options.foldlM apply .create

end Address

/-! ## Places -/

/-- The place of a database. -/
inductive Location where
  | memory (owner : Int64)
  | file (folder name : String)
  deriving DecidableEq

namespace Location

/-- The directory for files. -/
def directory : String := "@tmp"

/-- The directory that other paths start from. -/
def workingDirectory : String := "."

/-- The path that stands for a database in memory. -/
def inMemory : String := ":memory:"

/-- The greatest number of bytes in a name. -/
def longestName : Nat := 255

/-- The directories that exist. -/
def folders : List String := [directory, workingDirectory]

/-- Whether a directory is at a path, given by its parts. -/
def isFolder (parts : List String) : Bool := (folders.map ([·])).contains parts

/-- Follow one part of a path.  Two dots lead back, whether or not anything is there; a
name too long leads nowhere. -/
def follow (parts : List String) (part : String) : Option (List String) :=
  if part = "" ∨ part = "." then some parts
  else if part = ".." then some parts.dropLast
  else if isFolder parts ∧ longestName < part.utf8ByteSize then none
  else some (parts ++ [part])

/-- The file that a path leads to, if its directory exists. -/
def file? (path : String) : Option Location :=
  let start := if Text.beginsWith path "/" then [] else [workingDirectory]
  match (path.splitOn "/").foldlM follow start with
  | some [folder, name] => if folders.contains folder then some (.file folder name) else none
  | _ => none

/-- A text in which the directory for files begins at the root. -/
def rooted (text : String) : String := ("/" ++ directory).intercalate (text.splitOn directory)

/-- The place that a text leads a connection to, and how it may be opened.  An empty path
is a database of the connection alone. -/
def ofText (owner : Int64) (text : String) : Except Fault (Location × Access) := do
  let address ← Address.ofText (rooted text)
  let access ← address.access
  if access = .memory ∨ address.path = inMemory ∨ address.path = "" then
    return (.memory owner, access)
  else
    match file? address.path with
    | some location => return (location, access)
    | none => throw (Fault.unreachable text)

/-- Whether the name of a file leaves room for that of the journal beside it, without which
the file cannot be changed. -/
def hasJournal : Location → Bool
  | .memory _ => true
  | .file _ name => (name ++ "-journal").utf8ByteSize ≤ longestName

end Location
end Reference
end EngineLink
