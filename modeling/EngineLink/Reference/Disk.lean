import EngineLink.Reference.Location
import EngineLink.Reference.Table

/-!
# Databases and the holds on them

A database is kept in a file, which several connections can open, or in the memory of
one connection.  Inside a transaction a connection that has looked at a database is its
reader, and one that has set out to change it is its writer, of which there is at most
one.  A writer that could not commit because of other readers waits for them, and no new
reader comes in before it is done.
-/

namespace EngineLink
namespace Reference

/-- What is found at a place: tables, or something that is no database. -/
inductive Contents where
  | database (catalog : Catalog)
  | foreign
  deriving DecidableEq

namespace Contents

/-- The tables at a place. -/
def catalog? : Contents → Option Catalog
  | .database catalog => some catalog
  | .foreign => none

/-- A file with nothing in it is a database without tables. -/
def ofBytes (bytes : Bytes) : Contents := if bytes = [] then .database [] else .foreign

end Contents

/-- A database with the connections that have a hold on it. -/
structure DatabaseFile where
  location : Location
  contents : Contents
  writer : Option Int64
  readers : List Int64
  isWaiting : Bool
  deriving DecidableEq

/-- All databases. -/
abbrev Disk := List DatabaseFile

namespace Disk

/-- A new database at a place. -/
def fresh (location : Location) (contents : Contents) : DatabaseFile :=
  ⟨location, contents, none, [], false⟩

/-- The database at a place; there is an empty one where nothing was put. -/
def get (disk : Disk) (location : Location) : DatabaseFile :=
  (List.find? (fun file => file.location = location) disk).getD (fresh location (.database []))

/-- Whether something was put at a place. -/
def contains (disk : Disk) (location : Location) : Bool :=
  List.any disk fun file => file.location = location

/-- Put a database at its place. -/
def put (disk : Disk) (file : DatabaseFile) : Disk :=
  file :: disk.filter (·.location ≠ file.location)

/-- Remove what is at a place. -/
def erase (disk : Disk) (location : Location) : Disk := disk.filter (·.location ≠ location)

/-- Write a file into the directory for files. -/
def write (disk : Disk) (name : String) (content : Bytes) : Disk :=
  let location := Location.file Location.directory name
  disk.put { disk.get location with contents := Contents.ofBytes content }

end Disk
end Reference
end EngineLink
