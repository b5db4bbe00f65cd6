import EngineLink.Client.Bootstrap
import EngineLink.Client.Statement
import EngineLink.Engine.Journal
import EngineLink.Engine.Scripted
import EngineLink.Reference.Engine
import EngineLink.Script.Step

/-!
# Worlds of a script

A world holds the engine, the handles of the instances opened so far and the named
objects.  Every object belongs to one handle.  An instance is given back when its last
object goes, and an object that goes cleans up behind it: a cursor gives its result
back and a guard or a session rolls back.
-/

namespace EngineLink

/-- Engines that can be looked at from outside: how many instances are open, and files
put where collections are. -/
class Hosted (σ : Type) extends Engine σ where
  instanceCount : σ → Nat
  writeFile : (name : String) → (content : Bytes) → σ → σ

/-- A look from outside is no contact. -/
instance {ε : Type} {note : Contact → List ε → List ε} {σ : Type} [Hosted σ] :
    Hosted (Noted note σ) where
  instanceCount n := Hosted.instanceCount n.engine
  writeFile name content n := { n with engine := Hosted.writeFile name content n.engine }

/-- A scripted engine keeps no instances and has no files. -/
instance : Hosted Scripted where
  instanceCount _ := 0
  writeFile _ _ s := s

/-- The reference engine keeps instances and databases. -/
instance : Hosted Reference.World where
  instanceCount w := w.instances.length
  writeFile name content w := { w with disk := w.disk.write name content }

namespace Script

/-- An object that belongs to a handle, given by its number. -/
structure Held (α : Type) where
  link : Nat
  object : α

/-- A database: a session on the handle, and how many recent pages its cursors keep. -/
structure DatabaseObject where
  recentPages : Nat
  session : Session

/-- The engine, the handles and the objects by name.  The object of a client is the
number of recent pages its cursors keep; a guard has nothing of its own. -/
structure World (σ : Type) where
  boot : Bootstrap (Journaled σ)
  handles : List Handle
  clients : List (String × Held Nat)
  cursors : List (String × Held Cursor)
  guards : List (String × Held Unit)
  sessions : List (String × Held Session)
  databases : List (String × Held DatabaseObject)
  waiting : List (Held Errand)

/-- A computation on a world. -/
abbrev ScriptM (σ α : Type) := StateM (World σ) α

namespace World

variable {σ : Type} [Hosted σ]

/-- The world before the first step. -/
def start (engine : σ) : World σ :=
  ⟨Bootstrap.create (.start engine), [], [], [], [], [], [], []⟩

/-- The handle with a number. -/
def handle (w : World σ) (link : Nat) : Handle := w.handles.getD link ⟨0, none, none, 0⟩

/-- Whether an object belongs to a handle. -/
def refersTo (w : World σ) (link : Nat) : Bool :=
  w.clients.any (·.2.link = link) || w.cursors.any (·.2.link = link) ||
    w.guards.any (·.2.link = link) || w.sessions.any (·.2.link = link) ||
    w.databases.any (·.2.link = link) || w.waiting.any (·.link = link)

/-- Do something with the link of a handle. -/
def withLink {α : Type} (w : World σ) (link : Nat)
    (act : Link (Journaled σ) → α × Link (Journaled σ)) : α × World σ :=
  let (result, after) := act ⟨w.handle link, w.boot.engine⟩
  (result,
    { w with
      handles := w.handles.set link after.handle
      boot := { w.boot with engine := after.engine } })

/-- Give an instance back if no object belongs to its handle. -/
def release (w : World σ) (link : Nat) : World σ :=
  if w.refersTo link then w else (w.withLink link fun l => ((), l.close)).2

/-- The entries without a name. -/
def without {α : Type} (name : String) (entries : List (String × α)) : List (String × α) :=
  entries.filter (·.1 ≠ name)

end World

/-- One kind of objects: where a world keeps them, and what one does that goes. -/
structure Shelf (σ α : Type) where
  entries : World σ → List (String × Held α)
  replace : List (String × Held α) → World σ → World σ
  discard : α → Link (Journaled σ) → Link (Journaled σ)

namespace Shelf

variable {σ α : Type} [Hosted σ]

/-- A client goes without a word. -/
def clients : Shelf σ Nat where
  entries w := w.clients
  replace entries w := { w with clients := entries }
  discard _ link := link

/-- A cursor that goes gives its result back. -/
def cursors : Shelf σ Cursor where
  entries w := w.cursors
  replace entries w := { w with cursors := entries }
  discard := Cursor.discard

/-- A guard that goes rolls back. -/
def guards : Shelf σ Unit where
  entries w := w.guards
  replace entries w := { w with guards := entries }
  discard _ link := (Link.finishTransaction .rollback link).2

/-- A session that goes rolls back. -/
def sessions : Shelf σ Session where
  entries w := w.sessions
  replace entries w := { w with sessions := entries }
  discard := Session.discard

/-- A database that goes rolls back. -/
def databases : Shelf σ DatabaseObject where
  entries w := w.databases
  replace entries w := { w with databases := entries }
  discard database := database.session.discard

/-- An object that was taken away goes, and the instance with it if it was the last one. -/
def dispose (s : Shelf σ α) (held : Held α) (w : World σ) : World σ :=
  ((w.withLink held.link fun l => ((), s.discard held.object l)).2).release held.link

/-- Name an object.  The one that had the name goes after that. -/
def put (s : Shelf σ α) (name : String) (held : Held α) (w : World σ) : World σ :=
  let after := s.replace (Entries.insert name held (s.entries w)) w
  match Entries.find? name (s.entries w) with
  | some old => s.dispose old after
  | none => after

/-- Let the object with a name go. -/
def drop (s : Shelf σ α) (name : String) (w : World σ) : World σ :=
  match Entries.find? name (s.entries w) with
  | some held => s.dispose held (s.replace (World.without name (s.entries w)) w)
  | none => w

/-- Let all objects of a kind go, in the order of their names. -/
def dropEach (s : Shelf σ α) (w : World σ) : World σ :=
  ((s.entries w).map (·.1)).foldl (fun w name => s.drop name w) w

end Shelf

namespace World

variable {σ : Type} [Hosted σ]

/-- Let all objects go: cursors, guards, databases, sessions and clients, each in the
order of their names. -/
def dropAll (w : World σ) : World σ :=
  Shelf.clients.dropEach (Shelf.sessions.dropEach (Shelf.databases.dropEach
    (Shelf.guards.dropEach (Shelf.cursors.dropEach w))))

/-- The events since they were taken last. -/
def takeEvents (w : World σ) : List Event × World σ :=
  let (events, engine) := w.boot.engine.drain
  (events, { w with boot := { w.boot with engine } })

end World
end Script
end EngineLink
