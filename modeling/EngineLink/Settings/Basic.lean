import EngineLink.Failure.Error

/-!
# Settings

What a client can be told before it opens an engine instance: the preferred languages,
the bytes of a page if the engine's own choice is not wanted, and how many recent pages
a cursor keeps.
-/

namespace EngineLink

/-- The settings of a client. -/
structure Settings where
  languages : List String
  pageSize : Option UInt64
  recentPages : UInt64
  deriving DecidableEq

namespace Settings

/-- The settings of a client that was told nothing. -/
def standard : Settings := ⟨["en"], none, 0⟩

/-- A page must have room. -/
def validate (s : Settings) : Except SettingsFault Unit :=
  if s.pageSize = some 0 then .error .zeroPageSize else .ok ()

end Settings
end EngineLink
