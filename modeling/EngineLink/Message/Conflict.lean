/-!
# Conflicts

An insertion or a change of rows can say what happens when a row would break a
uniqueness rule.
-/

namespace EngineLink

/-- What happens to a row that conflicts with another one. -/
inductive Conflict where
  | unspecified
  | rollback
  | abort
  | fail
  | ignore
  | replace
  deriving DecidableEq

namespace Conflict

/-- The clause of a statement. -/
def clause : Conflict → String
  | .unspecified => ""
  | .rollback => " OR ROLLBACK "
  | .abort => " OR ABORT "
  | .fail => " OR FAIL "
  | .ignore => " OR IGNORE "
  | .replace => " OR REPLACE "

end Conflict

end EngineLink
