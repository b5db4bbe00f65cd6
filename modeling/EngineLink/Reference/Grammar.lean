import EngineLink.Number.Leading
import EngineLink.Number.Stepwise
import EngineLink.Reference.Fault
import EngineLink.Reference.Sql

/-!
# Reading statements

The grammar of the reference engine's statements over their tokens.  Keywords are the
same in either case.  A statement that does not fit is refused at the first token that
cannot go on, or at its end.  Question marks stand for the arguments in the order they
are written.

- {lit}`Grammar.read` reads a whole statement.
-/

namespace EngineLink
namespace Reference

/-- Where a statement does not fit: at a token, or at its end. -/
inductive Misfit where
  | at (token : Token)
  | atEnd

namespace Misfit

/-- The fault of a statement that does not fit. -/
def fault (sql : String) : Misfit → Fault
  | .at token =>
    .input ("near \"" ++ String.ofList token.raw ++ "\": syntax error") sql token.offset
  | .atEnd => Fault.plain "incomplete input"

end Misfit

namespace Grammar

/-- What is left to read: the tokens, the whole text, and the number of arguments so
far. -/
structure Rest where
  tokens : List Token
  source : List Char
  arguments : Nat

/-- A reader of a part of a statement. -/
abbrev Reader (α : Type) := StateT Rest (Except Misfit) α

/-- Refuse the statement at its next token. -/
def refuse {α : Type} : Reader α := do
  match (← get).tokens with
  | token :: _ => throw (.at token)
  | [] => throw .atEnd

/-- The next token, if any. -/
def peek? : Reader (Option Token) := do return (← get).tokens.head?

/-- Go on after the next token. -/
def advance : Reader Unit := modify fun rest => { rest with tokens := rest.tokens.drop 1 }

/-- Whether a token is a keyword. -/
def isKeyword (keyword : String) (token : Token) : Bool :=
  match token.symbol with
  | .word text => Name.key text = keyword
  | _ => false

/-- Whether a token is a sign. -/
def isSign (sign : String) (token : Token) : Bool := token.symbol = .sign sign

/-- Take the next token if it passes a test. -/
def accept (test : Token → Bool) : Reader Bool := do
  match ← peek? with
  | some token =>
    if test token then
      advance
      return true
    else return false
  | none => return false

/-- Take the next token, which must pass a test. -/
def expect (test : Token → Bool) : Reader Unit := do unless ← accept test do refuse

/-- The given keyword. -/
def keyword (text : String) : Reader Unit := expect (isKeyword text)

/-- The given sign. -/
def sign (text : String) : Reader Unit := expect (isSign text)

/-- Words that are no names. -/
def reserved : List String :=
  ["select", "from", "where", "order", "as", "values", "insert", "into", "update", "set", "delete",
    "create", "table", "null", "union", "and", "or", "not", "unique", "primary", "group", "having",
    "limit", "join", "on", "is", "in", "case", "when", "then", "else", "default", "check",
    "distinct"]

/-- A name. -/
def name : Reader Name := do
  match ← peek? with
  | some token =>
    match token.symbol with
    | .word text =>
      if reserved.contains (Name.key text) then refuse
      else
        advance
        return ⟨text, token.offset⟩
    | _ => refuse
  | none => refuse

/-- One or more parts with commas between them.  The fuel bounds their number. -/
def separated {α : Type} (part : Reader α) : (fuel : Nat) → Reader (List α)
  | 0 => refuse
  | fuel + 1 => do
    let first ← part
    if ← accept (isSign ",") then return first :: (← separated part fuel)
    else return [first]

/-- One or more parts with commas between them. -/
def list {α : Type} (part : Reader α) : Reader (List α) := do
  separated part ((← get).tokens.length + 1)

/-- One or more parts in brackets. -/
def bracketed {α : Type} (part : Reader α) : Reader (List α) := do
  sign "("
  let parts ← list part
  sign ")"
  return parts

/-! ## Terms -/

/-- The value of a decimal integer; one out of range is a double. -/
def integerValue (i : Int) : Value :=
  if Int64.minValue.toInt ≤ i ∧ i ≤ Int64.maxValue.toInt then .integer (Int64.ofInt i)
  else .real (Stepwise.double (i < 0) i.natAbs 0)

/-- A number without a sign. -/
def unsigned : Reader Nat := do
  match ← peek? with
  | some ⟨.number text, _, _, _⟩ =>
    advance
    return Leading.ofDigits 10 text.toList
  | _ => refuse

/-- A number with an optional minus. -/
def integer : Reader Int := do
  if ← accept (isSign "-") then return -(← unsigned) else return ← unsigned

/-- A term. -/
def term : Reader Term := do
  match ← peek? with
  | some ⟨.sign "?", _, _, _⟩ =>
    advance
    let index := (← get).arguments
    modify fun rest => { rest with arguments := index + 1 }
    return .argument index
  | some ⟨.quoted content, _, _, _⟩ =>
    advance
    return .literal (.text content)
  | some token =>
    if isKeyword "null" token then
      advance
      return .literal .null
    else return .literal (integerValue (← integer))
  | none => refuse

/-- A part with the text it was written as. -/
def spanned {α : Type} (part : Reader α) : Reader (α × String) := do
  let start := ((← get).tokens.head?.map Token.start).getD 0
  let before := (← get).tokens
  let result ← part
  let taken := before.length - (← get).tokens.length
  let stop := ((before.take taken).getLast?.map Token.stop).getD start
  return (result, String.ofList (((← get).source.drop start).take (stop - start)))

/-! ## Conditions and orders -/

/-- A comparison. -/
def comparison : Reader Comparison := do
  if ← accept (isSign "=") then return .equal
  else if ← accept (isSign "==") then return .equal
  else if ← accept (isSign ">=") then return .atLeast
  else if ← accept (isSign "<=") then return .atMost
  else if ← accept (isSign ">") then return .above
  else if ← accept (isSign "<") then return .below
  else refuse

/-- An optional condition. -/
def condition : Reader (Option Condition) := do
  if ← accept (isKeyword "where") then
    let column ← name
    let comparison ← comparison
    return some ⟨column, comparison, ← term⟩
  else return none

/-- An optional order. -/
def sorting : Reader (Option Sorting) := do
  if ← accept (isKeyword "order") then
    keyword "by"
    let column ← name
    if ← accept (isKeyword "desc") then return some ⟨column, true⟩
    else
      let _ ← accept (isKeyword "asc")
      return some ⟨column, false⟩
  else return none

/-! ## Selections -/

/-- Whether the next token but one is an opening bracket. -/
def calls : Reader Bool := do
  match (← get).tokens with
  | _ :: next :: _ => return isSign "(" next
  | _ => return false

/-- What a selection shows. -/
def output : Reader Output := do
  match ← peek? with
  | some token =>
    if isSign "*" token then
      advance
      return .all
    else if isKeyword "count" token && (← calls) then
      advance
      sign "("
      sign "*"
      sign ")"
      return .count
    else if isKeyword "zeroblob" token && (← calls) then
      advance
      sign "("
      let size ← term
      sign ")"
      return .zeroBlob size
    else
      match token.symbol with
      | .word text =>
        if Name.key text = "null" then return .term (← term) else return .column (← name)
      | _ => return .term (← term)
  | none => refuse

/-- What a selection shows, with its name. -/
def outputColumn : Reader OutputColumn := do
  let (output, span) ← spanned output
  if ← accept (isKeyword "as") then return ⟨output, some (← name).text, span⟩
  else return ⟨output, none, span⟩

/-- A selection after its keyword. -/
def selection : Reader Statement := do
  let outputs ← list outputColumn
  if ← accept (isKeyword "from") then
    let table ← name
    let condition ← condition
    return .select outputs (some table) condition (← sorting)
  else return .select outputs none none none

/-- What a recursive count shows of its column. -/
def countOutput (column : Name) : Reader CountOutput := do
  match ← peek? with
  | some token =>
    if isKeyword "count" token && (← calls) then
      advance
      sign "("
      sign "*"
      sign ")"
      return .count
    else
      keyword (Name.key column.text)
      if ← accept (isSign "*") then return .multiple (← integer) else return .number
  | none => refuse

/-- A recursive count after its first keyword. -/
def countUp : Reader Statement := do
  keyword "recursive"
  let table ← name
  sign "("
  let column ← name
  sign ")"
  keyword "as"
  sign "("
  keyword "select"
  let start ← integer
  keyword "union"
  keyword "all"
  keyword "select"
  keyword (Name.key column.text)
  sign "+"
  expect fun token => token.symbol = .number "1"
  keyword "from"
  keyword (Name.key table.text)
  let limit ← do
    if ← accept (isKeyword "where") then
      keyword (Name.key column.text)
      sign "<"
      pure (some (← term))
    else pure none
  sign ")"
  keyword "select"
  let outputs ← list (spanned (countOutput column))
  keyword "from"
  keyword (Name.key table.text)
  return .countUp start limit outputs

/-! ## Changes -/

/-- An optional clause for conflicts. -/
def conflict : Reader Conflict := do
  if ← accept (isKeyword "or") then
    if ← accept (isKeyword "rollback") then return .rollback
    else if ← accept (isKeyword "abort") then return .abort
    else if ← accept (isKeyword "fail") then return .fail
    else if ← accept (isKeyword "ignore") then return .ignore
    else if ← accept (isKeyword "replace") then return .replace
    else refuse
  else return .unspecified

/-- A column of a table definition. -/
def columnDefinition : Reader ColumnDefinition := do
  let column ← name
  let isRowId ← do
    if ← accept (isKeyword "integer") then
      keyword "primary"
      keyword "key"
      pure true
    else pure false
  let isUnique ← accept (isKeyword "unique")
  return ⟨column.text, isUnique, isRowId⟩

/-- A table definition after its first keyword. -/
def creation : Reader Statement := do
  keyword "table"
  let table ← name
  return .createTable table (← bracketed columnDefinition)

/-- An insertion after its first keyword. -/
def insertion : Reader Statement := do
  let conflict ← conflict
  keyword "into"
  let table ← name
  let columns ← bracketed name
  keyword "values"
  return .insert conflict table columns (← list (bracketed term))

/-- One change of a column. -/
def change : Reader (Name × Term) := do
  let column ← name
  sign "="
  return (column, ← term)

/-- A change of rows after its first keyword. -/
def modification : Reader Statement := do
  let conflict ← conflict
  let table ← name
  keyword "set"
  let changes ← list change
  return .update conflict table changes (← condition)

/-- A deletion after its first keyword. -/
def deletion : Reader Statement := do
  keyword "from"
  let table ← name
  return .delete table (← condition)

/-- A pragma after its keyword. -/
def pragma : Reader Statement := do
  if ← accept (isKeyword "integrity_check") then return .integrityCheck
  else
    keyword "busy_timeout"
    sign "="
    return .busyTimeout (← integer)

/-! ## Statements -/

/-- A statement that is not empty. -/
def statement : Reader Statement := do
  if ← accept (isKeyword "select") then selection
  else if ← accept (isKeyword "values") then return .values (← list (bracketed term))
  else if ← accept (isKeyword "with") then countUp
  else if ← accept (isKeyword "create") then creation
  else if ← accept (isKeyword "insert") then insertion
  else if ← accept (isKeyword "update") then modification
  else if ← accept (isKeyword "delete") then deletion
  else if ← accept (isKeyword "pragma") then pragma
  else refuse

/-- A whole statement, with semicolons at its end. -/
def whole : Reader Statement := do
  let result ← do
    if (← get).tokens.all (isSign ";") then pure .empty else statement
  if (← get).tokens.all (isSign ";") then return result else refuse

/-- Read a statement and count its arguments. -/
def read (sql : String) : Except Fault (Statement × Nat) :=
  match whole.run ⟨Token.ofText sql, sql.toList, 0⟩ with
  | .ok (statement, rest) => .ok (statement, rest.arguments)
  | .error misfit => .error (misfit.fault sql)

end Grammar
end Reference
end EngineLink
