import EngineLink.Json.Basic
import EngineLink.Number.Shortest

/-!
# JSON text

The compact text of a JSON value: no blanks, and in a text only quotes, backslashes
and control characters are escaped.
-/

namespace EngineLink
namespace Json

/-- A JSON double is written with the fewest digits that read back, a tie going to
the even digit; without an exponent from {lit}`0.00001` to below {lit}`1e16`, and
otherwise with the sign of the exponent. -/
def doubleStyle : DoubleStyle :=
  { tie := .even, lowest := -4, highest := 16, plus := true, infinity := "null", nan := "null" }

/-- A character inside a JSON text. -/
def escaped (c : Char) : List Char :=
  if c = '"' then ['\\', '"']
  else if c = '\\' then ['\\', '\\']
  else if c = '\x08' then ['\\', 'b']
  else if c = '\x0c' then ['\\', 'f']
  else if c = '\n' then ['\\', 'n']
  else if c = '\r' then ['\\', 'r']
  else if c = '\t' then ['\\', 't']
  else if c.toNat < 0x20 then
    ['\\', 'u', '0', '0', Nat.digitChar (c.toNat / 16), Nat.digitChar (c.toNat % 16)]
  else [c]

/-- A text between quotes. -/
def quoted (s : String) : List Char := '"' :: (s.toList.flatMap escaped ++ ['"'])

mutual

/-- The text of a JSON value. -/
def chars : Json → List Char
  | .null => ['n', 'u', 'l', 'l']
  | .bool true => ['t', 'r', 'u', 'e']
  | .bool false => ['f', 'a', 'l', 's', 'e']
  | .integer i => (toString i).toList
  | .real x => (doubleStyle.write x).toList
  | .text s => quoted s
  | .array items => '[' :: (charsItems items ++ [']'])
  | .object entries => '\x7b' :: (charsEntries entries ++ ['\x7d'])

/-- The texts of some values with commas between them. -/
def charsItems : List Json → List Char
  | [] => []
  | [item] => item.chars
  | item :: rest => item.chars ++ ',' :: charsItems rest

/-- The texts of some entries with commas between them. -/
def charsEntries : List (String × Json) → List Char
  | [] => []
  | [(name, value)] => quoted name ++ ':' :: value.chars
  | (name, value) :: rest => quoted name ++ ':' :: value.chars ++ ',' :: charsEntries rest

end

/-- The text of a JSON value. -/
def write (json : Json) : String := String.ofList json.chars

end Json
end EngineLink
