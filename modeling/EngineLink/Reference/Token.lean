import EngineLink.Text.Utf8

/-!
# Tokens of statements

A statement is read as a list of words, numbers, quoted texts and signs.  A token knows
where it stands, both in characters and in bytes.
-/

namespace EngineLink
namespace Reference

/-- What a token is. -/
inductive Symbol where
  | word (text : String)
  | number (text : String)
  | quoted (content : String)
  | sign (text : String)
  deriving DecidableEq

/-- A token with the characters it covers and the byte it begins at. -/
structure Token where
  symbol : Symbol
  start : Nat
  raw : List Char
  offset : Nat
  deriving DecidableEq

namespace Token

/-- The character after a token. -/
def stop (t : Token) : Nat := t.start + t.raw.length

/-- Blanks between tokens, of which a byte order mark is one. -/
def isBlank (c : Char) : Bool :=
  c = ' ' || c = '\t' || c = '\n' || c = '\r' || c = '\x0c' || c.toNat = 0xfeff

/-- Characters a word begins with. -/
def isWordStart (c : Char) : Bool := c.isAlpha || c = '_' || 0x80 ≤ c.toNat

/-- Characters of a word. -/
def isWordPart (c : Char) : Bool := isWordStart c || c.isDigit || c = '$'

/-- The content of a quoted text after its first quote, in which a quote is written
twice, and the characters it covers, the last quote included. -/
def quotedBody : List Char → Option (List Char × List Char)
  | '\'' :: '\'' :: rest =>
    (quotedBody rest).map fun (content, raw) => ('\'' :: content, '\'' :: '\'' :: raw)
  | '\'' :: _ => some ([], ['\''])
  | c :: rest => (quotedBody rest).map fun (content, raw) => (c :: content, c :: raw)
  | [] => none

/-- Signs of two characters. -/
def longSigns : List (List Char) := [['>', '='], ['<', '='], ['<', '>'], ['!', '='], ['=', '=']]

/-- The symbol at the front of a text and the characters it covers.  A quoted text
without an end is a sign of its quote. -/
def first (c : Char) (rest : List Char) : Symbol × List Char :=
  if isWordStart c then
    let raw := c :: rest.takeWhile isWordPart
    (.word (String.ofList raw), raw)
  else if c.isDigit then
    let raw := c :: rest.takeWhile Char.isDigit
    (.number (String.ofList raw), raw)
  else
    match c, quotedBody rest with
    | '\'', some (content, raw) => (.quoted (String.ofList content), '\'' :: raw)
    | _, _ =>
      let raw := if longSigns.contains (c :: rest.take 1) then c :: rest.take 1 else [c]
      (.sign (String.ofList raw), raw)

/-- The number of bytes of some characters. -/
def byteCount (cs : List Char) : Nat := cs.foldr (fun c count => c.utf8Size + count) 0

/-- The tokens of a text that stands at the given character and byte.  The fuel bounds
the number of characters. -/
def scan : (fuel : Nat) → (start offset : Nat) → List Char → List Token
  | fuel + 1, start, offset, c :: rest =>
    if isBlank c then scan fuel (start + 1) (offset + c.utf8Size) rest
    else
      let (symbol, raw) := first c rest
      ⟨symbol, start, raw, offset⟩ ::
        scan fuel (start + raw.length) (offset + byteCount raw) (rest.drop (raw.length - 1))
  | _, _, _, _ => []

/-- The tokens of a statement. -/
def ofText (sql : String) : List Token := scan sql.length 0 0 sql.toList

end Token
end Reference
end EngineLink
