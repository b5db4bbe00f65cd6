import EngineLink.Text.Alphanumeric
import EngineLink.Text.Blank
import EngineLink.Text.Utf8

/-!
# Environment files

An environment is a list of named texts.  An environment file has one assignment on a
line, or on several lines while a quote is open, and an assignment counts only if its
name is not set yet.  The first line that is no assignment, or no text, ends the reading;
what was assigned before it stays.

- {lit}`EnvFile.text` is the part of a file that can be read.
- {lit}`EnvFile.lines` joins the lines of a file.
- {lit}`EnvFile.assignment` reads one line.
- {lit}`EnvFile.added` is what a file adds to an environment.
-/

namespace EngineLink

/-- Named texts, of which the first one under a name counts. -/
abbrev Environment := List (String × String)

namespace Environment

/-- The text under a name. -/
def value? (env : Environment) (name : String) : Option String :=
  (env.find? fun entry => entry.1 = name).map (·.2)

end Environment

namespace EnvFile

/-! ## Lines -/

/-- What the end of a line would mean at some place in it.  Only in a complete place the
line can end. -/
inductive Place where
  | complete
  | blank
  | escape
  | strong
  | strongEscape
  | weak
  | weakEscape
  deriving DecidableEq

/-- The place after an unquoted character that opens no comment. -/
def Place.opened : Char → Place
  | '\\' => .escape
  | '"' => .weak
  | '\'' => .strong
  | _ => .complete

/-- The place after a character, or none if the character opens a comment. -/
def Place.next (c : Char) : Place → Option Place
  | .complete =>
    some (if Text.isBlank c && c ≠ '\n' && c ≠ '\r' then .blank else Place.opened c)
  | .blank => if c = '#' then none else some (Place.opened c)
  | .escape => some .complete
  | .strong => some (if c = '\\' then .strongEscape else if c = '\'' then .complete else .strong)
  | .strongEscape => some .strong
  | .weak => some (if c = '\\' then .weakEscape else if c = '"' then .complete else .weak)
  | .weakEscape => some .weak

/-- The part of a line before a comment, and the place at its end if there is none. -/
def scan : Place → List Char → List Char × Option Place
  | place, [] => ([], some place)
  | place, c :: rest =>
    match place.next c with
    | none => ([], none)
    | some after =>
      let (kept, last) := scan after rest
      (c :: kept, last)

/-- The lines of a text or of bytes, each with what ends it. -/
def physicalLines {α : Type} [DecidableEq α] (stop : α) : List α → List (List α)
  | [] => []
  | c :: rest =>
    if c = stop then [c] :: physicalLines stop rest
    else
      match physicalLines stop rest with
      | [] => [[c]]
      | line :: others => (c :: line) :: others

/-- The text of some lines, up to the first that is none. -/
def leadingText : List Bytes → List Char
  | [] => []
  | line :: rest =>
    match Utf8.decode? line with
    | none => []
    | some s => s.toList ++ leadingText rest

/-- The text of a file, up to its first line that is none.  That line would be refused. -/
def text (content : Bytes) : String := String.ofList (leadingText (physicalLines 0x0a content))

/-- A line without the characters that end it. -/
def withoutEnd (line : List Char) : List Char :=
  match line.reverse with
  | '\n' :: '\r' :: front => front.reverse
  | '\n' :: front => front.reverse
  | _ => line

/-- Join lines while a quote is open.  A text that ends within a line has {lit}`none` as
its last line. -/
def joined : (front : List Char) → Place → List (List Char) → List (Option (List Char))
  | _, place, [] => if place = .complete then [] else [none]
  | front, place, line :: rest =>
    if ((front ++ line).dropWhile Text.isBlank).head? = some '#' then
      some [] :: joined [] .complete rest
    else
      match scan place line with
      | (kept, none) => some (front ++ kept) :: joined [] .complete rest
      | (_, some .complete) => some (withoutEnd (front ++ line)) :: joined [] .complete rest
      | (_, some other) => joined (front ++ line) other rest

/-- The lines of a file. -/
def lines (content : String) : List (Option (List Char)) :=
  joined [] .complete (physicalLines '\n' (Utf8.withoutMark content.toList))

/-! ## Assignments -/

/-- Where a character of a value stands.  After a dollar sign a name is collected, and in
weak quotes that name does not end the quotes. -/
inductive Mode where
  | plain
  | strong
  | weak
  | escaped (inWeak : Bool)
  | name (collected : List Char) (inWeak : Bool)
  | braced (collected : List Char) (inWeak : Bool)
  | ended

/-- The mode outside of escapes and names. -/
def Mode.quoted (inWeak : Bool) : Mode := if inWeak then .weak else .plain

/-- The character that an escape stands for. -/
def unescape (c : Char) : Option Char :=
  if c = '\\' || c = '\'' || c = '"' || c = '$' || c = ' ' then some c
  else if c = 'n' then some '\n'
  else none

/-- The text of a value.  {lit}`look` gives the texts of names; a quote or a brace that
stays open is refused. -/
def value (look : String → String) : Mode → List Char → Option (List Char)
  | .plain, [] => some []
  | .ended, [] => some []
  | .escaped inWeak, [] => if inWeak then none else some []
  | .name collected inWeak, [] =>
    if inWeak then none else some (look (String.ofList collected)).toList
  | .strong, [] => none
  | .weak, [] => none
  | .braced _ _, [] => none
  | .ended, c :: rest =>
    if c = ' ' || c = '\t' then value look .ended rest else if c = '#' then some [] else none
  | .escaped inWeak, c :: rest =>
    match unescape c with
    | some e => (value look (.quoted inWeak) rest).map (e :: ·)
    | none => none
  | .strong, c :: rest =>
    if c = '\'' then value look .plain rest else (value look .strong rest).map (c :: ·)
  | .name collected inWeak, c :: rest =>
    if Text.isAlphanumeric c then value look (.name (collected ++ [c]) inWeak) rest
    else if c = '\x7b' && collected.isEmpty then value look (.braced [] inWeak) rest
    else
      let found := (look (String.ofList collected)).toList
      if c = '$' then (value look (.name [] inWeak) rest).map (found ++ ·)
      else (value look (.quoted inWeak) rest).map (found ++ c :: ·)
  | .braced collected inWeak, c :: rest =>
    if c = '\x7d' then
      (value look (.quoted inWeak) rest).map ((look (String.ofList collected)).toList ++ ·)
    else value look (.braced (collected ++ [c]) inWeak) rest
  | .weak, c :: rest =>
    if c = '$' then value look (.name [] true) rest
    else if c = '"' then value look .plain rest
    else if c = '\\' then value look (.escaped true) rest
    else (value look .weak rest).map (c :: ·)
  | .plain, c :: rest =>
    if c = '$' then value look (.name [] false) rest
    else if c = '\'' then value look .strong rest
    else if c = '"' then value look .weak rest
    else if c = '\\' then value look (.escaped false) rest
    else if c = ' ' || c = '\t' then value look .ended rest
    else (value look .plain rest).map (c :: ·)

/-- Characters of a name after its first one. -/
def isNamePart (c : Char) : Bool := c.isAlphanum || c = '_' || c = '.'

/-- The name at the front of a line. -/
def name? (cs : List Char) : Option (List Char × List Char) :=
  match cs with
  | c :: _ =>
    if c.isAlpha || c = '_' then some (cs.takeWhile isNamePart, cs.dropWhile isNamePart) else none
  | [] => none

/-- The name that a line assigns to, and what follows the equals sign.  The word
{lit}`export` may stand in front of the name. -/
def target (cs : List Char) : Option (List Char × List Char) :=
  match name? cs with
  | none => none
  | some (first, rest) =>
    match rest.dropWhile Text.isBlank with
    | '=' :: after => some (first, after)
    | other =>
      if first = "export".toList then
        match name? other with
        | none => none
        | some (second, tail) =>
          match tail.dropWhile Text.isBlank with
          | '=' :: after => some (second, after)
          | _ => none
      else none

/-- A line is refused, is empty, or assigns a text to a name. -/
def assignment (look : String → String) (line : List Char) : Option (Option (String × String)) :=
  let cs := (Text.trimEnd line).dropWhile Text.isBlank
  if cs = [] ∨ cs.head? = some '#' then some none
  else
    match target cs with
    | none => none
    | some (assigned, rest) =>
      let raw := rest.dropWhile Text.isBlank
      if raw = [] ∨ raw.head? = some '#' then some (some (String.ofList assigned, ""))
      else (value look .plain raw).map fun text => some (String.ofList assigned, String.ofList text)

/-- What some lines add to an environment: their assignments to names that are not set yet,
up to the first line that is refused. -/
def added : Environment → List (Option (List Char)) → Environment
  | _, [] => []
  | _, none :: _ => []
  | env, some line :: rest =>
    match assignment (fun name => (env.value? name).getD "") line with
    | none => []
    | some none => added env rest
    | some (some (name, text)) =>
      if (env.value? name).isSome then added env rest
      else (name, text) :: added (env ++ [(name, text)]) rest

end EnvFile
end EngineLink
