import EngineLink.Settings.Basic
import EngineLink.Settings.EnvFile
import EngineLink.Settings.TomlReader
import EngineLink.Text.Utf8

/-!
# Loading settings

Settings come from a document, and every setting can be overridden by a variable of the
environment.  A variable whose text is no value of its setting changes nothing.

- {lit}`Settings.read` reads the settings of a document.
- {lit}`Settings.override` applies an environment.
- {lit}`Settings.load` does both for the given sources and validates the outcome.
- {lit}`Settings.loadFiles` takes the sources from files.
-/

namespace EngineLink
namespace Settings

/-! ## Documents -/

/-- The text that a value is. -/
def text? : Toml.Value → Option String
  | .text s => some s
  | _ => none

/-- The texts of an array of texts. -/
def texts? : Toml.Node → Option (List String)
  | .leaf (.array items) => items.mapM text?
  | _ => none

/-- A number that is not negative, within sixty-four bits. -/
def number? : Toml.Node → Option UInt64
  | .leaf (.integer i) => if 0 ≤ i ∧ i < UInt64.size then some (UInt64.ofNat i.toNat) else none
  | _ => none

/-- A setting under its key: as its reader reads it, or the standard one if the key is
not there. -/
def setting {α : Type} (table : Toml.Table) (key : String) (reader : Toml.Node → Option α)
    (otherwise : α) : Option α :=
  match table.find? key with
  | none => some otherwise
  | some node => reader node

/-- The settings in a document's root table.  Other keys are ignored. -/
def ofTable? (table : Toml.Table) : Option Settings := do
  let languages ← setting table "languages" texts? standard.languages
  let pageSize ← setting table "page_size_bytes" (fun node => (number? node).map some)
    standard.pageSize
  let recentPages ← setting table "recent_pages" number? standard.recentPages
  return ⟨languages, pageSize, recentPages⟩

/-- The settings of a document. -/
def read (content : String) : Except SettingsFault Settings :=
  match Toml.read content with
  | none => .error .malformed
  | some table =>
    match ofTable? table with
    | none => .error .illTyped
    | some s => .ok s

/-! ## Environments -/

/-- The name of the variable with the preferred languages. -/
def languagesVariable : String := "SQLBRIDGE_LANGS"

/-- The name of the variable with the bytes of a page. -/
def pageSizeVariable : String := "SQLBRIDGE_PAGE_SIZE"

/-- The name of the variable with the number of recent pages. -/
def recentPagesVariable : String := "SQLBRIDGE_RECENT_PAGES"

/-- The pieces of a text between commas. -/
def pieces : List Char → List (List Char)
  | [] => [[]]
  | c :: rest =>
    if c = ',' then [] :: pieces rest
    else
      match pieces rest with
      | [] => [[c]]
      | piece :: others => (c :: piece) :: others

/-- The languages in a text: its pieces without blanks around them, if any is left. -/
def languages? (text : String) : Option (List String) :=
  match ((pieces text.toList).map Text.trim).filter (· ≠ []) with
  | [] => none
  | found => some (found.map String.ofList)

/-- The number that a run of decimal digits writes, within sixty-four bits. -/
def unsigned? (digits : List Char) : Option UInt64 :=
  if digits ≠ [] ∧ digits.all (Leading.isDigit 10) then
    let n := Leading.ofDigits 10 digits
    if n < UInt64.size then some (UInt64.ofNat n) else none
  else none

/-- The decimal number in a text, with blanks around it and a plus sign allowed. -/
def decimal? (text : String) : Option UInt64 :=
  match Text.trim text.toList with
  | '+' :: digits => unsigned? digits
  | digits => unsigned? digits

/-- The settings with those that an environment gives in their places. -/
def override (s : Settings) (env : Environment) : Settings where
  languages := ((env.value? languagesVariable).bind languages?).getD s.languages
  pageSize := ((env.value? pageSizeVariable).bind decimal?).orElse fun _ => s.pageSize
  recentPages := ((env.value? recentPagesVariable).bind decimal?).getD s.recentPages

/-! ## Sources -/

/-- Where settings come from: a document, an environment file, and the environment of the
process, which wins over the file. -/
structure Sources where
  document : Option Bytes
  envFile : Option String
  environment : Environment

namespace Sources

/-- What the environment file adds to the environment of the process. -/
def added (sources : Sources) : Environment :=
  match sources.envFile with
  | none => []
  | some content => EnvFile.added sources.environment (EnvFile.lines content)

/-- The environment of the process with what the environment file adds. -/
def effective (sources : Sources) : Environment := sources.environment ++ sources.added

/-- The settings of the document, or the standard ones if there is none. -/
def documented (sources : Sources) : Except SettingsFault Settings :=
  match sources.document with
  | none => .ok standard
  | some bytes =>
    match Utf8.decode? bytes with
    | none => .error .notText
    | some content => read content

end Sources

/-- Load settings from their sources. -/
def load (sources : Sources) : Except SettingsFault Settings := do
  let documented ← sources.documented
  let settings := documented.override sources.effective
  settings.validate
  return settings

/-- Load settings from files.  The environment file is worked through first.  No environment
takes a text with a null character, so there is no outcome if one has to be set: the program
ends there. -/
def loadFiles (document envFile : Option Bytes) (environment : Environment) :
    Option (Except SettingsFault Settings) :=
  let sources : Sources := ⟨document, envFile.map EnvFile.text, environment⟩
  if sources.added.any fun entry => entry.2.toList.contains '\x00' then none
  else some (load sources)

end Settings
end EngineLink
