import EngineLink.Proofs.Settings.ValidTexts

/-!
# Which source a setting comes from

A setting comes from its variable if the variable has a valid text, else from the document, and
else it is the standard one.  A variable has the text that the process gives it, else the one of
its first assignment in the environment file.  The three settings do not depend on each other, and
a document that cannot be read is an error whatever the variables are.

Main results:

- Theorem {lit}`value?_added`: what a variable is after the environment file.
- Theorem {lit}`documented_documented`: what comes of a document.
- Theorem {lit}`overridden_override`: what variables change.
- Theorem {lit}`settings_follow_precedence`: what comes of a document, an environment file and an
  environment.
-/

namespace EngineLink

/-! ## Variables -/

namespace EnvFile

/-- The assignments of some lines, up to the first that is refused.  Each is read with what the
names before it are set to. -/
def assignments : Environment → List (Option (List Char)) → Environment
  | _, [] => []
  | _, none :: _ => []
  | env, some line :: rest =>
    match assignment (fun name => (env.value? name).getD "") line with
    | none => []
    | some none => assignments env rest
    | some (some entry) => entry :: assignments (env ++ [entry]) rest

end EnvFile

namespace Environment

variable {env env' : Environment} {name : String}

theorem value?_append (env env' : Environment) (name : String) :
    (env ++ env').value? name = (env.value? name).or (env'.value? name) := by
  rw [value?, List.find?_append, Option.map_or]
  rfl

/-- An assignment to a name that is set changes nothing. -/
theorem value?_append_of_isSome (hset : (env.value? name).isSome = true) (text other : String) :
    (env ++ [(name, text)]).value? other = env.value? other := by
  rw [value?_append]
  by_cases hname : name = other
  · subst hname
    exact Option.or_of_isSome hset
  · have hother : value? [(name, text)] other = none := by
      rw [value?, List.find?_cons_of_neg (by simpa using hname)]
      rfl
    rw [hother, Option.or_none]

theorem mem_of_value? {text : String} (hvalue : env.value? name = some text) :
    (name, text) ∈ env := by
  rw [value?, Option.map_eq_some_iff] at hvalue
  obtain ⟨⟨found, value⟩, hfind, rfl⟩ := hvalue
  have hfound := List.find?_some hfind
  rw [decide_eq_true_eq] at hfound
  exact hfound ▸ List.mem_of_find?_eq_some hfind

theorem value?_singleton (name text : String) : value? [(name, text)] name = some text := by
  rw [value?, List.find?_cons_of_pos (by simp)]
  rfl

end Environment

namespace EnvFile

open Environment

variable {env env' : Environment}

/-- Of several assignments to a name the first one counts, and only if the name is not set. -/
theorem value?_added (hsame : ∀ name, env.value? name = env'.value? name)
    (lines : List (Option (List Char))) (name : String) :
    (env ++ added env lines).value? name = (env' ++ assignments env' lines).value? name := by
  induction lines generalizing env env' with
  | nil =>
    rw [added, assignments, List.append_nil, List.append_nil]
    exact hsame name
  | cons line rest ih =>
    cases line with
    | none =>
      rw [added, assignments, List.append_nil, List.append_nil]
      exact hsame name
    | some line =>
      rw [added, assignments]
      simp only [hsame]
      cases assignment (fun name => (env'.value? name).getD "") line with
      | none =>
        simp only [List.append_nil]
        exact hsame name
      | some entry =>
        cases entry with
        | none => exact ih hsame
        | some entry =>
          obtain ⟨assigned, text⟩ := entry
          simp only
          rw [List.append_cons env']
          by_cases hset : (env'.value? assigned).isSome = true
          · rw [if_pos hset]
            apply ih
            intro other
            rw [value?_append_of_isSome hset, hsame]
          · rw [if_neg hset, List.append_cons env]
            apply ih
            intro other
            rw [value?_append, value?_append, hsame]

/-- What is added is set, and was not set before. -/
theorem mem_added {lines : List (Option (List Char))} {name text : String}
    (hmem : (name, text) ∈ added env lines) :
    env.value? name = none ∧ (env ++ added env lines).value? name = some text := by
  induction lines generalizing env with
  | nil => exact absurd hmem List.not_mem_nil
  | cons line rest ih =>
    cases line with
    | none => exact absurd hmem List.not_mem_nil
    | some line =>
      rw [added] at hmem ⊢
      generalize assignment (fun name => (env.value? name).getD "") line = entry at hmem ⊢
      rcases entry with _ | _ | ⟨assigned, value⟩
      · exact absurd hmem List.not_mem_nil
      · exact ih hmem
      · simp only at hmem ⊢
        by_cases hset : (env.value? assigned).isSome = true
        · rw [if_pos hset] at hmem ⊢
          exact ih hmem
        · rw [if_neg hset] at hmem ⊢
          rw [List.append_cons env]
          rcases List.mem_cons.mp hmem with hfirst | hmem
          · cases hfirst
            have hnone : env.value? name = none := Option.not_isSome_iff_eq_none.mp hset
            refine ⟨hnone, ?_⟩
            rw [value?_append, value?_append, hnone, value?_singleton]
            rfl
          · obtain ⟨hnone, hvalue⟩ := ih hmem
            rw [value?_append, Option.or_eq_none_iff] at hnone
            exact ⟨hnone.1, hvalue⟩

end EnvFile

namespace Settings

/-- The text of a variable: what the process gives, else the first assignment in the environment
file. -/
def effectiveText? (envFile : Option Bytes) (environment : Environment) (name : String) :
    Option String :=
  (environment.value? name).or
    (envFile.bind fun content =>
      (EnvFile.assignments environment (EnvFile.lines (EnvFile.text content))).value? name)

/-- A variable of the environment goes before the same one in the file. -/
theorem value?_effective (document envFile : Option Bytes) (environment : Environment)
    (name : String) :
    (Sources.effective ⟨document, envFile.map EnvFile.text, environment⟩).value? name =
      effectiveText? envFile environment name := by
  cases envFile with
  | none => rw [effectiveText?, Sources.effective, Environment.value?_append]; rfl
  | some content =>
    rw [effectiveText?, Option.bind_some, ← Environment.value?_append]
    exact EnvFile.value?_added (fun _ => rfl) _ name

/-- Only what the environment leaves open is added from the file, and it is what counts. -/
theorem mem_sources_added {sources : Sources} {name text : String}
    (hmem : (name, text) ∈ sources.added) :
    sources.environment.value? name = none ∧ sources.effective.value? name = some text := by
  unfold Sources.effective
  unfold Sources.added at hmem ⊢
  cases hfile : sources.envFile with
  | none =>
    rw [hfile] at hmem
    exact absurd hmem List.not_mem_nil
  | some content =>
    rw [hfile] at hmem
    exact EnvFile.mem_added hmem

/-! ## Documents -/

/-- The setting under a key of a document, or the standard one if the key is not there. -/
inductive Given {α : Type} (table : Toml.Table) (key : String) (form : Toml.Node → α → Prop)
    (otherwise : α) : α → Prop
  | present {node : Toml.Node} {value : α} (hnode : table.find? key = some node)
    (hform : form node value) : Given table key form otherwise value
  | absent (hkey : table.find? key = none) : Given table key form otherwise otherwise

/-- A key with a node that is no value of its setting. -/
def IllFormed {α : Type} (table : Toml.Table) (key : String) (form : Toml.Node → α → Prop) : Prop :=
  ∃ node, table.find? key = some node ∧ ∀ value, ¬ form node value

/-- Languages stand in a document as an array of texts. -/
def IsLanguages (node : Toml.Node) (languages : List String) : Prop :=
  node = .leaf (.array (languages.map .text))

/-- A number stands in a document as an integer. -/
def IsNumber (node : Toml.Node) (n : UInt64) : Prop := node = .leaf (.integer n.toNat)

/-- A page size that is given is a number. -/
def IsPageSize (node : Toml.Node) (size : Option UInt64) : Prop :=
  ∃ n, IsNumber node n ∧ size = some n

/-- The settings that the root table of a document gives. -/
structure Gives (table : Toml.Table) (s : Settings) : Prop where
  languages : Given table "languages" IsLanguages standard.languages s.languages
  pageSize : Given table "page_size_bytes" IsPageSize standard.pageSize s.pageSize
  recentPages : Given table "recent_pages" IsNumber standard.recentPages s.recentPages

/-- A setting in the root table has the wrong type. -/
def IllTyped (table : Toml.Table) : Prop :=
  IllFormed table "languages" IsLanguages ∨ IllFormed table "page_size_bytes" IsPageSize ∨
    IllFormed table "recent_pages" IsNumber

/-- What comes of a document: an error if it is no text, if that is no document, or if a setting has
the wrong type, and else its settings. -/
inductive Documented (document : Option Bytes) : Except SettingsFault Settings → Prop
  | missing (hdocument : document = none) : Documented document (.ok standard)
  | notText {bytes : Bytes} (hdocument : document = some bytes)
    (htext : ∀ content, Utf8.encode content ≠ bytes) : Documented document (.error .notText)
  | malformed {content : String} (hdocument : document = some (Utf8.encode content))
    (hread : Toml.read content = none) : Documented document (.error .malformed)
  | illTyped {content : String} {table : Toml.Table}
    (hdocument : document = some (Utf8.encode content)) (hread : Toml.read content = some table)
    (hform : IllTyped table) : Documented document (.error .illTyped)
  | read {content : String} {table : Toml.Table} {s : Settings}
    (hdocument : document = some (Utf8.encode content)) (hread : Toml.read content = some table)
    (hgives : Gives table s) : Documented document (.ok s)

section Reading

variable {α : Type} {table : Toml.Table} {key : String} {reader : Toml.Node → Option α}
  {form : Toml.Node → α → Prop} {otherwise value : α}
  (hreader : ∀ node value, reader node = some value ↔ form node value)

include hreader

/-- A setting that is read is given by the document, or has its default. -/
theorem given_of_setting (hsetting : setting table key reader otherwise = some value) :
    Given table key form otherwise value := by
  cases hnode : table.find? key with
  | none =>
    rw [setting, hnode] at hsetting
    cases hsetting
    exact .absent hnode
  | some node =>
    rw [setting, hnode] at hsetting
    exact .present hnode ((hreader node value).mp hsetting)

/-- A setting that is not read has a node of another form. -/
theorem illFormed_of_setting (hsetting : setting table key reader otherwise = none) :
    IllFormed table key form := by
  cases hnode : table.find? key with
  | none =>
    rw [setting, hnode] at hsetting
    cases hsetting
  | some node =>
    have hread : reader node = none := by rwa [setting, hnode] at hsetting
    refine ⟨node, hnode, fun value hform => ?_⟩
    rw [(hreader node value).mpr hform] at hread
    cases hread

end Reading

/-- A reader of numbers is one of page sizes. -/
theorem map_some_eq_some_iff {α β : Type} {reader : α → Option β} {valid : α → β → Prop}
    (hreader : ∀ a b, reader a = some b ↔ valid a b) (a : α) (value : Option β) :
    (reader a).map some = some value ↔ ∃ b, valid a b ∧ value = some b := by
  rw [Option.map_eq_some_iff]
  constructor
  · rintro ⟨b, hread, rfl⟩
    exact ⟨b, (hreader a b).mp hread, rfl⟩
  · rintro ⟨b, hvalid, rfl⟩
    exact ⟨b, (hreader a b).mpr hvalid, rfl⟩

/-- The settings of a table are read, or one of them has the wrong type. -/
theorem ofTable?_cases (table : Toml.Table) :
    (∃ s, ofTable? table = some s ∧ Gives table s) ∨ ofTable? table = none ∧ IllTyped table := by
  have hsize : ∀ node size, (number? node).map some = some size ↔ IsPageSize node size :=
    map_some_eq_some_iff fun _ _ => number?_eq_some_iff
  unfold ofTable?
  cases hlanguages : setting table "languages" texts? standard.languages with
  | none => exact .inr ⟨rfl, .inl (illFormed_of_setting (fun _ _ => texts?_eq_some_iff) hlanguages)⟩
  | some languages =>
    cases hpageSize : setting table "page_size_bytes" (fun node => (number? node).map some)
        standard.pageSize with
    | none =>
      exact .inr ⟨rfl, .inr (.inl (illFormed_of_setting hsize hpageSize))⟩
    | some pageSize =>
      cases hrecentPages : setting table "recent_pages" number? standard.recentPages with
      | none =>
        exact .inr ⟨rfl, .inr (.inr
          (illFormed_of_setting (fun _ _ => number?_eq_some_iff) hrecentPages))⟩
      | some recentPages =>
        exact .inl ⟨_, rfl, given_of_setting (fun _ _ => texts?_eq_some_iff) hlanguages,
          given_of_setting hsize hpageSize,
          given_of_setting (fun _ _ => number?_eq_some_iff) hrecentPages⟩

/-- The settings of a document are those it gives, and defaults for the others. -/
theorem documented_documented (sources : Sources) :
    Documented sources.document sources.documented := by
  unfold Sources.documented
  cases hdocument : sources.document with
  | none => exact .missing rfl
  | some bytes =>
    simp only
    cases hdecode : Utf8.decode? bytes with
    | none =>
      refine .notText rfl fun content hcontent => ?_
      rw [← hcontent, Utf8.decode?_encode] at hdecode
      cases hdecode
    | some content =>
      obtain rfl := Utf8.encode_of_decode? hdecode
      simp only [Settings.read]
      cases hread : Toml.read content with
      | none => exact .malformed rfl hread
      | some table =>
        simp only
        rcases ofTable?_cases table with ⟨s, hs, hgives⟩ | ⟨hnone, hform⟩
        · rw [hs]
          exact .read rfl hread hgives
        · rw [hnone]
          exact .illTyped rfl hread hform

/-! ## The choice for each setting -/

/-- A setting that a variable may give: the value that its text gives, or the documented one if it
has no text that gives a value. -/
inductive Chosen {α : Type} (valid : String → α → Prop) (text? : Option String) (documented : α) :
    α → Prop
  | given {text : String} {value : α} (htext : text? = some text) (hvalid : valid text value) :
    Chosen valid text? documented value
  | kept (hinvalid : ∀ text, text? = some text → ∀ value, ¬ valid text value) :
    Chosen valid text? documented documented

/-- The settings with those that variables give, each on its own. -/
structure Overridden (look : String → Option String) (documented s : Settings) : Prop where
  languages : Chosen HasLanguages (look languagesVariable) documented.languages s.languages
  pageSize : Chosen (fun text size => ∃ n, HasNumber text n ∧ size = some n)
    (look pageSizeVariable) documented.pageSize s.pageSize
  recentPages : Chosen HasNumber (look recentPagesVariable) documented.recentPages s.recentPages

/-- A valid text of a variable goes before the document, and any other one is passed over. -/
theorem chosen_getD {α : Type} {reader : String → Option α} {valid : String → α → Prop}
    (hreader : ∀ text value, reader text = some value ↔ valid text value) (text? : Option String)
    (documented : α) : Chosen valid text? documented ((text?.bind reader).getD documented) := by
  cases htext : text? with
  | none => exact .kept fun text hsome => absurd hsome (by simp)
  | some text =>
    rw [Option.bind_some]
    cases hread : reader text with
    | none =>
      refine .kept fun other hother value hvalid => ?_
      cases hother
      rw [(hreader text value).mpr hvalid] at hread
      cases hread
    | some value => exact .given rfl ((hreader text value).mp hread)

theorem overridden_override (s : Settings) (env : Environment) :
    Overridden env.value? s (s.override env) := by
  constructor
  · exact chosen_getD (fun _ _ => languages?_eq_some_iff) _ _
  · have hsize : ∀ text size, (decimal? text).map some = some size ↔
        ∃ n, HasNumber text n ∧ size = some n :=
      map_some_eq_some_iff fun _ _ => decimal?_eq_some_iff
    have hpageSize : (s.override env).pageSize =
        ((env.value? pageSizeVariable).bind fun text => (decimal? text).map some).getD
          s.pageSize := by
      rw [override]
      cases env.value? pageSizeVariable with
      | none => rfl
      | some text =>
        rw [Option.bind_some, Option.bind_some]
        cases decimal? text <;> rfl
    rw [hpageSize]
    exact chosen_getD hsize _ _
  · exact chosen_getD (fun _ _ => decimal?_eq_some_iff) _ _

/-! ## Loading -/

/-- What comes of loading settings: the error of the document whatever the variables are, or the
settings with those that variables give, if there is room on a page. -/
inductive Loads (document : Option Bytes) (look : String → Option String) :
    Except SettingsFault Settings → Prop
  | faulty {fault : SettingsFault} (hdocument : Documented document (.error fault)) :
    Loads document look (.error fault)
  | loaded {documented s : Settings} (hdocument : Documented document (.ok documented))
    (hchosen : Overridden look documented s) (hroom : s.pageSize ≠ some 0) :
    Loads document look (.ok s)
  | noRoom {documented s : Settings} (hdocument : Documented document (.ok documented))
    (hchosen : Overridden look documented s) (hroom : s.pageSize = some 0) :
    Loads document look (.error .zeroPageSize)

/-- Loading does what the rules of precedence say, with the variables that count. -/
theorem loads_load (sources : Sources) :
    Loads sources.document sources.effective.value? (load sources) := by
  have hdocument := documented_documented sources
  unfold load
  cases hdocumented : sources.documented with
  | error fault =>
    rw [hdocumented] at hdocument
    exact .faulty hdocument
  | ok documented =>
    rw [hdocumented] at hdocument
    have hchosen := overridden_override documented sources.effective
    by_cases hroom : (documented.override sources.effective).pageSize = some 0
    · have hvalidate : (documented.override sources.effective).validate = .error .zeroPageSize :=
        if_pos hroom
      show Loads _ _ ((documented.override sources.effective).validate.bind fun _ => .ok _)
      rw [hvalidate]
      exact .noRoom hdocument hchosen hroom
    · have hvalidate : (documented.override sources.effective).validate = .ok () := if_neg hroom
      show Loads _ _ ((documented.override sources.effective).validate.bind fun _ => .ok _)
      rw [hvalidate]
      exact .loaded hdocument hchosen hroom

/-- Settings are loaded from any document, environment file and environment as long as no text with
a null character has to be set; each comes from its variable if that is valid, else from the
document, and else it is the standard one. -/
theorem settings_follow_precedence (document envFile : Option Bytes) (environment : Environment)
    (htexts : ∀ name text, environment.value? name = none →
      effectiveText? envFile environment name = some text → '\x00' ∉ text.toList) :
    ∃ outcome, loadFiles document envFile environment = some outcome ∧
      Loads document (effectiveText? envFile environment) outcome := by
  have hadded : (Sources.added ⟨document, envFile.map EnvFile.text, environment⟩).any
      (fun entry => entry.2.toList.contains '\x00') = false := by
    rw [List.any_eq_false]
    rintro ⟨name, text⟩ hmem hnull
    obtain ⟨hunset, htext⟩ := mem_sources_added hmem
    rw [value?_effective] at htext
    exact htexts name text hunset htext (List.contains_iff_mem.mp hnull)
  refine ⟨load ⟨document, envFile.map EnvFile.text, environment⟩, ?_, ?_⟩
  · rw [loadFiles, hadded]
    rfl
  · have hloads := loads_load ⟨document, envFile.map EnvFile.text, environment⟩
    rwa [funext (value?_effective document envFile environment)] at hloads

/-- A file that assigns twice to one variable, beside a document and a variable of the process. -/
theorem first_assignment_loaded :
    (∀ name text, Environment.value? [(pageSizeVariable, "12")] name = none →
      effectiveText? (some (Utf8.encode "SQLBRIDGE_LANGS=de\nSQLBRIDGE_LANGS=fr\n"))
        [(pageSizeVariable, "12")] name = some text → '\x00' ∉ text.toList) ∧
    ∃ outcome,
      loadFiles (some (Utf8.encode "recent_pages = 4\n"))
        (some (Utf8.encode "SQLBRIDGE_LANGS=de\nSQLBRIDGE_LANGS=fr\n"))
        [(pageSizeVariable, "12")] = some outcome ∧
      Loads (some (Utf8.encode "recent_pages = 4\n"))
        (effectiveText? (some (Utf8.encode "SQLBRIDGE_LANGS=de\nSQLBRIDGE_LANGS=fr\n"))
          [(pageSizeVariable, "12")]) outcome := by
  have hlines : EnvFile.physicalLines 0x0a
      (Utf8.encode "SQLBRIDGE_LANGS=de\nSQLBRIDGE_LANGS=fr\n") =
        [Utf8.encode "SQLBRIDGE_LANGS=de\n", Utf8.encode "SQLBRIDGE_LANGS=fr\n"] := by decide
  have htext : EnvFile.text (Utf8.encode "SQLBRIDGE_LANGS=de\nSQLBRIDGE_LANGS=fr\n") =
      "SQLBRIDGE_LANGS=de\nSQLBRIDGE_LANGS=fr\n" := by
    simp only [EnvFile.text, hlines, EnvFile.leadingText, Utf8.decode?_encode]
    decide
  have hassigned : EnvFile.assignments [(pageSizeVariable, "12")]
      (EnvFile.lines "SQLBRIDGE_LANGS=de\nSQLBRIDGE_LANGS=fr\n") =
        [(languagesVariable, "de"), (languagesVariable, "fr")] := by decide
  have hnull : ∀ name text, Environment.value? [(pageSizeVariable, "12")] name = none →
      effectiveText? (some (Utf8.encode "SQLBRIDGE_LANGS=de\nSQLBRIDGE_LANGS=fr\n"))
        [(pageSizeVariable, "12")] name = some text → '\x00' ∉ text.toList := by
    intro name text hunset hvalue
    rw [effectiveText?, hunset, Option.none_or, Option.bind_some, htext, hassigned] at hvalue
    have hmem := Environment.mem_of_value? hvalue
    simp only [List.mem_cons, Prod.mk.injEq, List.not_mem_nil, or_false] at hmem
    rcases hmem with ⟨-, rfl⟩ | ⟨-, rfl⟩ <;> decide
  exact ⟨hnull, settings_follow_precedence _ _ _ hnull⟩

/-- A plus sign is no part of an unsigned number, and yet the number behind it is taken. -/
theorem plus_sign_overrides :
    (∀ core n, Text.Trimmed "+7".toList core → ¬ IsUnsigned core n) ∧
      loadFiles none none [(pageSizeVariable, "+7")] = some (.ok ⟨["en"], some 7, 0⟩) := by
  refine ⟨fun core n hcore => ?_, rfl⟩
  rw [← Text.trim_eq_of_trimmed hcore]
  exact not_isUnsigned_plus ['7'] n

end Settings
end EngineLink
