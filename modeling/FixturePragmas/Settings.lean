import FixturePragmas.Dialect.Catalog
import FixturePragmas.Files
import FixturePragmas.Journal
import FixturePragmas.Toml.Value

/-!
# Settings

Settings declare dialects, each by a table under its name. The table of a dialect that is built in
changes the fields it sets and no others; that of a new one must give an opener that is not empty.
`Settings.catalog` reads the tables one after the other, and the first fault in them decides.
-/

namespace FixturePragmas

/-- The dialects declared, and the file they were read from. -/
structure Settings where
  dialects : Catalog
  source? : Option Path
  deriving DecidableEq

namespace Settings

/-- Settings that declare nothing. -/
def default : Settings := ⟨.empty, none⟩

/-- The built-in dialects with those of the settings over them. -/
def catalogInUse (s : Settings) : Catalog := Catalog.effective s.dialects

/-- What can be wrong with settings. -/
inductive Error where
  /-- The file cannot be read. -/
  | unreadable (e : FileError)
  /-- The file is no TOML document. What the parser finds wrong with it is not kept. -/
  | invalidToml (path : Path)
  /-- What stands for the dialects is no table. -/
  | dialectsNotATable
  /-- The section of the settings in a shared file is no table. -/
  | sectionNotATable
  /-- The entry of a dialect is no table. -/
  | dialectNotATable (name : String)
  /-- The table of a dialect has keys that mean nothing. -/
  | unknownKeys (name : String) (keys : List String)
  /-- What stands under a key is no list of texts. -/
  | notStrings (name key : String)
  /-- The description is no text. -/
  | descriptionNotAString (name : String)
  /-- A new dialect has no opener. -/
  | noOpeners (name : String)
  deriving DecidableEq, Repr

/-- The section of a shared file in which the settings stand. -/
def sectionName : String := "pragmascan"

/-- The wording of a fault. Of an invalid document only the path is told, and not the finding of the
parser that stands behind a colon. -/
def Error.message : Error → String
  | unreadable e => s!"Cannot read configuration file {e.path}: {e.message}"
  | invalidToml path => s!"Invalid TOML in {path}"
  | dialectsNotATable => "'dialects' must be a table"
  | sectionNotATable => s!"[tool.{sectionName}] must be a table"
  | dialectNotATable name => s!"[dialects.{name}] must be a table"
  | unknownKeys name keys => s!"[dialects.{name}] has unknown key(s): " ++ ", ".intercalate keys
  | notStrings name key => s!"dialects.{name}.{key} must be a list of strings"
  | descriptionNotAString name => s!"dialects.{name}.description must be a string"
  | noOpeners name => s!"[dialects.{name}] must define non-empty comment_prefixes"

/-! ### The fields of one dialect -/

/-- The keys in the table of a dialect. -/
def openersKey : String := "comment_prefixes"

def extensionsKey : String := "extensions"

def fileNamesKey : String := "filenames"

def descriptionKey : String := "description"

/-- The keys that mean something, in alphabetical order. -/
def knownKeys : List String := [openersKey, descriptionKey, extensionsKey, fileNamesKey]

/-- Texts in the order of their code points. -/
def sorted (ss : List String) : List String := ss.mergeSort fun a b => !decide (b < a)

/-- What a table sets. -/
structure Fields where
  openers? : Option (List String)
  extensions? : Option (List String)
  fileNames? : Option (List String)
  description? : Option String
  deriving DecidableEq, Repr

/-- The list of texts under `key`, if the table has the key. -/
def stringsAt (name key : String) (t : Toml.Table) : Except Error (Option (List String)) :=
  match t.lookup key with
  | none => .ok none
  | some v =>
    match v.strings? with
    | some ss => .ok (some ss)
    | none => .error (.notStrings name key)

/-- The description, if the table has one. -/
def descriptionIn (name : String) (t : Toml.Table) : Except Error (Option String) :=
  match t.lookup descriptionKey with
  | none => .ok none
  | some v =>
    match v.string? with
    | some s => .ok (some s)
    | none => .error (.descriptionNotAString name)

/-- What the table of the dialect `name` sets. -/
def Fields.ofTable (name : String) (t : Toml.Table) : Except Error Fields := do
  let unknown := (t.map Prod.fst).filter (· ∉ knownKeys)
  -- unknown keys come before the values of known ones; the fields are read in the order below
  if unknown ≠ [] then
    throw (.unknownKeys name (sorted unknown))
  let openers? ← stringsAt name openersKey t
  let extensions? ← stringsAt name extensionsKey t
  let fileNames? ← stringsAt name fileNamesKey t
  let description? ← descriptionIn name t
  return ⟨openers?, extensions?, fileNames?, description?⟩

/-- The dialect `d` with the fields that are set. -/
def Fields.over (f : Fields) (d : Dialect) : Dialect where
  name := d.name
  openers := f.openers?.getD d.openers
  extensions := f.extensions?.getD d.extensions
  fileNames := f.fileNames?.getD d.fileNames
  description := f.description?.getD d.description

/-! ### All dialects -/

/-- The dialect that the entry `name` declares. -/
def dialectOf (name : String) (v : Toml.Value) : Journal Log.Note Error Dialect :=
  match v.table? with
  | none => throw (.dialectNotATable name)
  | some t => do
    let fields ← .ofExcept (Fields.ofTable name t)
    -- the fields are checked in both cases, openers only where nothing stands in for them
    match Catalog.builtIn.get? name with
    | some base =>
      .write (.builtInOverridden name (knownKeys.filter (· ∈ t.map Prod.fst)))
      return fields.over base
    | none =>
      -- a list of empty openers is as good as none
      if (fields.openers?.getD []).all (· = "") then throw (.noOpeners name)
      return fields.over { name, openers := [] }

/-- The dialects that a table of settings declares. -/
def catalog (t : Toml.Table) : Journal Log.Note Error Catalog :=
  match (t.lookup "dialects").getD (.table []) with
  -- no table of dialects counts as an empty one
  | .table es => do
    let ds ← es.mapM fun e => do
      let d ← dialectOf e.1 e.2
      return (e.1, d)
    return .ofList ds
  | _ => throw .dialectsNotATable

/-- The settings in a table that was read from `source?`. -/
def ofTable (source? : Option Path) (t : Toml.Table) : Journal Log.Note Error Settings := do
  let dialects ← catalog t
  return ⟨dialects, source?⟩

end Settings

end FixturePragmas
