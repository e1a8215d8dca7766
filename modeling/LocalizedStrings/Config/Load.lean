import LocalizedStrings.Config
import LocalizedStrings.Json.Shape

/-!
# Reading a configuration

A configuration is a JSON object, in which keys may come in any order, other keys are passed over,
and a key that is left out has its default. It may also be an array of its values in their order, of
which the last ones may be left out. A locale is read in the same two ways, but has no defaults.

The configuration of a directory is the file `.swiftlocrc.json` in it or in the nearest directory
around it. A directory that holds `.git` is the last one that is looked at. Without such a file the
defaults are in force.

* `Config.Draft`: the values that were read so far.
* `Config.ofText`: the configuration that a text stands for.
* `Config.find?`: the path of the configuration file for a directory.
* `Config.ofFile`: the configuration in a file, which has to be valid.
* `Config.ofDirectory`: the configuration for a directory, and the file it comes from.
-/

namespace LocalizedStrings.Config

open Json

/-! ## Values -/

/-- The values that were read so far. -/
structure Draft where
  sourceExtensions : Option (List String) := none
  ignores : Option (List String) := none
  resourceFileName : Option String := none
  locales : Option (List Locale) := none

/-- The configuration with these values, and defaults for the others. -/
def Draft.config (d : Draft) : Config :=
  let c : Config := {}
  { sourceExtensions := d.sourceExtensions.getD c.sourceExtensions
    ignores := d.ignores.getD c.ignores
    resourceFileName := d.resourceFileName.getD c.resourceFileName
    locales := d.locales.getD c.locales }

/-- A text. -/
def text : Reader String := textValue "a string"

/-- A list of texts. -/
def texts : Reader (List String) := arrayOf text

/-- The name of a field. -/
def fieldName : Reader Field := variantOf "base" "translation" Field.base Field.comment

/-! ## Locales -/

/-- The member of a locale with this key. -/
def localeMember (l : Option String × Option Field) (key : String) :
    Reader (Option String × Option Field) := do
  if key = "name" then
    let v ← field key l.1 text
    pure (some v, l.2)
  else if key = "field" then
    let v ← field key l.2 fieldName
    pure (l.1, some v)
  else do
    skipField
    pure l

/-- A locale given as an object, after its brace. -/
def localeMembers : Reader Locale := do
  match ← membersOf localeMember (none, none) with
  | (some name, some field) => pure ⟨name, field⟩
  | (none, _) => .fail (.mismatch (.missing "name"))
  | (some _, none) => .fail (.mismatch (.missing "field"))

/-- A locale given as an array, after its bracket. -/
def localeItems : Reader Locale := do
  match ← item? true text with
  | none => .fail (.mismatch (.length 0 "struct LocaleTarget with 2 elements"))
  | some name => match ← item? false fieldName with
    | none => .fail (.mismatch (.length 1 "struct LocaleTarget with 2 elements"))
    | some field => do
      closeArray
      pure ⟨name, field⟩

/-- A locale. -/
def locale : Reader Locale := do
  match ← token? with
  | none => .fail .ended
  | some '{' => localeMembers
  | some '[' => localeItems
  | some c => mismatched "struct LocaleTarget" c

/-! ## The whole configuration -/

/-- The member of a configuration with this key. -/
def member (d : Draft) (key : String) : Reader Draft := do
  if key = "sourceExtensions" then
    let v ← field key d.sourceExtensions texts
    pure { d with sourceExtensions := some v }
  else if key = "ignores" then
    let v ← field key d.ignores texts
    pure { d with ignores := some v }
  else if key = "resourceFileName" then
    let v ← field key d.resourceFileName text
    pure { d with resourceFileName := some v }
  else if key = "locales" then
    let v ← field key d.locales (arrayOf locale)
    pure { d with locales := some v }
  else do
    skipField
    pure d

/-- A configuration given as an array, after its bracket. -/
def items : Reader Draft := do
  let sourceExtensions ← item? true texts
  let ignores ← item? sourceExtensions.isNone texts
  let resourceFileName ← item? sourceExtensions.isNone text
  let locales ← item? sourceExtensions.isNone (arrayOf locale)
  closeArray
  pure ⟨sourceExtensions, ignores, resourceFileName, locales⟩

/-- A configuration. -/
def reader : Reader Config := do
  let d ← match ← token? with
    | none => .fail .ended
    | some '{' => membersOf member {}
    | some '[' => items
    | some c => mismatched "struct Config" c
  pure d.config

/-- The configuration that a JSON text stands for. -/
def ofText (s : List Char) : Except Error Config :=
  (do let c ← reader; finish; pure c : Reader Config).run s |>.map Prod.fst

/-! ## Files -/

/-- The name of a configuration file. -/
def fileName : String := ".swiftlocrc.json"

/-- The path of the configuration file for a directory. -/
def find? (t : FileTree) (dir : String) : Option String :=
  if t.hasPath (Path.join dir fileName) then some (Path.join dir fileName)
  else if t.hasPath (Path.join dir ".git") then none
  else match _h : Path.parent? dir with
    | some parent => find? t parent
    | none => none
termination_by dir.length
decreasing_by exact Path.length_parent?_lt _h

theorem find?_eq (t : FileTree) (dir : String) :
    find? t dir = if t.hasPath (Path.join dir fileName) then some (Path.join dir fileName)
      else if t.hasPath (Path.join dir ".git") then none
      else (Path.parent? dir).bind (find? t) := by
  rw [find?.eq_def]
  refine ite_congr rfl (fun _ => rfl) fun _ => ite_congr rfl (fun _ => rfl) fun _ => ?_
  split
  · next hp => rw [hp, Option.bind_some]
  · next hp => rw [hp, Option.bind_none]

/-- Why there is no configuration. -/
inductive LoadError where
  | unreadable (path : String) (error : SystemError)
  | malformed (path : String) (error : Json.Error)
  | invalid (error : Invalid)
  deriving DecidableEq, Repr

/-- The texts for an error and for its cause, if the cause is described. -/
def LoadError.messages : LoadError → List String
  | unreadable path error => ["Failed to read config file: " ++ path, error.message]
  | malformed path error => ("Failed to parse config file: " ++ path) :: error.cause?.toList
  | invalid error => [error.message]

/-- The configuration in the file that a path leads to. -/
def ofFile (t : FileTree) (path : String) : Except LoadError Config := do
  let text ← (t.readText path).mapError (.unreadable path)
  let c ← (ofText text.toList).mapError (.malformed path)
  let _ ← c.check.mapError .invalid
  return c

/-- The configuration for a directory, and the path of its file if there is one. -/
def ofDirectory (t : FileTree) (dir : String) : Except LoadError (Config × Option String) :=
  match find? t dir with
  | some path => (ofFile t path).map fun c => (c, some path)
  | none => .ok ({}, none)

end LocalizedStrings.Config
