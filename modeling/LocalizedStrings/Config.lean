import LocalizedStrings.Glob
import LocalizedStrings.Resource

/-!
# Configuration

What is scanned, what is left out, and which resource files are written.

* `Locale`: a resource file, as the name of its directory and the field that it holds.
* `Config`: the whole configuration; a field that is left out has its default.
* `Config.check`: the first thing wrong with a configuration, if there is one.
* `Config.resources`: the resource files that are written.
-/

namespace LocalizedStrings

/-- A resource file: it lies in the directory `name.lproj`. -/
structure Locale where
  name : String
  field : Field
  deriving DecidableEq, Repr

/-- A configuration, with its defaults. -/
structure Config where
  /-- The extensions of the files that are scanned. -/
  sourceExtensions : List String := ["swift"]
  /-- Globs, and paths below the scanned directory, of files that are not scanned. -/
  ignores : List String := []
  resourceFileName : String := "Localizable.strings"
  locales : List Locale := [⟨"Base", .base⟩, ⟨"ja", .comment⟩]
  deriving DecidableEq, Repr

namespace Config

/-! ## Validity -/

/-- What is wrong with a configuration. -/
inductive Invalid where
  | glob (pattern : String) (error : Glob.Error)
  | noExtensions
  | blankFileName
  deriving DecidableEq, Repr

/-- The text for an invalid configuration. -/
def Invalid.message : Invalid → String
  | glob pattern error =>
    "Invalid glob pattern in 'ignores': \"" ++ pattern ++ "\": " ++ error.message
  | noExtensions => "'sourceExtensions' must not be empty"
  | blankFileName => "'resourceFileName' must not be empty"

/-- The first thing that is wrong with the configuration. -/
def check (c : Config) : Except Invalid Unit :=
  match c.ignores.findSome? fun p => (Glob.fault? p).map (Invalid.glob p) with
  | some e => .error e
  | none =>
    if c.sourceExtensions.isEmpty then .error .noExtensions
    else if (Text.trim c.resourceFileName.toList).isEmpty then .error .blankFileName
    else .ok ()

/-! ## Resource files -/

/-- The path of the resource file of a locale, in the directory `root`. -/
def resourcePath (c : Config) (root : String) (l : Locale) : String :=
  Path.join (Path.join root (l.name ++ ".lproj")) c.resourceFileName

/-- The resource files in the directory `root`. -/
def resources (c : Config) (root : String) : List Resource :=
  c.locales.map fun l => ⟨c.resourcePath root l, l.field⟩

end Config

end LocalizedStrings
