import LocalizedStrings.FileTree
import LocalizedStrings.Glob

/-!
# Selection of source files

The source files of a directory are the files at or below it that have one of some extensions and
that are not ignored. An ignore pattern is a glob for the path of a file if it holds `*` or `?`, and
else a path below the directory, which stands for all that lies at or below it.

* `ignores`: whether a pattern stands for a path.
* `isSource`: which of the files are chosen.
* `Selection`: the source files, sorted, and what went wrong.
* `Selection.ofDirectory`: the selection in a file tree.
-/

namespace LocalizedStrings

namespace Selection

/-- The ignore pattern stands for a path at or below `root`. A glob that is malformed stands for
none. -/
def ignores (root pattern path : String) : Bool :=
  if Glob.isGlob pattern then
    match Glob.parse pattern with
    | .ok g => g.covers path
    | .error _ => false
  else Path.startsWith path (Path.join root pattern)

/-- The extension of the path is one of `extensions`. -/
def hasExtension (extensions : List String) (path : String) : Bool :=
  (Path.extension? path).any extensions.contains

/-- What lies at the path, at or below `root`, is a source file. -/
def isSource (root : String) (extensions patterns : List String) (path : String) (node : Node) :
    Bool :=
  node.isFile && hasExtension extensions path && !patterns.any fun p => ignores root p path

/-- What went wrong with a selection. -/
inductive Warning where
  /-- An ignore pattern is not in force. -/
  | glob (pattern : String) (error : Glob.Error)
  /-- What is at the path, or lies below it, cannot be looked at. -/
  | unseen (path : String) (error : SystemError)
  deriving DecidableEq, Repr

/-- The text for a warning. -/
def Warning.message : Warning → String
  | glob pattern error => "Invalid ignore pattern '" ++ pattern ++ "': " ++ error.message
  | unseen path error =>
    "Cannot access path: IO error for operation on " ++ path ++ ": " ++ error.message

end Selection

/-- The source files that were found, and what went wrong. -/
structure Selection where
  files : List String
  /-- The number of paths that could not be looked at. -/
  skipped : Nat
  warnings : List Selection.Warning

namespace Selection

/-- The source files at or below the path `root`. -/
def ofDirectory (t : FileTree) (root : String) (extensions patterns : List String) : Selection :=
  let below := t.walk root
  let chosen := below.filter fun e => e.2.toOption.any (isSource root extensions patterns e.1)
  let refused := below.filterMap fun e => match e.2 with
    | .ok _ => none
    | .error error => some (.unseen e.1 error)
  ⟨(chosen.map Prod.fst).mergeSort Path.le, refused.length,
    (patterns.filterMap fun p => (Glob.fault? p).map (.glob p)) ++ refused⟩

end Selection

end LocalizedStrings
