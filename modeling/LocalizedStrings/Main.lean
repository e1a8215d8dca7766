import LocalizedStrings.Program

/-!
# Running the program on the disk

What the program may look at is loaded into a file tree, the program is run on this tree, and the
files that it changed are stored. A file that cannot be read is loaded as one that holds no text.

* `Disk.load`: the tree for some options.
* `Disk.store`: stores the files that differ between two trees.
* `main`: runs the program.
-/

namespace LocalizedStrings.Disk

/-- The bytes of a file, or bytes that are no text if it cannot be read. -/
def bytesOf (path : String) : IO ByteArray := do
  try IO.FS.readBinFile path catch _ => return ⟨#[0xFF]⟩

/-- The tree with what is at a place on the disk. With `below`, a directory is loaded with all that
lies in it; of the files there, only those are read whose path satisfies `wanted`. -/
partial def loadPlace (below : Bool) (wanted : String → Bool) (t : FileTree) (p : Place) :
    IO FileTree := do
  let entry : IO.FS.DirEntry := ⟨"/", FileTree.pathBelow "/" p⟩
  match ← (entry.path.metadata).toBaseIO with
  | .error _ => return t
  | .ok data => match data.type, p with
    | .file, n :: dir =>
      if wanted entry.fileName then return t.put p (← bytesOf entry.fileName)
      else return (t.makeDirectories dir).add n dir (.file ByteArray.empty)
    | .dir, _ =>
      let t := t.makeDirectories p
      if below then
        let entries ← try entry.path.readDir catch _ => pure #[]
        entries.foldlM (fun t e => do
          match (← e.path.symlinkMetadata).type with
          | .file | .dir => loadPlace true wanted t (e.fileName :: p)
          | _ => return t) t
      else return t
    | _, _ => return t

/-- The place that a path leads to, as far as its text tells. -/
def placeOf (directory : Place) (path : String) : Place :=
  (Path.components path).foldl (fun p c => match c with
    | .root => []
    | .here => p
    | .up => p.tail
    | .name n => n :: p) directory

/-- The paths that may tell where the configuration of a directory is. -/
def configPaths (dir : String) : List String :=
  let here := [Path.join dir Config.fileName, Path.join dir ".git"]
  match _h : Path.parent? dir with
  | some parent => here ++ configPaths parent
  | none => here
termination_by dir.length
decreasing_by exact Path.length_parent?_lt _h

/-- The tree for some options, seen from a working directory. -/
def load (directory : Place) (o : Options) : IO FileTree := do
  let t := { FileTree.empty.makeDirectories directory with workingDirectory := directory }
  let loadPath (t : FileTree) (path : String) : IO FileTree :=
    loadPlace false (fun _ => true) t (placeOf directory path)
  let t ← loadPath t o.dir
  let t ← ((o.config.map fun path => [path]).getD (configPaths o.dir)).foldlM loadPath t
  match Run.configuration t o with
  | .error _ => return t
  | .ok (c, _) =>
    let t ← loadPlace true (Selection.hasExtension c.sourceExtensions) t (placeOf directory o.dir)
    (c.resources o.dir).foldlM (fun t r => loadPath t r.path) t

/-- Stores the files of the second tree that differ from the first one. -/
def store (before after : FileTree) : IO Unit :=
  after.nodes.forM fun e => match e.2 with
    | .file bytes => if before.node? e.1 = some e.2 then return
        else IO.FS.writeBinFile (FileTree.pathBelow "/" e.1) bytes
    | .directory => return

end LocalizedStrings.Disk

open LocalizedStrings in
/-- Runs the program with its arguments. -/
def main (args : List String) : IO UInt32 := do
  let name := Program.nameOf (some (← IO.appPath).toString)
  let environment ← IO.getEnv Program.environmentName
  let directory := Disk.placeOf [] (← IO.currentDir).toString
  let colors := Program.colors (← IO.getEnv "CLICOLOR_FORCE") (← IO.getEnv "NO_COLOR")
    (← IO.getEnv "CLICOLOR") (← (← IO.getStdout).isTty)
  let t ← match Options.ofArguments args environment with
    | .ok o => Disk.load directory o
    | .error _ => pure FileTree.empty
  let ending := Program.execute name t args environment colors
  Disk.store t ending.tree
  IO.print ending.out
  IO.eprint ending.err
  return ending.exitCode
