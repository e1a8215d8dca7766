import LocalizedStrings.Path

/-!
# File trees

A file tree holds files, with their bytes, and directories. Each has a place, the list of the names
that lead to it, the innermost one first. Places are unique and lie in directories, and the empty
place is the root directory. A path leads to a place from the root or from the working directory.

* `FileTree.node?`: what is at a place.
* `FileTree.resolve`: the place that a path leads to, or why it leads nowhere.
* `FileTree.readText`: the text of a file.
* `FileTree.walk`: what lies at or below a path.
* `FileTree.replace`, `add`, `remove`: a tree with a file changed, a node more, or a part less.
* **`FileTree.node?_replace`**: replacing a file changes this file alone.
* `FileError`: why a file could not be read or updated, with its path.
* `FileTree.scan`: what a scanner of texts finds in a file.

Left out are symbolic links, permissions, and names that are not encoded in UTF-8: every file can be
read and written, and every name is a text. A directory lists its nodes in the order of the tree.
-/

namespace LocalizedStrings

/-- Why a path cannot be used. -/
inductive SystemError where
  | noEntry
  | notDirectory
  | isDirectory
  /-- The path, or a name in it, takes too many bytes. -/
  | tooLong
  /-- The path holds the character U+0000. -/
  | nullInPath
  /-- The bytes of the file are no text. -/
  | notText
  deriving DecidableEq, Repr

/-- The text of the system for an error. -/
def SystemError.message : SystemError → String
  | noEntry => "No such file or directory (os error 2)"
  | notDirectory => "Not a directory (os error 20)"
  | isDirectory => "Is a directory (os error 21)"
  | tooLong => "File name too long (os error 36)"
  | nullInPath => "file name contained an unexpected NUL byte"
  | notText => "stream did not contain valid UTF-8"

/-- The names that lead to a file or directory, the innermost one first. -/
abbrev Place : Type := List String

/-- A file or a directory. -/
inductive Node where
  | file (bytes : ByteArray)
  | directory

instance : DecidableEq Node
  | .file a, .file b => match ByteArray.instDecidableEq a b with
    | isTrue h => isTrue (congrArg Node.file h)
    | isFalse h => isFalse fun e => h (Node.file.inj e)
  | .directory, .directory => isTrue rfl
  | .file _, .directory => isFalse nofun
  | .directory, .file _ => isFalse nofun

/-- The node is a file. -/
def Node.isFile : Node → Bool
  | file _ => true
  | directory => false

/-- What is at a place, in a list of places and nodes. The root is always a directory. -/
def nodeAt? (nodes : List (Place × Node)) (p : Place) : Option Node :=
  if p = [] then some .directory else (nodes.find? fun e => e.1 = p).map Prod.snd

/-- Files and directories at their places, and the working directory. -/
structure FileTree where
  nodes : List (Place × Node)
  workingDirectory : Place
  /-- Places are unique. -/
  nodup : (nodes.map Prod.fst).Nodup
  /-- Each place lies in a directory. -/
  closed : ∀ n p, n :: p ∈ nodes.map Prod.fst → nodeAt? nodes p = some .directory
  /-- A place is given by names. -/
  named : ∀ n p, n :: p ∈ nodes.map Prod.fst → Path.IsName n

namespace FileTree

/-- The tree with nothing but its root. -/
def empty : FileTree where
  nodes := []
  workingDirectory := []
  nodup := List.nodup_nil
  closed _ _ h := nomatch h
  named _ _ h := nomatch h

/-- What is at a place. -/
def node? (t : FileTree) (p : Place) : Option Node := nodeAt? t.nodes p

/-! ## Paths -/

/-- The place that the pieces of a path lead to from the place `p`. Only a directory can be left by
a further piece, be it empty. -/
def follow (t : FileTree) (p : Place) : List (List Char) → Except SystemError Place
  | [] => .ok p
  | piece :: pieces => match t.node? p with
    | none => .error .noEntry
    | some (.file _) => .error .notDirectory
    | some .directory => match Path.Component.ofPiece? piece with
      | some (.name n) =>
        if Path.isLongName n then .error .tooLong
        else match t.node? (n :: p) with
          | none => .error .noEntry
          | some _ => t.follow (n :: p) pieces
      | some .up => t.follow p.tail pieces
      | _ => t.follow p pieces

/-- The place that a path leads to. What the text of the path rules out comes first. -/
def resolve (t : FileTree) (path : String) : Except SystemError Place :=
  if Path.hasNull path then .error .nullInPath
  else if Path.isLong path then .error .tooLong
  else match path.toList with
  | [] => .error .noEntry
  | '/' :: s => t.follow [] (Path.pieces s)
  | s => t.follow t.workingDirectory (Path.pieces s)

/-- What a path leads to. -/
def lookup (t : FileTree) (path : String) : Except SystemError Node := do
  match t.node? (← t.resolve path) with
  | some node => .ok node
  | none => .error .noEntry

/-- A path leads to something. -/
def hasPath (t : FileTree) (path : String) : Bool := (t.lookup path).toBool

/-- The place of the file that a path leads to, if it leads to a file. -/
def filePlace? (t : FileTree) (path : String) : Option Place :=
  match t.resolve path with
  | .error _ => none
  | .ok p => match t.node? p with
    | some (.file _) => some p
    | _ => none

/-- The text of the file that a path leads to. -/
def readText (t : FileTree) (path : String) : Except SystemError String := do
  match ← t.lookup path with
  | .directory => .error .isDirectory
  | .file bytes => match String.fromUTF8? bytes with
    | some text => .ok text
    | none => .error .notText

/-- The path of a place below the directory `path`, given by the names that lead there, the
innermost one first. -/
def pathBelow (path : String) (names : List String) : String :=
  names.foldr (fun n dir => Path.join dir n) path

/-- What a walk finds at a place, with its path, if it gets there from the directory `path` at `p`.
It does not enter a directory whose path is too long. -/
def found? (path : String) (p : Place) (e : Place × Node) :
    Option (String × Except SystemError Node) :=
  let names := e.1.take (e.1.length - p.length)
  let below := pathBelow path names
  if e.1 = p ∨ ¬ p.isSuffixOf e.1 ∨ Path.isLong (pathBelow path names.tail) then none
  else if e.2.isFile || !Path.isLong below then some (below, .ok e.2)
  else some (below, .error .tooLong)

/-- What lies at or below a path, each with its path, or why it cannot be looked at. -/
def walk (t : FileTree) (path : String) : List (String × Except SystemError Node) :=
  match t.resolve path with
  | .error e => [(path, .error e)]
  | .ok p => match t.node? p with
    | none => [(path, .error .noEntry)]
    | some (.file bytes) => [(path, .ok (.file bytes))]
    | some .directory => (path, .ok .directory) :: t.nodes.filterMap (found? path p)

/-! ## Changes -/

/-- A node with new content, if it is a file at `p`. -/
def replaceNode (p : Place) (bytes : ByteArray) (e : Place × Node) : Place × Node :=
  if e.1 = p then match e.2 with
    | .file _ => (e.1, .file bytes)
    | .directory => e
  else e

@[simp] theorem replaceNode_fst (p : Place) (bytes : ByteArray) (e : Place × Node) :
    (replaceNode p bytes e).1 = e.1 := by
  unfold replaceNode
  split
  · split <;> rfl
  · rfl

theorem map_fst_replaceNode (p : Place) (bytes : ByteArray) (nodes : List (Place × Node)) :
    (nodes.map (replaceNode p bytes)).map Prod.fst = nodes.map Prod.fst := by
  rw [List.map_map]
  exact List.map_congr_left fun e _ => replaceNode_fst p bytes e

/-- **Replacing a file changes this file alone.** -/
theorem nodeAt?_replaceNode (p : Place) (bytes : ByteArray) (nodes : List (Place × Node))
    (q : Place) :
    nodeAt? (nodes.map (replaceNode p bytes)) q = (nodeAt? nodes q).map fun node =>
      match node with
      | .file old => .file (if q = p then bytes else old)
      | .directory => .directory := by
  unfold nodeAt?
  split
  · rfl
  · induction nodes with
    | nil => rfl
    | cons e nodes ih =>
      rw [List.map_cons, List.find?_cons, List.find?_cons, replaceNode_fst]
      by_cases h : e.1 = q
      · simp only [h, decide_true, Option.map_some, replaceNode]
        obtain ⟨e₁, node⟩ := e
        simp only at h
        subst h
        cases node <;> by_cases hp : e₁ = p <;> simp [hp]
      · simp only [h, decide_false]
        exact ih

/-- The tree with new content of the file at `p`. Nothing happens if there is no file. -/
def replace (t : FileTree) (p : Place) (bytes : ByteArray) : FileTree where
  nodes := t.nodes.map (replaceNode p bytes)
  workingDirectory := t.workingDirectory
  nodup := by rw [map_fst_replaceNode]; exact t.nodup
  closed n q h := by
    rw [map_fst_replaceNode] at h
    rw [nodeAt?_replaceNode, t.closed n q h]
    rfl
  named n q h := t.named n q (by rwa [map_fst_replaceNode] at h)

theorem node?_replace (t : FileTree) (p : Place) (bytes : ByteArray) (q : Place) :
    (t.replace p bytes).node? q = (t.node? q).map fun node =>
      match node with
      | .file old => .file (if q = p then bytes else old)
      | .directory => .directory :=
  nodeAt?_replaceNode p bytes t.nodes q

/-- A new place does not hide another one. -/
theorem nodeAt?_cons_of_ne {nodes : List (Place × Node)} {p q : Place} (node : Node) (h : p ≠ q) :
    nodeAt? ((p, node) :: nodes) q = nodeAt? nodes q := by
  simp [nodeAt?, h]

theorem nodeAt?_isSome_of_mem {nodes : List (Place × Node)} {p : Place}
    (h : p ∈ nodes.map Prod.fst) : (nodeAt? nodes p).isSome := by
  obtain ⟨e, he, rfl⟩ := List.mem_map.1 h
  unfold nodeAt?
  split
  · rfl
  · rw [Option.isSome_map, List.find?_isSome]
    exact ⟨e, he, by simp⟩

/-- The tree with a new node of the name `n` in the directory at `p`. Nothing happens if the place
is taken, if it does not lie in a directory, or if `n` is no name. -/
def add (t : FileTree) (n : String) (p : Place) (node : Node) : FileTree :=
  if h : t.node? (n :: p) = none ∧ t.node? p = some .directory ∧ Path.IsName n then
    { nodes := (n :: p, node) :: t.nodes
      workingDirectory := t.workingDirectory
      nodup := by
        rw [List.map_cons, List.nodup_cons]
        refine ⟨fun hm => ?_, t.nodup⟩
        have := nodeAt?_isSome_of_mem hm
        rw [show nodeAt? t.nodes (n :: p) = none from h.1] at this
        cases this
      closed := by
        intro m q hm
        have hq : nodeAt? t.nodes q = some .directory := by
          rcases List.mem_cons.1 hm with hm | hm
          · cases hm
            exact h.2.1
          · exact t.closed m q hm
        rw [nodeAt?_cons_of_ne node, hq]
        rintro rfl
        rw [show nodeAt? t.nodes (n :: p) = none from h.1] at hq
        cases hq
      named := by
        intro m q hm
        rcases List.mem_cons.1 hm with hm | hm
        · cases hm
          exact h.2.2
        · exact t.named m q hm }
  else t

/-- What is at a place that stays does not change when other places go. -/
theorem nodeAt?_filter {nodes : List (Place × Node)} (keep : Place → Bool) {q : Place}
    (h : keep q = true) : nodeAt? (nodes.filter fun e => keep e.1) q = nodeAt? nodes q := by
  unfold nodeAt?
  split
  · rfl
  · congr 1
    rw [List.find?_filter]
    congr 1
    funext e
    by_cases he : e.1 = q
    · simp [he, h]
    · simp [he]

/-- The tree without the place `p` and all below it. -/
def remove (t : FileTree) (p : Place) : FileTree where
  nodes := t.nodes.filter fun e => !p.isSuffixOf e.1
  workingDirectory := t.workingDirectory
  nodup := t.nodup.sublist (List.Sublist.map _ List.filter_sublist)
  closed n q h := by
    obtain ⟨e, he, hq⟩ := List.mem_map.1 h
    obtain ⟨hm, hp⟩ := List.mem_filter.1 he
    rw [nodeAt?_filter fun r => !p.isSuffixOf r]
    · exact t.closed n q (List.mem_map.2 ⟨e, hm, hq⟩)
    · rw [hq] at hp
      simp only [Bool.not_eq_true', Bool.eq_false_iff, ne_eq, List.isSuffixOf_iff_suffix] at hp ⊢
      exact fun hs => hp (hs.trans (List.suffix_cons n q))
  named n q h := t.named n q ((List.Sublist.map _ List.filter_sublist).subset h)

/-- The tree with directories at a place and all around it. -/
def makeDirectories (t : FileTree) : Place → FileTree
  | [] => t
  | n :: p => (t.makeDirectories p).add n p .directory

/-- The tree with a file of these bytes at a place, and directories around it. Nothing is at the
root but a directory. -/
def put (t : FileTree) (p : Place) (bytes : ByteArray) : FileTree :=
  match p with
  | [] => t
  | n :: q => ((t.makeDirectories q).add n q (.file bytes)).replace p bytes

end FileTree

/-! ## Access to text files -/

/-- Why a file could not be used. -/
inductive FileError where
  /-- There is no file to update. -/
  | missing (path : String)
  /-- The system refused. -/
  | access (path : String) (error : SystemError)
  deriving DecidableEq, Repr

namespace FileError

/-- The text for an error. -/
def message : FileError → String
  | missing path => path ++ " doesn't exist"
  | access path error => "failed to access " ++ path ++ ": " ++ error.message

/-- The texts for an error and for its cause. -/
def messages : FileError → List String
  | missing path => [(missing path).message]
  | access path error => [(access path error).message, error.message]

end FileError

namespace FileTree

/-- The text of the file that a path leads to. -/
def read (t : FileTree) (path : String) : Except FileError String :=
  (t.readText path).mapError (.access path)

/-- What `ofText` finds in the file that a path leads to, given this path and the text. -/
def scan {α : Type} (t : FileTree) (ofText : String → List Char → List α) (path : String) :
    Except FileError (List α) :=
  (t.read path).map fun text => ofText path text.toList

theorem scan_eq {α : Type} (t : FileTree) (ofText : String → List Char → List α) (path : String) :
    t.scan ofText path = match t.readText path with
      | .ok text => .ok (ofText path text.toList)
      | .error e => .error (.access path e) := by
  rw [scan, read]
  cases t.readText path <;> rfl

end FileTree

end LocalizedStrings
