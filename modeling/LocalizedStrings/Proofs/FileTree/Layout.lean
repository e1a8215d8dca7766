import LocalizedStrings.FileTree

/-!
# The layout of a file tree

The layout of a tree is what remains when the bytes in its files are forgotten: its places, what is
a file and what a directory, and the working directory. Paths are followed by the layout alone, so
that new content in a file changes neither where a path leads nor whether there is a file.

* `FileTree.SameLayout`: two trees have the same layout.
* `sameLayout_replace`: replacing a file keeps the layout.
* `SameLayout.resolve`, `SameLayout.filePlace?`: paths lead to the same places.
* `SameLayout.readText`: a path gives the same text where its file has the same bytes.
* **`resolve_eq_ok`**: a path leads to the same place in all trees where it leads anywhere.
* `SameFile`: two paths lead to one file.
* **`readText_replace`**: a text that was written to a file is read from it.
-/

namespace LocalizedStrings.FileTree

/-- A node without the bytes of its file. -/
def shape (e : Place × Node) : Place × Bool := (e.1, e.2.isFile)

/-- The trees have the same places, with a file or a directory at each, and the same working
directory. -/
structure SameLayout (t u : FileTree) : Prop where
  nodes : u.nodes.map shape = t.nodes.map shape
  workingDirectory : u.workingDirectory = t.workingDirectory

theorem map_isFile_nodeAt? (nodes : List (Place × Node)) (p : Place) :
    (nodeAt? nodes p).map Node.isFile =
      if p = [] then some false else ((nodes.map shape).find? fun e => e.1 = p).map Prod.snd := by
  unfold nodeAt?
  split
  · rfl
  · rw [List.find?_map, Option.map_map, Option.map_map]
    rfl

theorem shape_replaceNode (p : Place) (bytes : ByteArray) (e : Place × Node) :
    shape (replaceNode p bytes e) = shape e := by
  obtain ⟨q, node⟩ := e
  unfold replaceNode
  split
  · cases node <;> rfl
  · rfl

namespace SameLayout

theorem refl (t : FileTree) : SameLayout t t := ⟨rfl, rfl⟩

theorem trans {t u v : FileTree} (h : SameLayout t u) (h' : SameLayout u v) : SameLayout t v :=
  ⟨h'.nodes.trans h.nodes, h'.workingDirectory.trans h.workingDirectory⟩

theorem symm {t u : FileTree} (h : SameLayout t u) : SameLayout u t :=
  ⟨h.nodes.symm, h.workingDirectory.symm⟩

variable {t u : FileTree} (h : SameLayout t u)

include h

theorem map_isFile_node? (p : Place) :
    (u.node? p).map Node.isFile = (t.node? p).map Node.isFile := by
  rw [node?, node?, map_isFile_nodeAt?, map_isFile_nodeAt?, h.nodes]

/-- Where one tree has nothing, a directory or a file, so has the other. -/
theorem node?_cases (p : Place) :
    (t.node? p = none ∧ u.node? p = none) ∨
      (t.node? p = some .directory ∧ u.node? p = some .directory) ∨
      ∃ a b, t.node? p = some (.file a) ∧ u.node? p = some (.file b) := by
  have hp := h.map_isFile_node? p
  cases ht : t.node? p with
  | none =>
    rw [ht] at hp
    exact .inl ⟨rfl, Option.map_eq_none_iff.1 hp⟩
  | some m =>
    rw [ht] at hp
    obtain ⟨n, hu, hn⟩ := Option.map_eq_some_iff.1 hp
    cases m with
    | file a => cases n with
      | file b => exact .inr (.inr ⟨a, b, rfl, hu⟩)
      | directory => cases hn
    | directory => cases n with
      | file b => cases hn
      | directory => exact .inr (.inl ⟨rfl, hu⟩)

theorem follow (p : Place) (pieces : List (List Char)) : u.follow p pieces = t.follow p pieces := by
  induction pieces generalizing p with
  | nil => rfl
  | cons piece pieces ih =>
    rw [FileTree.follow, FileTree.follow]
    rcases h.node?_cases p with ⟨ht, hu⟩ | ⟨ht, hu⟩ | ⟨a, b, ht, hu⟩
    · rw [ht, hu]
    · rw [ht, hu]
      rcases Path.Component.ofPiece? piece with _ | (_ | _ | _ | n)
      · exact ih p
      · exact ih p
      · exact ih p
      · exact ih p.tail
      · -- A name is looked up in the directory, and only what is there counts, not its bytes.
        by_cases hn : Path.isLongName n
        · simp only [hn, if_true]
        · simp only [hn]
          rcases h.node?_cases (n :: p) with ⟨ht, hu⟩ | ⟨ht, hu⟩ | ⟨a, b, ht, hu⟩
          · rw [ht, hu]
          · rw [ht, hu]
            exact ih (n :: p)
          · rw [ht, hu]
            exact ih (n :: p)
    · rw [ht, hu]

/-- **Paths lead to the same places.** -/
theorem resolve (path : String) : u.resolve path = t.resolve path := by
  unfold FileTree.resolve
  simp only [h.follow, h.workingDirectory]

/-- **Paths lead to files at the same places.** -/
theorem filePlace? (path : String) : u.filePlace? path = t.filePlace? path := by
  unfold FileTree.filePlace?
  rw [h.resolve]
  cases t.resolve path with
  | error e => rfl
  | ok p =>
    rcases h.node?_cases p with ⟨ht, hu⟩ | ⟨ht, hu⟩ | ⟨a, b, ht, hu⟩ <;> simp only [ht, hu]

theorem hasPath (path : String) : u.hasPath path = t.hasPath path := by
  simp only [FileTree.hasPath, lookup, h.resolve, bind, Except.bind]
  cases t.resolve path with
  | error e => rfl
  | ok p =>
    rcases h.node?_cases p with ⟨ht, hu⟩ | ⟨ht, hu⟩ | ⟨a, b, ht, hu⟩
    · simp only [ht, hu]
    · simp only [ht, hu]
    · simp only [ht, hu]
      rfl

/-- A path that leads to the same bytes in both trees, if it leads to a file, gives one text. -/
theorem readText {path : String}
    (hp : ∀ p, t.filePlace? path = some p → u.node? p = t.node? p) :
    u.readText path = t.readText path := by
  simp only [FileTree.readText, lookup, h.resolve, bind, Except.bind]
  cases hr : t.resolve path with
  | error e => rfl
  | ok p =>
    rcases h.node?_cases p with ⟨ht, hu⟩ | ⟨ht, hu⟩ | ⟨a, b, ht, hu⟩
    · simp only [ht, hu]
    · simp only [ht, hu]
    · have hn := hp p (by simp only [FileTree.filePlace?, hr, ht])
      simp only [hn]

end SameLayout

/-! ## Paths in different trees -/

/-- The place that a piece of a path leads to from a directory. -/
def enter (p : Place) (piece : List Char) : Place :=
  match Path.Component.ofPiece? piece with
  | some (.name n) => n :: p
  | some .up => p.tail
  | _ => p

/-- The place that a path leads to from the directory `p`, if it leads anywhere. -/
def destination (p : Place) (path : String) : Place :=
  match path.toList with
  | '/' :: s => (Path.pieces s).foldl enter []
  | s => (Path.pieces s).foldl enter p

theorem follow_eq_ok {t : FileTree} {pieces : List (List Char)} {p q : Place}
    (h : t.follow p pieces = .ok q) : q = pieces.foldl enter p := by
  induction pieces generalizing p with
  | nil => exact (Except.ok.inj h).symm
  | cons piece pieces ih =>
    rw [List.foldl_cons, enter]
    rw [follow] at h
    split at h
    · cases h
    · cases h
    · rcases hc : Path.Component.ofPiece? piece with _ | (_ | _ | _ | n) <;> rw [hc] at h
      · exact ih h
      · exact ih h
      · exact ih h
      · exact ih h
      · dsimp only at h
        split at h
        · cases h
        · split at h
          · cases h
          · exact ih h

/-- **A path leads to the same place** in all trees where it leads anywhere. -/
theorem resolve_eq_ok {t : FileTree} {path : String} {q : Place} (h : t.resolve path = .ok q) :
    q = destination t.workingDirectory path := by
  unfold resolve at h
  unfold destination
  split at h
  · cases h
  · split at h
    · cases h
    · split at h
      · cases h
      · next s hs =>
        rw [hs]
        exact follow_eq_ok h
      · next hs =>
        split
        · next s he => exact absurd he (hs s)
        · exact follow_eq_ok h

/-! ## Paths to one file -/

/-- The paths lead to one file. -/
def SameFile (t : FileTree) (a b : String) : Prop :=
  ∃ p, t.filePlace? a = some p ∧ t.filePlace? b = some p

theorem sameFile_iff {t : FileTree} {a b : String} :
    SameFile t a b ↔ (t.filePlace? a).isSome ∧ t.filePlace? b = t.filePlace? a := by
  rw [Option.isSome_iff_exists]
  constructor
  · rintro ⟨p, ha, hb⟩
    exact ⟨⟨p, ha⟩, hb.trans ha.symm⟩
  · rintro ⟨⟨p, ha⟩, hb⟩
    exact ⟨p, ha, hb.trans ha⟩

instance (t : FileTree) (a b : String) : Decidable (SameFile t a b) :=
  decidable_of_iff _ sameFile_iff.symm

theorem SameLayout.sameFile_iff {t u : FileTree} (h : SameLayout t u) {a b : String} :
    SameFile u a b ↔ SameFile t a b := by
  rw [SameFile, SameFile, h.filePlace?, h.filePlace?]

/-! ## Replacing a file -/

/-- **Replacing a file keeps the layout.** -/
theorem sameLayout_replace (t : FileTree) (p : Place) (bytes : ByteArray) :
    SameLayout t (t.replace p bytes) := by
  refine ⟨?_, rfl⟩
  rw [replace, List.map_map]
  exact List.map_congr_left fun e _ => shape_replaceNode p bytes e

theorem filePlace?_eq_some_iff {t : FileTree} {path : String} {p : Place} :
    t.filePlace? path = some p ↔
      t.resolve path = .ok p ∧ ∃ bytes, t.node? p = some (.file bytes) := by
  unfold filePlace?
  cases t.resolve path with
  | error e => exact ⟨nofun, fun h => nomatch h.1⟩
  | ok q =>
    constructor
    · intro h
      dsimp only at h
      split at h
      · next bytes hq =>
        cases h
        exact ⟨rfl, bytes, hq⟩
      · cases h
    · rintro ⟨hq, bytes, hp⟩
      cases hq
      simp only [hp]

theorem node?_replace_self {t : FileTree} {path : String} {p : Place}
    (h : t.filePlace? path = some p) (bytes : ByteArray) :
    (t.replace p bytes).node? p = some (.file bytes) := by
  obtain ⟨-, old, hp⟩ := filePlace?_eq_some_iff.1 h
  rw [node?_replace, hp]
  simp

theorem node?_replace_of_ne {t : FileTree} {p q : Place} (h : q ≠ p) (bytes : ByteArray) :
    (t.replace p bytes).node? q = t.node? q := by
  rw [node?_replace]
  cases t.node? q with
  | none => rfl
  | some node => cases node <;> simp [h]

theorem lookup_of_resolve {t : FileTree} {path : String} {p : Place} {node : Node}
    (h : t.resolve path = .ok p) (hp : t.node? p = some node) : t.lookup path = .ok node := by
  simp only [lookup, h, bind, Except.bind, hp]

theorem readText_of_resolve {t : FileTree} {path : String} {p : Place} {bytes : ByteArray}
    (h : t.resolve path = .ok p) (hp : t.node? p = some (.file bytes)) :
    t.readText path = match String.fromUTF8? bytes with
      | some text => .ok text
      | none => .error .notText := by
  rw [readText, lookup_of_resolve h hp]
  rfl

theorem fromUTF8?_toUTF8 (s : String) : String.fromUTF8? s.toUTF8 = some s := by
  rw [String.fromUTF8?, String.toUTF8_eq_toByteArray, dif_pos s.isValidUTF8]
  rfl

/-- **A text that was written to a file is read from it.** -/
theorem readText_replace {t : FileTree} {path : String} {p : Place}
    (h : t.filePlace? path = some p) (text : String) :
    (t.replace p text.toUTF8).readText path = .ok text := by
  have hr : (t.replace p text.toUTF8).resolve path = .ok p :=
    ((sameLayout_replace t p _).resolve path).trans (filePlace?_eq_some_iff.1 h).1
  rw [readText_of_resolve hr (node?_replace_self h _), fromUTF8?_toUTF8]

end LocalizedStrings.FileTree
