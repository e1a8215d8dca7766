import LocalizedStrings.Proofs.Path.Resolved
import LocalizedStrings.Proofs.Run.Generate

/-!
# Where resource files lie

The resource file of a locale is meant to lie in the directory of the locale, which lies in the
directory of the run. The names of the locale and of the file are put into the path as they are,
though, and a configuration is not checked for what they do there. With a slash in it, the name of a
locale is more than one name. A slash at the start of the file name makes a path of its own, and a
step up leads out of the directory of the locale.

* `Config.IsInPlace`: the path of a resource file stays in the directory of its locale, and
  `Locale.Holds`: so does a place.
* **`Config.forall_isInPlace_iff`**: the locales whose file is in its place in every directory.
* **`FileTree.destination_eq`**: a path leads to the same place without its dots.
* **`Run.exists_resource_of_ne`**: a run changes no other files than its resource files.
* **`Config.resources_inPlace`**: the configurations whose resource files are all in their places,
  and the files that a run with them changes.
-/

namespace LocalizedStrings

open FileTree (destination filePlace?_eq_some_iff resolve_eq_ok)
open LocalizedStrings.Path (Component StaysIn components resolved)
open Resource (HasFile)

/-! ## Paths -/

/-- Without dots, the path of the resource file goes on from that of the directory `root` to the
directory of the locale, and from there to something in it. -/
def Config.IsInPlace (c : Config) (root : String) (l : Locale) : Prop :=
  ∃ below, below ≠ [] ∧
    resolved (c.resourcePath root l) = resolved root ++ .name (l.name ++ ".lproj") :: below

namespace Config

variable {c : Config} {l : Locale}

theorem ofPiece?_directory (name : String) :
    Component.ofPiece? (name ++ ".lproj").toList = some (.name (name ++ ".lproj")) := by
  have hlength : 6 ≤ (name ++ ".lproj").toList.length := by simp
  unfold Component.ofPiece?
  split
  · next h => simp [h] at hlength
  · next h => simp [h] at hlength
  · next h => simp [h] at hlength
  · rw [String.ofList_toList]

theorem resolved_join_directory (root : String) (h : '/' ∉ l.name.toList) :
    resolved (Path.join root (l.name ++ ".lproj")) =
      resolved root ++ [.name (l.name ++ ".lproj")] := by
  have hslash : '/' ∉ (l.name ++ ".lproj").toList := by
    rw [String.toList_append, List.mem_append]
    exact not_or.2 ⟨h, by decide⟩
  exact Path.resolved_join_of_piece root hslash (ofPiece?_directory l.name)

theorem slash_notMem_of_isInPlace {root : String} (h : c.IsInPlace root l) :
    '/' ∉ l.name.toList := by
  obtain ⟨below, -, hpath⟩ := h
  have hmem : .name (l.name ++ ".lproj") ∈ resolved (c.resourcePath root l) := by
    rw [hpath]
    exact List.mem_append_right _ List.mem_cons_self
  intro hs
  apply Path.slash_notMem_of_name_mem_resolved hmem
  rw [String.toList_append]
  exact List.mem_append_left _ hs

/-- **The locales whose file is in its place**, in every directory. -/
theorem forall_isInPlace_iff : (∀ root, c.IsInPlace root l) ↔
    '/' ∉ l.name.toList ∧ StaysIn (l.name ++ ".lproj") c.resourceFileName := by
  constructor
  · intro h
    have hslash := slash_notMem_of_isInPlace (h "")
    obtain ⟨below, hbelow, hpath⟩ := h ""
    exact ⟨hslash, Path.staysIn_of_resolved (resolved_join_directory "" hslash) hbelow hpath⟩
  · rintro ⟨hslash, hstays⟩ root
    exact Path.exists_resolved_of_staysIn (resolved_join_directory root hslash) hstays

end Config

/-! ## Places -/

namespace FileTree

/-- The place that a component of a path leads to. -/
def enterComponent (p : Place) : Component → Place
  | .root => []
  | .here => p
  | .up => p.tail
  | .name n => n :: p

theorem foldl_enter_eq (p : Place) (ps : List (List Char)) :
    ps.foldl enter p = (ps.filterMap Component.ofPiece?).foldl enterComponent p := by
  induction ps generalizing p with
  | nil => rfl
  | cons piece ps ih =>
    rw [List.foldl_cons, ih, enter]
    cases hc : Component.ofPiece? piece with
    | none => rw [List.filterMap_cons_none hc]
    | some c =>
      rw [List.filterMap_cons_some hc]
      cases c with
      | root => exact absurd hc (Path.ofPiece?_ne_root piece)
      | here | up | name => rfl

theorem destination_eq_foldl_components (p : Place) (path : String) :
    destination p path = (components path).foldl enterComponent p := by
  by_cases h : path.toList.head? = some '/'
  · obtain ⟨s, hs⟩ := List.head?_eq_some_iff.1 h
    rw [destination, components, Path.componentsOf_eq, Path.start, if_pos h, hs, Path.pieces_slash]
    exact foldl_enter_eq [] _
  · rw [Path.foldl_components (fun _ => rfl) h, ← foldl_enter_eq, destination]
    split
    · next hs => exact absurd (List.head?_eq_some_iff.2 ⟨_, hs⟩) h
    · rfl

/-- A component goes on from where those before it lead, also without dots. -/
theorem foldl_enterComponent_extend (p : Place) (cs : List Component) (c : Component) :
    (Component.extend cs c).reverse.foldl enterComponent p =
      enterComponent (cs.reverse.foldl enterComponent p) c := by
  cases c with
  | root => rfl
  | here =>
    rw [Component.extend_here]
    rfl
  | name n => simp [Component.extend]
  | up =>
    cases cs with
    | nil => rfl
    | cons d cs => cases d <;> simp [Component.extend, enterComponent]

theorem foldl_enterComponent_foldl_extend (p : Place) (cs : List Component) :
    (cs.foldl Component.extend []).reverse.foldl enterComponent p = cs.foldl enterComponent p := by
  induction cs using List.reverseRecOn with
  | nil => rfl
  | append_singleton cs c ih =>
    rw [List.foldl_append, List.foldl_append, List.foldl_cons, List.foldl_nil,
      foldl_enterComponent_extend, ih]
    rfl

/-- **A path leads to the same place without its dots.** -/
theorem destination_eq (p : Place) (path : String) :
    destination p path = (resolved path).foldl enterComponent p := by
  rw [destination_eq_foldl_components, resolved, foldl_enterComponent_foldl_extend]

theorem foldl_enterComponent_names (p : Place) (names : List String) :
    (names.map Component.name).foldl enterComponent p = names.reverse ++ p := by
  induction names generalizing p with
  | nil => rfl
  | cons n names ih =>
    rw [List.map_cons, List.foldl_cons, ih, List.reverse_cons, List.append_assoc]
    rfl

end FileTree

/-- The place lies in the directory of the locale in the directory at `root`. -/
def Locale.Holds (l : Locale) (root p : Place) : Prop :=
  ∃ names, names ≠ [] ∧ p = names ++ (l.name ++ ".lproj") :: root

theorem Config.IsInPlace.holds_destination {c : Config} {root : String} {l : Locale}
    (h : c.IsInPlace root l) (p : Place) :
    l.Holds (destination p root) (destination p (c.resourcePath root l)) := by
  obtain ⟨below, hbelow, hpath⟩ := h
  obtain ⟨names, rfl⟩ := Path.exists_names_of_resolved hpath
  refine ⟨names.reverse, ?_, ?_⟩
  · intro hnil
    exact hbelow (by rw [List.reverse_eq_nil_iff.1 hnil, List.map_nil])
  · rw [FileTree.destination_eq, hpath, List.foldl_append, List.foldl_cons,
      FileTree.foldl_enterComponent_names, ← FileTree.destination_eq]
    rfl

/-! ## Runs -/

namespace Run

variable {t : FileTree} {o : Options} {c : Config} {notes : List Console.Line}

/-- Only a generating run changes the tree. -/
theorem tree_withConfig (t : FileTree) (o : Options) (c : Config) :
    (withConfig t o c).tree = t ∨ withConfig t o c = generate t o c := by
  unfold withConfig
  split_ifs
  · exact .inl rfl
  · exact .inl (tree_finish ..)
  · exact .inr rfl

/-- **A run changes no other file** than the resource files of its configuration. -/
theorem exists_resource_of_ne (hc : configuration t o = .ok (c, notes)) {p : Place}
    (h : (run t o).tree.node? p ≠ t.node? p) :
    ∃ r ∈ c.resources o.dir, t.filePlace? r.path = some p := by
  rw [tree_eq hc] at h
  rcases tree_withConfig t o c with hw | hw
  · exact absurd (by rw [hw]) h
  · by_contra hno
    have hno : ∀ r ∈ (c.resources o.dir).takeWhile (HasFile t ·), t.filePlace? r.path ≠ some p :=
      fun r hr hp => hno ⟨r, (List.takeWhile_sublist _).subset hr, hp⟩
    exact h (by rw [hw, (isUpdated_generate t o c).kept p hno])

end Run

/-! ## Configurations -/

/-- **Resource files stay in their places**, in every directory, if and only if no locale has a
slash in its name and the file name leads to something in the directory of each locale. A run from a
directory where they do then finds each of them in the directory of its locale, and changes nothing
outside of these directories. -/
theorem Config.resources_inPlace (c : Config) :
    ((∀ root, ∀ l ∈ c.locales, c.IsInPlace root l) ↔
      ∀ l ∈ c.locales, '/' ∉ l.name.toList ∧ StaysIn (l.name ++ ".lproj") c.resourceFileName) ∧
    ∀ t o, (∀ l ∈ c.locales, c.IsInPlace o.dir l) →
      (∀ l ∈ c.locales, ∀ p, t.filePlace? (c.resourcePath o.dir l) = some p →
        l.Holds (destination t.workingDirectory o.dir) p) ∧
      ∀ notes p, Run.configuration t o = .ok (c, notes) → (run t o).tree.node? p ≠ t.node? p →
        ∃ l ∈ c.locales, l.Holds (destination t.workingDirectory o.dir) p := by
  constructor
  · constructor
    · intro h l hl
      exact forall_isInPlace_iff.1 fun root => h root l hl
    · intro h root l hl
      exact forall_isInPlace_iff.2 (h l hl) root
  · intro t o hplaces
    have hfiles : ∀ l ∈ c.locales, ∀ p, t.filePlace? (c.resourcePath o.dir l) = some p →
        l.Holds (destination t.workingDirectory o.dir) p := by
      intro l hl p hp
      rw [resolve_eq_ok (filePlace?_eq_some_iff.1 hp).1]
      exact (hplaces l hl).holds_destination t.workingDirectory
    refine ⟨hfiles, fun notes p hc hne => ?_⟩
    obtain ⟨r, hr, hp⟩ := Run.exists_resource_of_ne hc hne
    obtain ⟨l, hl, rfl⟩ := List.mem_map.1 hr
    exact ⟨l, hl, hfiles l hl p hp⟩

/-- The defaults keep resource files in their places, and so does a run in a project with them. -/
theorem Config.resources_inPlace_project :
    (∀ root, ∀ l ∈ ({} : Config).locales, ({} : Config).IsInPlace root l) ∧
      (run (project .empty) {}).tree.node? ["Localizable.strings", "ja.lproj"] ≠
        (project .empty).node? ["Localizable.strings", "ja.lproj"] ∧
      ∃ l ∈ ({} : Config).locales,
        l.Holds (destination [] ".") ["Localizable.strings", "ja.lproj"] := by
  obtain ⟨hiff, hrun⟩ := Config.resources_inPlace {}
  have hplaces : ∀ root, ∀ l ∈ ({} : Config).locales, ({} : Config).IsInPlace root l := by
    refine hiff.2 fun l hl => ⟨?_, ["Localizable.strings"], List.cons_ne_nil _ _, .inl ?_⟩
    · revert l hl
      decide
    · decide +kernel
  have hc : Run.configuration (project .empty) {} = .ok ({}, []) :=
    Run.configuration_of_git rfl (by decide +kernel) (by decide +kernel)
  have hne : (run (project .empty) {}).tree.node? ["Localizable.strings", "ja.lproj"] ≠
      (project .empty).node? ["Localizable.strings", "ja.lproj"] := by
    have hfiles : ∀ r ∈ ({} : Config).resources ".", HasFile (project .empty) r := by
      decide +kernel
    obtain ⟨-, hu⟩ := Run.generate_of_hasFile (o := {}) hfiles
    rw [Run.tree_eq hc, Run.withConfig_generate rfl rfl,
      hu.written [⟨"./Base.lproj/Localizable.strings", .base⟩]
        ⟨"./ja.lproj/Localizable.strings", .comment⟩ [] _ (by decide +kernel) (by decide +kernel)
        nofun, Resource.bytes, ← Survey.records_ofDirectory]
    decide +kernel
  exact ⟨hplaces, hne, (hrun (project .empty) {} fun l hl => hplaces "." l hl).2 [] _ hc hne⟩

/-- A configuration that is read and passes its check, with a resource file out of its place. -/
theorem Config.resources_outOfPlace :
    let c : Config := { resourceFileName := "/L.strings", locales := [⟨"Base", .base⟩] }
    Config.ofText ("\x7b\"resourceFileName\":\"/L.strings\"," ++
        "\"locales\":[\x7b\"name\":\"Base\",\"field\":\"base\"\x7d]\x7d").toList = .ok c ∧
      c.check = .ok () ∧ c.resources "App" = [⟨"/L.strings", .base⟩] ∧
      ¬ c.IsInPlace "App" ⟨"Base", .base⟩ := by
  intro c
  refine ⟨by decide +kernel, by decide +kernel, by decide +kernel, ?_⟩
  rintro ⟨below, -, hpath⟩
  have hfile : resolved (c.resourcePath "App" ⟨"Base", .base⟩) = [.root, .name "L.strings"] := by
    decide +kernel
  have hroot : resolved "App" = [.name "App"] := by decide +kernel
  rw [hfile, hroot] at hpath
  cases hpath

end LocalizedStrings
