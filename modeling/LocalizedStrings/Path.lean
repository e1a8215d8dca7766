import LocalizedStrings.Text

/-!
# Paths

A path is a text of names between slashes. Read as components, doubled slashes count once, and so
does a `.` other than at the very start; `..` stays as it is.

* `components`: the components of a path, and `le`: the order of paths by them.
* `isLong`, `isLongName`, `hasNull`: what no path of a file can be.
* `IsName`: the texts that can name a file or directory.
* `join`: a path below another one.
* `baseName`, `extension?`: the last name of a path and what follows its last dot.
* `parent?`: the path with its last component taken away; **`length_parent?_lt`**: it is shorter.
* `startsWith`: whether a path lies at or below another one, component by component.
-/

namespace LocalizedStrings.Path

/-! ## Components -/

/-- A component of a path, in the order in which paths are sorted. -/
inductive Component where
  /-- The slash that a path from the root starts with. -/
  | root
  /-- A `.` at the start of the path. -/
  | here
  /-- The directory above, `..`. -/
  | up
  /-- A file or directory of this name. -/
  | name (text : String)
  deriving DecidableEq

/-- The pieces of a text between slashes: one more than there are slashes. -/
def pieces : List Char → List (List Char)
  | [] => [[]]
  | c :: s =>
    if c = '/' then [] :: pieces s
    else match pieces s with
      | [] => [[c]]
      | p :: ps => (c :: p) :: ps

/-- The component that a piece after the first stands for, if it is not skipped. -/
def Component.ofPiece? : List Char → Option Component
  | [] => none
  | ['.'] => none
  | ['.', '.'] => some .up
  | p => some (.name (String.ofList p))

/-- The components of a path, given as its characters. -/
def componentsOf (path : List Char) : List Component :=
  match path, pieces path with
  | '/' :: _, ps => .root :: ps.filterMap Component.ofPiece?
  | _, ['.'] :: ps => .here :: ps.filterMap Component.ofPiece?
  | _, ps => ps.filterMap Component.ofPiece?

/-- The components of a path. -/
def components (path : String) : List Component := componentsOf path.toList

/-! ## Limits -/

/-- The number of bytes that the name of a file or directory can take. -/
def maxNameSize : Nat := 255

/-- The number of bytes that a path can take. -/
def maxSize : Nat := 4095

/-- The name takes more bytes than a name can. -/
def isLongName (n : String) : Bool := maxNameSize < Text.byteSize n.toList

/-- The path takes more bytes than a path can. -/
def isLong (path : String) : Bool := maxSize < Text.byteSize path.toList

/-- The path holds the character U+0000. -/
def hasNull (path : String) : Bool := path.toList.contains '\x00'

/-- The text can name a file or directory: it is its own only component, and keeps to the limits. -/
def IsName (n : String) : Prop :=
  components n = [.name n] ∧ hasNull n = false ∧ isLongName n = false

instance (n : String) : Decidable (IsName n) := inferInstanceAs (Decidable (_ ∧ _))

/-! ## Order -/

namespace Component

/-- Where a kind of component stands in the order. -/
def rank : Component → Nat
  | root => 0
  | here => 1
  | up => 2
  | name _ => 3

/-- The component `a` comes no later than `b`: first by kind, then by name. -/
def le : Component → Component → Bool
  | name a, name b => Text.utf8Le a b
  | a, b => a.rank ≤ b.rank

end Component

/-- The list `a` of components comes no later than `b`, by the first place where they differ. -/
def componentsLe : List Component → List Component → Bool
  | [], _ => true
  | _ :: _, [] => false
  | a :: as, b :: bs => if a = b then componentsLe as bs else a.le b

/-- The path `a` comes no later than `b`. -/
def le (a b : String) : Bool := componentsLe (components a) (components b)

/-! ## Building and taking apart -/

/-- The path `below`, read from the directory `path`. -/
def join (path below : String) : String :=
  if below.toList.head? = some '/' then below
  else if path.toList.isEmpty || path.toList.getLast? = some '/' then path ++ below
  else path ++ "/" ++ below

/-- The path `path` lies at or below `dir`. -/
def startsWith (path dir : String) : Bool := (components dir).isPrefixOf (components path)

/-- The name that the path ends in. -/
def lastName? (path : String) : Option String :=
  match (components path).getLast? with
  | some (.name n) => some n
  | _ => none

/-- The name that the path ends in, or the whole path if it ends in none. -/
def baseName (path : String) : String := (lastName? path).getD path

/-- What follows the last dot of a name, unless this dot is its first character. -/
def extensionOf? (name : List Char) : Option (List Char) :=
  match name.reverse.takeWhile (· != '.'), name.reverse.dropWhile (· != '.') with
  | ext, _ :: _ :: _ => some ext.reverse
  | _, _ => none

/-- The extension of the name that the path ends in. -/
def extension? (path : String) : Option String :=
  (lastName? path).bind fun n => (extensionOf? n.toList).map String.ofList

/-! ## The parent of a path -/

/-- A path given backwards, less the slashes and single dots that add no component at its end. -/
def skipBlankPieces : List Char → List Char
  | '/' :: s => skipBlankPieces s
  | '.' :: '/' :: s => skipBlankPieces s
  | ['.'] => []
  | s => s

/-- The start of a path that has no parent piece of its own: a slash, or a leading `.`. -/
def anchor : List Char → List Char
  | '/' :: _ => ['/']
  | ['.'] => ['.']
  | '.' :: '/' :: _ => ['.']
  | _ => []

/-- The characters of a path with its last component taken away. -/
def parentOf? (path : List Char) : Option (List Char) :=
  let head := anchor path
  let body := skipBlankPieces (path.drop head.length).reverse
  if body.isEmpty then
    if head = ['.'] then some [] else none
  else some (head ++ (skipBlankPieces (body.dropWhile (· != '/'))).reverse)

/-- The path with its last component taken away. There is none if there is no such component, as in
the empty path and in the root. -/
def parent? (path : String) : Option String := (parentOf? path.toList).map String.ofList

theorem length_skipBlankPieces_le (s : List Char) : (skipBlankPieces s).length ≤ s.length := by
  fun_induction skipBlankPieces s <;> simp_all <;> omega

theorem skipBlankPieces_head {s : List Char} : (skipBlankPieces s).head? ≠ some '/' := by
  fun_induction skipBlankPieces s with
  | case1 s ih => exact ih
  | case2 s ih => exact ih
  | case3 => simp
  | case4 s h₁ _ _ =>
    cases s with
    | nil => simp
    | cons c s =>
      intro h
      simp only [List.head?_cons, Option.some.injEq] at h
      exact h₁ s (by rw [h])

theorem anchor_eq_take (path : List Char) : path.take (anchor path).length = anchor path := by
  unfold anchor; split <;> simp

/-- **The parent of a path is shorter.** -/
theorem length_parentOf?_lt {path p : List Char} (h : parentOf? path = some p) :
    p.length < path.length := by
  have hsplit : (anchor path).length + (path.drop (anchor path).length).length = path.length := by
    conv => rhs; rw [← List.take_append_drop (anchor path).length path]
    rw [List.length_append, anchor_eq_take]
  simp only [parentOf?] at h
  have h1 := length_skipBlankPieces_le (path.drop (anchor path).length).reverse
  rw [List.length_reverse] at h1
  split at h
  · split at h
    · next ha => cases h; rw [ha] at hsplit; simp at hsplit ⊢; omega
    · cases h
  · next hb =>
    cases h
    have h2 := length_skipBlankPieces_le
      ((skipBlankPieces (path.drop (anchor path).length).reverse).dropWhile (· != '/'))
    have h3 := skipBlankPieces_head (s := (path.drop (anchor path).length).reverse)
    generalize skipBlankPieces (path.drop (anchor path).length).reverse = body at *
    cases body with
    | nil => simp at hb
    | cons c body =>
      have hc : (c != '/') = true := by
        simp only [List.head?_cons, ne_eq, Option.some.injEq] at h3
        simpa using h3
      have h4 : ((c :: body).dropWhile (· != '/')).length ≤ body.length := by
        simp only [List.dropWhile_cons, hc, if_true]
        exact (List.dropWhile_sublist _).length_le
      simp only [List.length_append, List.length_reverse, List.length_cons] at *
      omega

theorem length_parent?_lt {path p : String} (h : parent? path = some p) :
    p.length < path.length := by
  obtain ⟨q, hq, rfl⟩ := Option.map_eq_some_iff.1 h
  have h := length_parentOf?_lt hq
  rwa [String.length_ofList, ← String.length_toList]

end LocalizedStrings.Path
