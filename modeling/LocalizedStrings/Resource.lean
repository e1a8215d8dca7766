import LocalizedStrings.Entry
import LocalizedStrings.FileTree

/-!
# Resource files

A resource file gives each key its text in one language. It holds lines `"key" = "value";`. Reading
a line allows blanks around each of its parts. In its texts a backslash and the character after it
stand together, so that a quote after a backslash ends no text; both characters are kept as they
are. Writing escapes nothing.

A resource file is updated only where there is a file already, and an update replaces its whole
text. A plan says what an update would change: a list of pairs is read as a table in which the last
pair of a key counts, and the table of the file is compared with that of the entries. Several
resource files are planned or written one after the other, up to the first one that fails. What was
written before it stays written.

* `Pair.line`: the line written for a key and a value.
* `Pair.ofLine?`: the key and the value of a line, if it has this form.
* `Pair.ofText`: the pairs of a whole text, from the lines that have this form.
* `Entry.sorted`: the entries by key, those of one key in their order.
* `Entry.render`: the text of the resource file for a field, a line for each entry.
* **`Entry.sorted_perm`**: no entry is lost.
* **`Entry.pairwise_sorted`**: the keys do not decrease.
* `Pair.value?`: the value of a key, from its last pair.
* `Plan`: how many keys would be added, removed and changed.
* `Plan.ofPairs`: the plan that compares two lists of pairs.
* `Resource`: the path of a resource file and the field of the entries that it holds.
* `Resource.plan`: what an update would change.
* `Resource.write`: the number of entries that an update writes, and the tree after it.
* `Plans`, `Resource.planAll`: the plans for several files.
* `Writes`, `Resource.writeAll`: the updates of several files.
-/

namespace LocalizedStrings

open Source Text

/-! ## Lines -/

/-- A key and its value in a resource file. -/
structure Pair where
  key : String
  value : String
  deriving DecidableEq, Repr

namespace Pair

/-- The characters of the line `"key" = "value";`, with its line feed. -/
def line (p : Pair) : List Char :=
  ['"'] ++ p.key.toList ++ "\" = \"".toList ++ p.value.toList ++ "\";\n".toList

/-- The text up to the next quote that follows no backslash, and what comes after this quote. A
line feed cannot follow a backslash. -/
def escaped? : List Char → Option (List Char × List Char)
  | [] => none
  | '"' :: s => some ([], s)
  | '\\' :: c :: s => if c = '\n' then none else (escaped? s).map fun p => ('\\' :: c :: p.1, p.2)
  | c :: s => if c = '\\' then none else (escaped? s).map fun p => (c :: p.1, p.2)

/-- The text in quotes after some blanks, and what comes after it. -/
def quotedText? (s : List Char) : Option (List Char × List Char) := do
  let s ← after? ['"'] (s.dropWhile isBlank)
  escaped? s

/-- The key and the value of a line. -/
def ofLine? (s : List Char) : Option Pair := do
  let (key, s) ← quotedText? s
  let s ← after? ['='] (s.dropWhile isBlank)
  let (value, s) ← quotedText? s
  let s ← after? [';'] (s.dropWhile isBlank)
  if (s.dropWhile isBlank).isEmpty then some ⟨String.ofList key, String.ofList value⟩ else none

/-- The pairs of the lines of a text that hold one, in order. -/
def ofText (s : List Char) : List Pair := (lines s).filterMap ofLine?

end Pair

/-! ## Writing -/

namespace Entry

/-- The pair written for an entry. -/
def pair (field : Field) (e : Entry) : Pair := ⟨e.key, e.value field⟩

/-- The key of `a` comes no later than the key of `b`, byte by byte. -/
def keyLe (a b : Entry) : Bool := Text.utf8Le a.key b.key

/-- The entries by key, those of one key in their order. -/
def sorted (es : List Entry) : List Entry := es.mergeSort keyLe

/-- The text of the resource file for a field. -/
def render (es : List Entry) (field : Field) : String :=
  String.ofList ((sorted es).flatMap fun e => (e.pair field).line)

/-- **No entry is lost.** -/
theorem sorted_perm (es : List Entry) : (sorted es).Perm es := List.mergeSort_perm es keyLe

theorem keyLe_trans {a b c : Entry} (hab : keyLe a b = true) (hbc : keyLe b c = true) :
    keyLe a c = true := Text.utf8Le_trans hab hbc

theorem keyLe_total (a b : Entry) : (keyLe a b || keyLe b a) = true := Text.utf8Le_total _ _

/-- **The keys do not decrease.** -/
theorem pairwise_sorted (es : List Entry) : (sorted es).Pairwise fun a b => keyLe a b = true :=
  List.pairwise_mergeSort (fun a b c => @keyLe_trans a b c) keyLe_total es

end Entry

/-! ## Comparing -/

namespace Pair

/-- The value of the last pair with this key. -/
def value? (ps : List Pair) (key : String) : Option String :=
  (ps.reverse.find? fun p => p.key = key).map Pair.value

/-- The keys of the pairs, each once. -/
def keys (ps : List Pair) : List String := (ps.map Pair.key).eraseDups

end Pair

/-- What writing a resource file would change. -/
structure Plan where
  /-- The number of lines that would be written. -/
  entryCount : Nat
  added : Nat
  removed : Nat
  changed : Nat
  deriving DecidableEq, Repr

namespace Plan

/-- Nothing would change. -/
def isUnchanged (p : Plan) : Bool := p.added = 0 && p.removed = 0 && p.changed = 0

/-- The value of `key` differs between the two tables, which both have it. -/
def isChanged (old new : List Pair) (key : String) : Bool :=
  match Pair.value? old key, Pair.value? new key with
  | some v, some w => v != w
  | _, _ => false

/-- The plan for replacing the pairs `old` by the pairs `new`. -/
def ofPairs (old new : List Pair) : Plan where
  entryCount := new.length
  added := (Pair.keys new).countP fun k => (Pair.value? old k).isNone
  removed := (Pair.keys old).countP fun k => (Pair.value? new k).isNone
  changed := (Pair.keys new).countP (isChanged old new)

end Plan

/-- What replacing a file of the pairs `old` by the entries would change. -/
def Entry.plan (es : List Entry) (field : Field) (old : List Pair) : Plan :=
  Plan.ofPairs old (es.map (pair field))

/-! ## Files -/

/-- A resource file. -/
structure Resource where
  path : String
  /-- Which text of the entries it holds. -/
  field : Field
  deriving DecidableEq, Repr

/-- The pairs of the resource file that a path leads to. -/
def Pair.ofFile (t : FileTree) (path : String) : Except FileError (List Pair) :=
  t.scan (fun _ => ofText) path

namespace Resource

/-- The bytes that an update writes. -/
def bytes (r : Resource) (es : List Entry) : ByteArray := (Entry.render es r.field).toUTF8

/-- The place of the resource file. -/
def place (r : Resource) (t : FileTree) : Except FileError Place :=
  match t.filePlace? r.path with
  | some p => .ok p
  | none => .error (.missing r.path)

/-- What an update with these entries would change. -/
def plan (r : Resource) (t : FileTree) (es : List Entry) : Except FileError Plan := do
  let _ ← r.place t
  let old ← Pair.ofFile t r.path
  return Entry.plan es r.field old

/-- The number of entries that an update with these entries writes, and the tree after it. -/
def write (r : Resource) (t : FileTree) (es : List Entry) : Except FileError (Nat × FileTree) :=
  (r.place t).map fun p => (es.length, t.replace p (r.bytes es))

end Resource

/-! ## Several files -/

/-- Plans for resource files, in order, and why they ended early if they did. -/
structure Plans where
  plans : List (Resource × Plan)
  failure? : Option FileError

/-- The resource files that were written, in order, each with the number of its entries, the tree
after that, and why they ended early if they did. -/
structure Writes where
  written : List (Resource × Nat)
  tree : FileTree
  failure? : Option FileError

namespace Resource

/-- The plans for updates with these entries, up to the first that fails. -/
def planAll (t : FileTree) (es : List Entry) : List Resource → Plans
  | [] => ⟨[], none⟩
  | r :: rs => match r.plan t es with
    | .error e => ⟨[], some e⟩
    | .ok p => { planAll t es rs with plans := (r, p) :: (planAll t es rs).plans }

/-- The updates with these entries, up to the first that fails. -/
def writeAll (t : FileTree) (es : List Entry) : List Resource → Writes
  | [] => ⟨[], t, none⟩
  | r :: rs => match r.write t es with
    | .error e => ⟨[], t, some e⟩
    | .ok (n, u) => { writeAll u es rs with written := (r, n) :: (writeAll u es rs).written }

end Resource

end LocalizedStrings
