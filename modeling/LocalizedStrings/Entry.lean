import LocalizedStrings.Path
import LocalizedStrings.Source.Construct

/-!
# Localized entries

What scanning finds is a record: it has a place, a file and a line of it, and a payload, and is
shown in two forms. An entry is one localization call of a source file: its key, which is also the
text in the base language, and its comment, which is the text in another language. A key that occurs
again is reported with the first value that has it.

* `Record`: the file, line and payload of a value.
* `Record.verbose`: place first, `file:line: payload`.
* `Record.short`: payload first, `payload name:line`, with the last name of the file only.
* `Entry.value`: the text of an entry that goes into the resource file of a `Field`.
* `Entry.ofLine`: the entries of a line, left to right.
* `Entry.ofText`: the entries of a whole text, line by line, each with its line number.
* **`Entry.mem_ofLine`**: keys and comments are non-empty, hold no quote and stand in the line.
* `repeatsBy`: the pairs of a first value with its key and a later one, in the order of the later.
* `Entry.repeats`: the pairs for entries and their keys.
-/

namespace LocalizedStrings

open Source

/-! ## Records -/

/-- A value found at a line of a file. -/
class Record (α : Type) where
  file : α → String
  line : α → Nat
  /-- What was found, without its place. -/
  payload : α → String

namespace Record

variable {α : Type} [Record α]

/-- The form `file:line: payload`. -/
def verbose (a : α) : String := file a ++ ":" ++ toString (line a) ++ ": " ++ payload a

/-- The form `payload name:line`. -/
def short (a : α) : String := payload a ++ " " ++ Path.baseName (file a) ++ ":" ++ toString (line a)

end Record

/-! ## Entries -/

/-- Which text of an entry a resource file holds. -/
inductive Field where
  /-- The key, for the base language. -/
  | base
  /-- The comment, for another language. -/
  | comment
  deriving DecidableEq, Repr

/-- A localization call at a line of a file. -/
structure Entry where
  key : String
  comment : String
  file : String
  line : Nat
  deriving DecidableEq, Repr

namespace Entry

/-- The text of the entry for a field. -/
def value (e : Entry) : Field → String
  | .base => e.key
  | .comment => e.comment

instance : Record Entry where
  file := file
  line := line
  payload e := e.key ++ " " ++ e.comment

/-- The form `key,comment,file,line`. -/
def display (e : Entry) : String :=
  e.key ++ "," ++ e.comment ++ "," ++ e.file ++ "," ++ toString e.line

/-- The entry of a call. -/
def ofCall (file : String) (line : Nat) (c : Call) : Entry :=
  ⟨String.ofList c.key, String.ofList c.comment, file, line⟩

/-- The entries of one line, left to right. -/
def ofLine (file : String) (line : List Char) (n : Nat) : List Entry :=
  (call.findAll line).map fun f => ofCall file n f.value

/-- **Keys and comments are not empty, hold no quote and stand in the line.** -/
theorem mem_ofLine {file : String} {line : List Char} {n : Nat} {e : Entry}
    (h : e ∈ ofLine file line n) :
    e.key ≠ "" ∧ e.comment ≠ "" ∧ '"' ∉ e.key.toList ∧ '"' ∉ e.comment.toList ∧
      e.key.toList <:+: line ∧ e.comment.toList <:+: line ∧ e.file = file ∧ e.line = n := by
  obtain ⟨f, hf, rfl⟩ := List.mem_map.1 h
  obtain ⟨t, u, ht, hu⟩ := call.mem_findAll hf
  obtain ⟨w₁, w₂, -, -, hk, hkq, hc, hcq, hs⟩ := call?_eq_some hu
  rw [List.append_assoc, hs] at ht
  refine ⟨fun e => hk ?_, fun e => hc ?_, ?_, ?_, ?_, ?_, rfl, rfl⟩
  · simpa [ofCall] using congrArg String.toList e
  · simpa [ofCall] using congrArg String.toList e
  · simpa [ofCall] using hkq
  · simpa [ofCall] using hcq
  · refine ⟨t ++ "NSLocalizedString(\"".toList, ['"', ','] ++ w₁ ++ "comment:".toList ++ w₂ ++
      ['"'] ++ f.value.comment ++ ['"', ')'] ++ f.rest, ?_⟩
    simp only [ofCall, String.toList_ofList, ht, List.append_assoc]
  · refine ⟨t ++ "NSLocalizedString(\"".toList ++ f.value.key ++ ['"', ','] ++ w₁ ++
      "comment:".toList ++ w₂ ++ ['"'], ['"', ')'] ++ f.rest, ?_⟩
    simp only [ofCall, String.toList_ofList, ht, List.append_assoc]

/-- The entries of a text, line by line. -/
def ofText (file : String) (text : List Char) : List Entry := Text.onLines (ofLine file) text

end Entry

/-! ## Repeated keys -/

section

variable {α κ : Type} [DecidableEq κ] (key : α → κ)

/-- The repeats in a list, where `firsts` are the first values of the keys before it. -/
def repeatsAfter (firsts : List α) : List α → List (α × α)
  | [] => []
  | a :: as => match firsts.find? fun b => key b = key a with
    | some b => (b, a) :: repeatsAfter firsts as
    | none => repeatsAfter (a :: firsts) as

/-- Each value whose key occurred before, with the first value that has its key. -/
def repeatsBy (as : List α) : List (α × α) := repeatsAfter key [] as

end

/-- The entries whose key occurred before, each with the first entry of this key. -/
def Entry.repeats (es : List Entry) : List (Entry × Entry) := repeatsBy Entry.key es

end LocalizedStrings
