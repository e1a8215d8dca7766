import LocalizedStrings.Json.Error

/-!
# Readers of JSON texts

A reader takes a value from the start of a text. What it leaves is never longer than the text, and
its result says so, so that a loop which takes one character more each time comes to an end.

* `Taken`: a value, and the text that is left.
* `Reader`: a monad of functions from a text to what is taken from it, or to the first problem.
* `Reader.run`: the value and the text left, without the bound.
* `token?`: the next character other than a blank.
* **`Reader.run_bind`**: one reader after another reads what the first one left.
-/

namespace LocalizedStrings.Json

/-- A value taken from the start of `s`, and the text that is left. -/
structure Taken (s : List Char) (α : Type) where
  value : α
  rest : List Char
  le : rest.length ≤ s.length

/-- A reader of values. -/
def Reader (α : Type) : Type := (s : List Char) → Except Error (Taken s α)

namespace Reader

variable {α β : Type}

/-- The reader that takes nothing. -/
protected def pure (a : α) : Reader α := fun s => .ok ⟨a, s, Nat.le_refl _⟩

/-- One reader after another. -/
protected def bind (f : Reader α) (g : α → Reader β) : Reader β := fun s =>
  match f s with
  | .error e => .error e
  | .ok a => match g a.value a.rest with
    | .error e => .error e
    | .ok b => .ok ⟨b.value, b.rest, Nat.le_trans b.le a.le⟩

instance : Monad Reader where
  pure := Reader.pure
  bind := Reader.bind

/-- The value that a reader takes and the text it leaves. -/
def run (f : Reader α) (s : List Char) : Except Error (α × List Char) :=
  (f s).map fun a => (a.value, a.rest)

/-- The reader that reports a problem. -/
def fail (e : Error) : Reader α := fun _ => .error e

@[simp] theorem run_pure (a : α) (s : List Char) : run (pure a) s = .ok (a, s) := rfl

@[simp] theorem run_fail (e : Error) (s : List Char) : run (fail e : Reader α) s = .error e := rfl

/-- **One reader after another** reads what the first one left. -/
theorem run_bind (f : Reader α) (g : α → Reader β) (s : List Char) :
    run (f >>= g) s = (run f s).bind fun p => run (g p.1) p.2 := by
  change (Reader.bind f g s).map _ = _
  unfold Reader.bind run
  cases f s with
  | error e => rfl
  | ok a => simp only [Except.map, Except.bind]; cases g a.value a.rest <;> rfl

end Reader

/-! ## Characters -/

/-- The four blanks of JSON. -/
def isBlank (c : Char) : Bool := c = ' ' || c = '\n' || c = '\t' || c = '\r'

/-- The text without the blanks at its start. -/
def dropBlanks (s : List Char) : List Char := s.dropWhile isBlank

theorem length_dropBlanks_le (s : List Char) : (dropBlanks s).length ≤ s.length :=
  (List.dropWhile_sublist _).length_le

/-- The next character, which is taken. -/
def next? : Reader (Option Char)
  | [] => .ok ⟨none, [], Nat.le_refl _⟩
  | c :: s => .ok ⟨some c, s, Nat.le_succ _⟩

/-- The next character, which is left in place. -/
def peek? : Reader (Option Char) := fun s => .ok ⟨s.head?, s, Nat.le_refl _⟩

/-- The blanks at the start of the text. -/
def blanks : Reader Unit := fun s => .ok ⟨(), dropBlanks s, length_dropBlanks_le s⟩

/-- The next character other than a blank, which is taken. -/
def token? : Reader (Option Char) := do
  blanks
  next?

/-- The characters of `word`, one after another. -/
def word : List Char → Reader Unit
  | [] => pure ()
  | c :: w => do
    match ← next? with
    | none => .fail .ended
    | some d => if d = c then word w else .fail .malformed

/-- A single character other than a blank. -/
def symbol (c : Char) : Reader Unit := do
  match ← token? with
  | none => .fail .ended
  | some d => if d = c then pure () else .fail .malformed

/-- The whole text was read, up to blanks. -/
def finish : Reader Unit := do
  match ← token? with
  | none => pure ()
  | some _ => .fail .malformed

end LocalizedStrings.Json
