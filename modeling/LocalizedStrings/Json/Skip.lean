import LocalizedStrings.Json.Number
import LocalizedStrings.Json.Text

/-!
# JSON values passed over

A value that nobody asked for is only checked for its form. The arrays and objects that are open are
kept on a stack, so that there is no limit to their depth.

* `Frame`: an open array or object.
* `opening`: the start of a value, up to its end or to the first value inside it.
* `closing`: the end of an open array or object, or what leads to its next value.
* `skipValue`: a whole value passed over.
-/

namespace LocalizedStrings.Json

/-- An open array or object. -/
inductive Frame where
  | array
  | object
  deriving DecidableEq, Repr

/-- The next character other than a blank, which is left in place. -/
def peekToken? : Reader (Option Char) := fun s =>
  .ok ⟨(dropBlanks s).head?, dropBlanks s, length_dropBlanks_le s⟩

/-- The key of a member, after its opening quote, and the colon. -/
def skipKey : Reader Unit := do
  skipTextBody
  symbol ':'

/-- The start of a value, after its first character `c`: an array or object if a value inside it
comes next, or none if the value is over. -/
def opening (c : Char) : Reader (Option Frame) := do
  if c = '[' then
    match ← peekToken? with
    | none => .fail .ended
    | some ']' => do symbol ']'; pure none
    | some _ => pure (some .array)
  else if c = '{' then
    match ← token? with
    | none => .fail .ended
    | some '}' => pure none
    | some '"' => do skipKey; pure (some .object)
    | some _ => .fail .malformed
  else if c = '"' then do skipTextBody; pure none
  else if c = '-' || c.isDigit then do skipNumber c; pure none
  else if c = 'n' then do word "ull".toList; pure none
  else if c = 't' then do word "rue".toList; pure none
  else if c = 'f' then do word "alse".toList; pure none
  else .fail .malformed

/-- What follows a value inside an open array or object, from its first character `c` on: whether
this closes it, or another value comes next. -/
def closing (f : Frame) (c : Char) : Reader Bool := do
  match f with
  | .array =>
    if c = ']' then pure true
    else if c = ',' then pure false
    else .fail .malformed
  | .object =>
    if c = '}' then pure true
    else if c = ',' then
      match ← token? with
      | none => .fail .ended
      | some '"' => do skipKey; pure false
      | some _ => .fail .malformed
    else .fail .malformed

theorem length_lt_of_dropBlanks {s r : List Char} {c : Char} (h : dropBlanks s = c :: r) :
    r.length < s.length := by
  have := length_dropBlanks_le s
  rw [h, List.length_cons] at this
  omega

mutual

/-- A value and the rest of the open arrays and objects around it. -/
def skipFrom (stack : List Frame) (s : List Char) : Except Error (Taken s Unit) :=
  match h : dropBlanks s with
  | [] => .error .ended
  | c :: r =>
    have hr := length_lt_of_dropBlanks h
    match opening c r with
    | .error e => .error e
    | .ok ⟨none, r', hr'⟩ => match skipRest stack r' with
      | .error e => .error e
      | .ok ⟨_, t, ht⟩ => .ok ⟨(), t, by omega⟩
    | .ok ⟨some f, r', hr'⟩ => match skipFrom (f :: stack) r' with
      | .error e => .error e
      | .ok ⟨_, t, ht⟩ => .ok ⟨(), t, by omega⟩
termination_by s.length

/-- The rest of the open arrays and objects, after a value in the innermost one. -/
def skipRest (stack : List Frame) (s : List Char) : Except Error (Taken s Unit) :=
  match stack with
  | [] => .ok ⟨(), s, Nat.le_refl _⟩
  | f :: stack => match h : dropBlanks s with
    | [] => .error .ended
    | c :: r =>
      have hr := length_lt_of_dropBlanks h
      match closing f c r with
      | .error e => .error e
      | .ok ⟨true, r', hr'⟩ => match skipRest stack r' with
        | .error e => .error e
        | .ok ⟨_, t, ht⟩ => .ok ⟨(), t, by omega⟩
      | .ok ⟨false, r', hr'⟩ => match skipFrom (f :: stack) r' with
        | .error e => .error e
        | .ok ⟨_, t, ht⟩ => .ok ⟨(), t, by omega⟩
termination_by s.length

end

/-- A whole value passed over. -/
def skipValue : Reader Unit := skipFrom []

end LocalizedStrings.Json
