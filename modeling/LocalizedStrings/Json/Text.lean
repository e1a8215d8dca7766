import LocalizedStrings.Json.Reader
import LocalizedStrings.Text

/-!
# JSON texts in quotes

A text ends at the next quote that is not escaped. Control characters below the space do not stand
in it as themselves. A character is escaped by a letter, or by four hexadecimal digits, and one
beyond `U+FFFF` by a pair of surrogates; a surrogate without its partner stands for no character.
Where a text is only passed over, surrogates need no partner.

* `hex`: the four hexadecimal digits after `\u`.
* `textBody`: the text after an opening quote.
* `skipTextBody`: the same, passed over.
-/

namespace LocalizedStrings.Json

/-- The value of a hexadecimal digit. -/
def hexDigit? (c : Char) : Option Nat :=
  if '0' ≤ c ∧ c ≤ '9' then some (c.toNat - 48)
  else if 'a' ≤ c ∧ c ≤ 'f' then some (c.toNat - 87)
  else if 'A' ≤ c ∧ c ≤ 'F' then some (c.toNat - 55)
  else none

/-- The value of four hexadecimal digits. If there are not even four bytes, the text has ended. -/
def hex : Reader Nat
  | a :: b :: c :: d :: rest =>
    match hexDigit? a, hexDigit? b, hexDigit? c, hexDigit? d with
    | some a', some b', some c', some d' =>
      .ok ⟨((a' * 16 + b') * 16 + c') * 16 + d', rest, Nat.le_add_right _ 4⟩
    | _, _, _, _ => .error .malformed
  | s => .error (if Text.byteSize s < 4 then .ended else .malformed)

/-- The code unit comes first in a pair of surrogates. -/
def isHighSurrogate (n : Nat) : Bool := 0xD800 ≤ n && n ≤ 0xDBFF

/-- The code unit comes second in a pair of surrogates. -/
def isLowSurrogate (n : Nat) : Bool := 0xDC00 ≤ n && n ≤ 0xDFFF

/-- The character of a pair of surrogates. -/
def ofSurrogates (high low : Nat) : Char :=
  Char.ofNat (0x10000 + (high - 0xD800) * 0x400 + (low - 0xDC00))

/-- The character that a letter after a backslash stands for. -/
def escape? : Char → Option Char
  | '"' => some '"'
  | '\\' => some '\\'
  | '/' => some '/'
  | 'b' => some '\x08'
  | 'f' => some '\x0c'
  | 'n' => some '\n'
  | 'r' => some '\r'
  | 't' => some '\t'
  | _ => none

/-- One of the characters that have to follow, after a surrogate. -/
def following (c : Char) : Reader Unit := word [c]

/-- The character that an escape stands for, after the backslash. -/
def escaped : Reader Char := do
  match ← next? with
  | none => .fail .ended
  | some 'u' =>
    let n ← hex
    if isLowSurrogate n then .fail .malformed
    else if isHighSurrogate n then
      following '\\'
      following 'u'
      let low ← hex
      if isLowSurrogate low then pure (ofSurrogates n low) else .fail .malformed
    else pure (Char.ofNat n)
  | some c => match escape? c with
    | some c => pure c
    | none => .fail .malformed

/-- An escape passed over, after the backslash. -/
def skipEscaped : Reader Unit := do
  match ← next? with
  | none => .fail .ended
  | some 'u' => let _ ← hex
  | some c => if (escape? c).isSome then pure () else .fail .malformed

/-- The characters after an opening quote, up to the quote that ends them, where `unit` reads an
escape. -/
def bodyOf {α : Type} (escape : Reader α) (plain : Char → α) (s : List Char) :
    Except Error (Taken s (List α)) :=
  match s with
  | [] => .error .ended
  | c :: s =>
    if c = '"' then .ok ⟨[], s, Nat.le_succ _⟩
    else if c = '\\' then match escape s with
      | .error e => .error e
      | .ok a => match bodyOf escape plain a.rest with
        | .error e => .error e
        | .ok b => .ok ⟨a.value :: b.value, b.rest, Nat.le_succ_of_le (Nat.le_trans b.le a.le)⟩
    else if c.toNat < 0x20 then .error .malformed
    else match bodyOf escape plain s with
      | .error e => .error e
      | .ok b => .ok ⟨plain c :: b.value, b.rest, Nat.le_succ_of_le b.le⟩
termination_by s.length
decreasing_by
  · exact Nat.lt_succ_of_le a.le
  · exact Nat.lt_succ_self _

/-- The text after an opening quote. -/
def textBody : Reader String := do
  let s ← bodyOf escaped id
  pure (String.ofList s)

/-- The text after an opening quote, passed over. -/
def skipTextBody : Reader Unit := do
  let _ ← bodyOf skipEscaped fun _ => ()

end LocalizedStrings.Json
