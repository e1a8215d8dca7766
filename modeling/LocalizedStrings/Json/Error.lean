import LocalizedStrings.Text.Table.Unprintable

/-!
# Errors in reading a JSON text

Reading stops at the first problem from the left: the text ends too early, it is not JSON, or it is
JSON so far and its shape is not the one that is expected there.

A text inside an error message is shown in double quotes. Quotes and backslashes in it get a
backslash, four control characters have a letter of their own, and every other character that has no
shape of its own is given by its code point.

Only a mismatch is described. In what way a text is not JSON or where it ends too early is left out,
and so are the line and the column of each problem.

* `Text.quoteChar`, `Text.quote`: how a character and a text are shown between quotes.
* `Json.Seen`: a value that stands where another one is expected.
* `Json.Mismatch`: what is wrong with the shape; `Json.Mismatch.message` is its text.
* `Json.Error`: the three kinds of problems; `Json.Error.cause?` is the text for a mismatch.
-/

namespace LocalizedStrings

/-! ## Texts shown in quotes -/

namespace Text

/-- The digits of a number in base 16, without zeros before them. -/
def hexDigits (n : Nat) : List Char := Nat.toDigits 16 n

/-- How a character is shown between quotes. -/
def quoteChar (c : Char) : List Char :=
  if c = '"' then ['\\', '"']
  else if c = '\\' then ['\\', '\\']
  else if c = '\n' then ['\\', 'n']
  else if c = '\r' then ['\\', 'r']
  else if c = '\t' then ['\\', 't']
  else if c = '\x00' then ['\\', '0']
  else if Table.unprintable.holds c then "\\u\x7b".toList ++ hexDigits c.toNat ++ ['\x7d']
  else [c]

/-- How a text is shown. -/
def quote (s : String) : String := String.ofList ('"' :: s.toList.flatMap quoteChar ++ ['"'])

end Text

namespace Json

/-! ## Problems -/

/-- A value that stands where another one is expected. -/
inductive Seen where
  | null
  | boolean (b : Bool)
  | integer (n : Int)
  /-- A number with a fraction or an exponent, or one that is no integer of 64 bits, as its text. -/
  | float (text : String)
  | text (s : String)
  | sequence
  | map
  deriving DecidableEq, Repr

/-- The text for a value that is not expected. -/
def Seen.message : Seen → String
  | null => "null"
  | boolean b => "boolean \x60" ++ (if b then "true" else "false") ++ "\x60"
  | integer n => "integer \x60" ++ toString n ++ "\x60"
  | float t => "floating point \x60" ++ t ++ "\x60"
  | text s => "string " ++ Text.quote s
  | sequence => "sequence"
  | map => "map"

/-- A shape that is not the expected one. -/
inductive Mismatch where
  /-- The value `seen` stands where `expected` should. -/
  | type (seen : Seen) (expected : String)
  /-- A name that is none of the two choices. -/
  | variant (name first second : String)
  | missing (field : String)
  | duplicate (field : String)
  /-- A sequence of this length that stands for a structure with more fields. -/
  | length (n : Nat) (expected : String)
  deriving DecidableEq, Repr

/-- The text for a mismatch. -/
def Mismatch.message : Mismatch → String
  | type seen expected => "invalid type: " ++ seen.message ++ ", expected " ++ expected
  | variant name first second =>
    "unknown variant \x60" ++ name ++ "\x60, expected \x60" ++ first ++ "\x60 or \x60" ++ second ++
      "\x60"
  | missing field => "missing field \x60" ++ field ++ "\x60"
  | duplicate field => "duplicate field \x60" ++ field ++ "\x60"
  | length n expected => "invalid length " ++ toString n ++ ", expected " ++ expected

/-- A problem in a JSON text. -/
inductive Error where
  /-- The text ends too early. -/
  | ended
  /-- The text is not JSON. -/
  | malformed
  /-- A value does not have the expected shape. -/
  | mismatch (m : Mismatch)
  deriving DecidableEq, Repr

/-- The text for a problem that is described. -/
def Error.cause? : Error → Option String
  | ended | malformed => none
  | mismatch m => some m.message

end Json

end LocalizedStrings
