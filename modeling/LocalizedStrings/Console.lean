import LocalizedStrings.Text

/-!
# Styled console lines

A line is made of pieces of text, each in a style or plain. On a console without colours only the
texts are shown.

A console takes some characters as orders and not as text: control characters, and the sequences
that start with an escape character. A bare text has none of them. White space is text also inside a
sequence, and `Spacing` tells what becomes of the sequence then.

* `Style`: the styles, and the control sequence that starts each of them.
* `Line.render`: the text of a line, with or without colours.
* `Context`: where in a control sequence a character stands.
* `Context.shows`, `Context.next`: whether a character is text, and where the next one stands.
* `bare`: the text without orders to the console.
-/

namespace LocalizedStrings.Console

/-! ## Lines -/

/-- A style of text. -/
inductive Style where
  | bold
  | dimmed
  | green
  | yellow
  | cyan
  | boldYellow
  | boldCyan
  /-- Bold and underlined. -/
  | heading
  deriving DecidableEq, Repr

/-- The control sequence that starts a style. -/
def Style.start : Style → String
  | bold => "\x1b[1m"
  | dimmed => "\x1b[2m"
  | green => "\x1b[32m"
  | yellow => "\x1b[33m"
  | cyan => "\x1b[36m"
  | boldYellow => "\x1b[1;33m"
  | boldCyan => "\x1b[1;36m"
  | heading => "\x1b[1m\x1b[4m"

/-- The control sequence that ends every style. -/
def reset : String := "\x1b[0m"

/-- A text in which `start` follows each sequence that ends a style. -/
def restarted (start : List Char) : List Char → List Char
  | '\x1b' :: '[' :: '0' :: 'm' :: s => reset.toList ++ start ++ restarted start s
  | c :: s => c :: restarted start s
  | [] => []

/-- A piece of a line. -/
inductive Piece where
  | plain (text : String)
  | styled (style : Style) (text : String)
  deriving DecidableEq, Repr

instance : Coe String Piece := ⟨.plain⟩

/-- The text of a piece. A style in force goes on after a sequence in the text that ends it. -/
def Piece.render (colors : Bool) : Piece → String
  | plain text => text
  | styled style text =>
    if colors then
      style.start ++ String.ofList (restarted style.start.toList text.toList) ++ reset
    else text

/-- A line, without its line feed. -/
abbrev Line : Type := List Piece

/-- The text of a line, without its line feed. -/
def Line.render (colors : Bool) (l : Line) : String := String.join (l.map (Piece.render colors))

/-- The text of lines, each with its line feed. -/
def render (colors : Bool) (ls : List Line) : String :=
  String.join (ls.map fun l => l.render colors ++ "\n")

/-! ## Text without control sequences -/

/-- What white space inside a sequence does to it. -/
inductive Spacing where
  /-- The sequence is over. -/
  | ends
  /-- The sequence goes on at the next control character, unless a character beyond ASCII comes
  before that. -/
  | pauses
  deriving DecidableEq, Repr

/-- Where in a control sequence a character stands. -/
inductive Context where
  /-- Outside of all sequences. -/
  | text
  /-- Right after an escape character. -/
  | escape
  /-- After an escape character and characters that a final one has to follow. -/
  | unfinished
  /-- In the parameters after `[`, before their final character. -/
  | parameters
  /-- In the parameters before a string for a device, and whether there are none so far. -/
  | device (fresh : Bool)
  /-- After these, in characters that a final one has to follow. -/
  | deviceUnfinished
  /-- In a string, and whether a bell ends it. -/
  | string (bell : Bool)
  /-- In text after white space inside of a sequence, which goes on later. -/
  | paused (inside : Context)
  deriving DecidableEq, Repr

/-- A control character that moves on in the text. -/
def isSpacing (c : Char) : Bool := c = '\t' || c = '\n' || c = '\r' || c = '\x0c'

/-- The character is text. -/
def Context.shows (c : Char) : Context → Bool
  | text | paused _ => isSpacing c || (0x20 ≤ c.toNat && c ≠ '\x7f')
  | escape | unfinished | parameters => isSpacing c
  | device _ | deviceUnfinished | string _ => false

/-- Where the character after an escape character leads to. -/
def afterEscape (c : Char) : Context :=
  if c = '[' then .parameters
  else if c = ']' then .string true
  else if c = 'P' then .device true
  else if c = 'X' || c = '^' || c = '_' then .string false
  else if Text.between c 0x20 0x2F then .unfinished
  else if Text.between c 0x30 0x7E then .text
  else .escape

/-- Where a character before a string for a device leads to. Parameters have digits and separators,
and further signs only at their start. -/
def afterDevice (fresh : Bool) (c : Char) : Context :=
  if Text.between c 0x20 0x2F then .deviceUnfinished
  else if Text.between c 0x30 0x3B || (fresh && Text.between c 0x3C 0x3F) then .device false
  else if Text.between c 0x3C 0x7E then .string false
  else .device fresh

/-- The byte `9C` is in the encoded character. -/
def hasStringEnd (c : Char) : Bool := (String.singleton c).toUTF8.toList.contains 0x9C

/-- Where the next character stands after one that is text. -/
def Context.afterText (spacing : Spacing) (c : Char) : Context → Context
  | text => text
  | paused inside => if c.toNat < 0x80 then paused inside else text
  | inside => match spacing with
    | .ends => text
    | .pauses => paused inside

/-- Where the next character stands after one that is no text and starts or ends no sequence
everywhere. A string that no bell ends goes on up to the byte `9C`, which may be a part of a
character. -/
def Context.afterOrder (c : Char) : Context → Context
  | text => text
  | escape => afterEscape c
  | unfinished => if Text.between c 0x30 0x7E then text else unfinished
  | parameters => if Text.between c 0x40 0x7E then text else parameters
  | device fresh => afterDevice fresh c
  | deviceUnfinished => if Text.between c 0x30 0x7E then string false else deviceUnfinished
  | string true => if c = '\x07' then text else string true
  | string false => if hasStringEnd c then text else string false
  | paused inside => inside

/-- Where the next character stands. An escape character starts anew everywhere, and cancel and
substitute end any sequence. -/
def Context.next (spacing : Spacing) (context : Context) (c : Char) : Context :=
  if c = '\x1b' then escape
  else if c = '\x18' || c = '\x1a' then text
  else if context.shows c then context.afterText spacing c
  else context.afterOrder c

/-- The text that is left of one that starts in some context. -/
def bareFrom (spacing : Spacing) (context : Context) : List Char → List Char
  | [] => []
  | c :: s =>
    if context.shows c then c :: bareFrom spacing (context.next spacing c) s
    else bareFrom spacing (context.next spacing c) s

/-- The text without control characters and sequences. -/
def bare (spacing : Spacing) (text : String) : String :=
  String.ofList (bareFrom spacing .text text.toList)

end LocalizedStrings.Console
