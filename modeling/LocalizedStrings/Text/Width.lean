import LocalizedStrings.Text.Table.Emoji
import LocalizedStrings.Text.Table.Width

/-!
# Display width

How many columns a text takes on a terminal. A character takes as many as its kind says, unless it
forms one shape with what stands to the right of it, as in an emoji sequence. A text is therefore
measured from its end, and a `Right` tells what was found just to the right: the start of a shape,
and the variation selectors that wait for a character which they change.

* `step`: the columns that a character adds to what stands to the right of it, and the new `Right`.
* `width`: the columns of a text.
-/

namespace LocalizedStrings.Text.Width

/-- The shape that starts to the right of a character, as far as it matters. -/
inductive Shape where
  /-- Nothing that matters. -/
  | plain
  | lineFeed
  | emoji
  /-- A skin colour. -/
  | modifier
  /-- One regional indicator. -/
  | region
  /-- Several regional indicators. -/
  | regions
  /-- A zero-width joiner before an emoji. -/
  | joined
  /-- A keycap before a joined emoji. -/
  | keycapJoined
  /-- An odd number of regional indicators before a joined emoji, and whether there is just one. -/
  | oddRegionsJoined (single : Bool)
  /-- An even number of regional indicators before a joined emoji. -/
  | evenRegionsJoined
  /-- So many tag letters, at the end of a tag sequence before a joined emoji. -/
  | tagLettersJoined (n : Nat)
  /-- So many tag digits, before any tag letters. -/
  | tagDigitsJoined (n : Nat)
  /-- An Arabic letter of the group alef. -/
  | alef
  /-- The Hebrew letter lamed, and whether a joiner is before it. -/
  | lamed (joiner : Bool)
  /-- The Buginese letter ya, and whether a joiner is before it. -/
  | ya (joiner : Bool)
  /-- The Buginese vowel sign i, a joiner and the letter ya. -/
  | vowelYa
  /-- A Tifinagh consonant, and whether a joiner is before it. -/
  | tifinagh (joiner : Bool)
  /-- The Tifinagh consonant joiner and a consonant. -/
  | tifinaghJoiner
  /-- The Lisu tone letters that end a pair. -/
  | lisuTone
  /-- The Old Turkic letter i, and whether a joiner is before it. -/
  | orkhonI (joiner : Bool)
  /-- A Khmer letter that can stand below another one. -/
  | khmerLetter
  /-- The Kirat Rai vowel sign e. -/
  | kiratRaiE
  /-- The Kirat Rai vowel sign ai. -/
  | kiratRaiAi
  deriving DecidableEq, Repr

/-- What stands just to the right of a character: a shape, and the variation selectors before it
that still wait for the character which they change. -/
structure Right where
  shape : Shape
  /-- Selector 16, which asks for an emoji. -/
  emoji : Bool
  /-- Selector 15, which asks for a narrow character. -/
  narrow : Bool
  /-- Selector 2, which asks for a wide quotation mark. -/
  wideQuote : Bool
  deriving DecidableEq, Repr

/-- A shape without selectors before it. -/
def Shape.alone (s : Shape) : Right := ⟨s, false, false, false⟩

/-! ## Characters by themselves -/

/-- A regional indicator. -/
def isRegion (c : Char) : Bool := between c 0x1F1E6 0x1F1FF

/-- A skin colour. -/
def isModifier (c : Char) : Bool := between c 0x1F3FB 0x1F3FF

/-- A tag that stands for a letter. -/
def isTagLetter (c : Char) : Bool := between c 0xE0061 0xE007A

/-- A tag that stands for a digit. -/
def isTagDigit (c : Char) : Bool := between c 0xE0030 0xE0039

/-- An Arabic letter of the group alef. -/
def isAlef (c : Char) : Bool :=
  Ranges.holds [(0x622, 0x623), (0x625, 0x625), (0x627, 0x627), (0x671, 0x673), (0x675, 0x675),
    (0x773, 0x774), (0x870, 0x882)] c

/-- An Arabic letter of the group lam. -/
def isLam (c : Char) : Bool :=
  Ranges.holds [(0x644, 0x644), (0x6B5, 0x6B8), (0x76A, 0x76A), (0x8A6, 0x8A6), (0x8C7, 0x8C7)] c

/-- A consonant of the Tifinagh script. -/
def isTifinagh (c : Char) : Bool := between c 0x2D31 0x2D65 || c.toNat == 0x2D6F

/-- A Khmer letter that can stand below another one. -/
def isKhmerLetter (c : Char) : Bool :=
  Ranges.holds [(0x1780, 0x1782), (0x1784, 0x1787), (0x1789, 0x178C), (0x178E, 0x1793),
    (0x1795, 0x1798), (0x179B, 0x179D), (0x17A0, 0x17A0), (0x17A2, 0x17A2), (0x17A7, 0x17A7),
    (0x17AB, 0x17AC), (0x17AF, 0x17AF)] c

/-- The columns of a character beyond ASCII by itself. -/
def columns (c : Char) : Int :=
  if c.toNat = 0x17D8 then 3
  else if Table.zeroWidth.holds c then 0
  else if Table.emoji.holds c || isModifier c || Table.wide.holds c then 2
  else 1

/-- A quotation mark that can be drawn wide. -/
def isWideningQuote (c : Char) : Bool := between c 0x2018 0x2019 || between c 0x201C 0x201D

/-- The shape that a character beyond ASCII starts by itself. -/
def shapeOf (c : Char) : Shape :=
  if Table.emoji.holds c then .emoji
  else if isModifier c then .modifier
  else if isRegion c then .region
  else if isAlef c then .alef
  else if c.toNat = 0x5DC then .lamed false
  else if c.toNat = 0x1A10 then .ya false
  else if isTifinagh c then .tifinagh false
  else if c.toNat = 0xA4FC || c.toNat = 0xA4FD then .lisuTone
  else if c.toNat = 0x10C03 then .orkhonI false
  else if isKhmerLetter c then .khmerLetter
  else if c.toNat = 0x16D67 then .kiratRaiE
  else if c.toNat = 0x16D68 then .kiratRaiAi
  else .plain

/-! ## Sequences -/

/-- The start of letters that form one shape with a character further left. -/
def Shape.isLetters : Shape → Bool
  | alef | lamed _ | ya _ | vowelYa | tifinagh _ | tifinaghJoiner | lisuTone | orkhonI _
  | khmerLetter => true
  | _ => false

/-- The letters form their shape also over any character of `isJoinable`. Alef has a rule of its
own. -/
def Shape.joinsOver (s : Shape) : Bool := s.isLetters && s ≠ alef

/-- An emoji joins this shape from the left without a column of its own. -/
def Shape.takesEmoji : Shape → Bool
  | joined | keycapJoined => true
  | _ => false

/-- The same letters with a joiner before them. -/
def Shape.withJoiner : Shape → Shape
  | lamed _ => lamed true
  | ya _ => ya true
  | tifinagh _ => tifinagh true
  | orkhonI _ => orkhonI true
  | s => s

/-- A character of no width that letters join over. -/
def isJoinable (c : Char) : Bool :=
  between c 0x34F 0x34F || between c 0x17B4 0x17B5 || between c 0x180B 0x180D ||
    between c 0x180F 0x180F || c.toNat == 0x200D || between c 0xFE00 0xFE0F ||
    between c 0xE0100 0xE01EF

/-- Tags before a joined emoji. -/
def tagStep? (n : Nat) (digits : Bool) (c : Char) : Option (Int × Shape) :=
  if !digits && isTagLetter c && n < 6 then some (0, .tagLettersJoined (n + 1))
  else if isTagDigit c && (if digits then n < 3 else n ≤ 4) then
    some (0, .tagDigitsJoined (if digits then n + 1 else 1))
  else if c.toNat = 0x1F3F4 && 3 ≤ n then some (0, .emoji)
  else none

/-- The columns that a character adds when it forms one shape with what stands to its right. -/
def sequence? (c : Char) : Shape → Option (Int × Shape)
  | .plain => none
  | .lineFeed => none
  | .modifier =>
    if Table.modifierBase.holds c then some (0, .emoji)
    else if c.toNat = 0x200D then some (0, .joined) else none
  | .region => if isRegion c then some (1, .regions) else none
  | .regions =>
    if isRegion c then some (1, .regions) else if c.toNat = 0x200D then some (0, .joined) else none
  | .emoji => if c.toNat = 0x200D then some (0, .joined) else none
  | .joined =>
    if c.toNat = 0x20E3 then some (0, .keycapJoined)
    else if isRegion c then some (1, .oddRegionsJoined true)
    else if isModifier c then some (0, .modifier)
    else if c.toNat = 0xE007F then some (0, .tagLettersJoined 0)
    else if Table.emoji.holds c then some (0, .emoji)
    else none
  | .keycapJoined => none
  | .oddRegionsJoined single =>
    if isRegion c then some (-1, .evenRegionsJoined)
    else if c.toNat = 0x200D && !single then some (0, .joined) else none
  | .evenRegionsJoined =>
    if isRegion c then some (3, .oddRegionsJoined false)
    else if c.toNat = 0x200D then some (0, .joined) else none
  | .tagLettersJoined n => tagStep? n false c
  | .tagDigitsJoined n => tagStep? n true c
  | .alef =>
    if isLam c then some (0, .plain)
    else if Table.zeroWidth.holds c && !Table.joinBreaking.holds c then some (0, .alef)
    else none
  | .lamed joiner => if joiner && c.toNat = 0x5D0 then some (0, .plain) else none
  | .ya joiner => if joiner && c.toNat = 0x1A17 then some (0, .vowelYa) else none
  | .vowelYa => if c.toNat = 0x1A15 then some (0, .plain) else none
  | .tifinagh joiner =>
    if c.toNat = 0x2D7F then some (1, .tifinaghJoiner)
    else if joiner && isTifinagh c then some (0, .plain) else none
  | .tifinaghJoiner => if isTifinagh c then some (-1, .plain) else none
  | .lisuTone => if between c 0xA4F8 0xA4FB then some (0, .plain) else none
  | .orkhonI joiner => if joiner && c.toNat = 0x10C32 then some (0, .plain) else none
  | .khmerLetter => if c.toNat = 0x17D2 then some (-1, .plain) else none
  | .kiratRaiE =>
    if c.toNat = 0x16D63 then some (0, .plain)
    else if c.toNat = 0x16D67 then some (0, .kiratRaiAi)
    else if c.toNat = 0x16D68 then some (1, .kiratRaiE)
    else if c.toNat = 0x16D69 then some (0, .plain)
    else none
  | .kiratRaiAi => if c.toNat = 0x16D63 then some (0, .plain) else none

/-! ## Variation selectors -/

/-- A variation selector before what stands to the right, if it is one that can change a character.
Shapes that cannot reach over it are of no more use. -/
def selector? (c : Char) (right : Right) : Option Right :=
  let kept := if right.shape.isLetters then right else Shape.plain.alone
  if c.toNat = 0xFE0F then
    some { if right.shape.takesEmoji then right else kept with emoji := true }
  else if c.toNat = 0xFE01 then some { kept with wideQuote := true }
  else if c.toNat = 0xFE0E then some { kept with narrow := true }
  else none

/-- What is to the right of a character that selector 16 does not turn into an emoji. -/
def Right.withoutEmoji (r : Right) : Right :=
  if r.emoji && !r.shape.isLetters then Shape.plain.alone else { r with emoji := false }

/-- The columns of a character that selector 15 or selector 2 changes. -/
def changed? (c : Char) (right : Right) : Option Int :=
  if right.narrow && Table.textBase.holds c then some 1
  else if right.wideQuote && isWideningQuote c then some 2
  else none

/-! ## Texts -/

/-- The columns that a character beyond ASCII adds to a shape on its right. -/
def shapeStep (c : Char) (s : Shape) : Int × Right :=
  if s.joinsOver && isJoinable c then
    (0, if c.toNat = 0x200D then s.withJoiner.alone else s.alone)
  else match sequence? c s with
    | some (n, s) => (n, s.alone)
    | none => (columns c, (shapeOf c).alone)

/-- The columns that a character adds to what is on its right, where it is no emoji by selection.
Selectors that do not change it are of no more use. -/
def plainStep (c : Char) (right : Right) : Int × Right :=
  if c.toNat ≤ 0xA0 then
    if c = '\n' then (1, Shape.lineFeed.alone)
    else if c = '\r' && right.shape = .lineFeed then (0, Shape.plain.alone)
    else (1, Shape.plain.alone)
  else match selector? c right, changed? c right with
    | some right, _ => (0, right)
    | none, some n => (n, Shape.plain.alone)
    | none, none => shapeStep c right.shape

/-- The columns that a character adds, and what it is for the character on its left. -/
def step (c : Char) (right : Right) : Int × Right :=
  if right.emoji && Table.variationBase.holds c then
    (if right.shape.takesEmoji then 0 else 2, Shape.emoji.alone)
  else plainStep c right.withoutEmoji

/-- The columns of a text, and what its start is for a character on its left. -/
def measure (s : List Char) : Int × Right :=
  s.foldr (fun c r => let t := step c r.2; (t.1 + r.1, t.2)) (0, Shape.plain.alone)

end Width

/-- The columns that a text takes. -/
def width (s : List Char) : Nat := (Width.measure s).1.toNat

end LocalizedStrings.Text
