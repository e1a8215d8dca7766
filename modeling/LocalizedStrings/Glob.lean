/-!
# Globs

A glob is a pattern for whole texts. `?` stands for any one character and `*` for any text, slashes
included. `**` must make up a whole component of the pattern and takes in a slash after it; what
follows may start where it stands, after any later slash, or at the very end of the text.
`[abc]` and `[!abc]` stand for one character inside or outside a set, which may hold ranges as in
`[a-z]`, is never empty and may start with `]`.

* `Glob.parse`: a glob from its text, or the first thing wrong with it.
* `Glob.isGlob`: whether a text is meant as a glob, by holding `*` or `?`.
* `Glob.covers`: whether a glob stands for a whole text, by following the places of the text that
  the glob's tokens can reach.
-/

namespace LocalizedStrings

/-! ## Errors -/

/-- What is wrong with a glob. -/
inductive Glob.Fault where
  /-- Three stars or more in a row. -/
  | stars
  /-- Two stars that are not a whole component. -/
  | component
  /-- A set that does not end. -/
  | range
  deriving DecidableEq, Repr

/-- What is wrong with a glob, and where: a number of characters from its start. -/
structure Glob.Error where
  place : Nat
  fault : Glob.Fault
  deriving DecidableEq, Repr

/-- The text for a fault. -/
def Glob.Fault.message : Glob.Fault → String
  | stars => "wildcards are either regular \x60*\x60 or recursive \x60**\x60"
  | component => "recursive wildcards must form a single path component"
  | range => "invalid range pattern"

/-- The text for an error. -/
def Glob.Error.message (e : Glob.Error) : String :=
  "Pattern syntax error near position " ++ toString e.place ++ ": " ++ e.fault.message

namespace Glob

/-! ## Tokens -/

/-- A range of characters, both ends included. -/
structure Range where
  first : Char
  last : Char
  deriving DecidableEq, Repr

/-- A part of a glob. -/
inductive Token where
  /-- This character. -/
  | char (c : Char)
  /-- Any one character. -/
  | anyChar
  /-- One character inside the ranges. -/
  | inside (ranges : List Range)
  /-- One character outside the ranges. -/
  | outside (ranges : List Range)
  /-- Any text. -/
  | anyText
  /-- Any text that ends in a slash, the empty text, or all that is left. -/
  | anyPath
  deriving DecidableEq, Repr

/-- The text is meant as a glob. -/
def isGlob (text : String) : Bool := text.toList.any fun c => c == '*' || c == '?'

/-- The ranges that the text between the brackets of a set stands for. -/
def rangesOf : List Char → List Range
  | a :: '-' :: b :: s => ⟨a, b⟩ :: rangesOf s
  | a :: s => ⟨a, a⟩ :: rangesOf s
  | [] => []

/-- The text up to the next `]`, of which the first character may be one itself, and the text after
it. -/
def set? : List Char → Option (List Char × List Char)
  | [] => none
  | c :: s => match s.takeWhile (· != ']'), s.dropWhile (· != ']') with
    | text, _ :: rest => some (c :: text, rest)
    | _, [] => none

/-- The tokens, given last one first, extended by `**`. Next to another one it adds nothing, unless
these two would be the first tokens. -/
def pushAnyPath (tokens : List Token) : List Token :=
  match tokens with
  | .anyPath :: _ :: _ => tokens
  | _ => .anyPath :: tokens

/-- What is read of the text `s` at once: the tokens with one more, and the text after it. -/
abbrev Step (s : List Char) : Type :=
  Except Error { p : List Token × List Char // p.2.length < s.length }

theorem length_set? {s text rest : List Char} (h : set? s = some (text, rest)) :
    rest.length < s.length := by
  cases s with
  | nil => simp [set?] at h
  | cons c s =>
    simp only [set?] at h
    split at h
    · next t q r hd =>
      cases h
      have := (List.dropWhile_sublist (p := (· != ']')) (l := s)).length_le
      rw [hd] at this
      simp only [List.length_cons] at this ⊢
      omega
    · cases h

/-- Reads a run of stars at place `i`, of which the text `s` starts with the first. -/
def stars (before : Option Char) (i : Nat) (tokens : List Token) (c : Char) (s : List Char) :
    Step (c :: s) :=
  let run := s.takeWhile (· == '*')
  let rest := s.dropWhile (· == '*')
  have h : rest.length ≤ s.length := (List.dropWhile_sublist _).length_le
  match run.length with
  | 0 => .ok ⟨(.anyText :: tokens, rest), Nat.lt_succ_of_le h⟩
  | 1 =>
    if before = none ∨ before = some '/' then
      match hr : rest with
      | [] => .ok ⟨(pushAnyPath tokens, []), Nat.succ_pos _⟩
      | '/' :: rest => .ok ⟨(pushAnyPath tokens, rest), by
          simp only [List.length_cons] at h ⊢; omega⟩
      | _ => .error ⟨i + 2, .component⟩
    else .error ⟨i - 1, .component⟩
  | _ => .error ⟨i + 2, .stars⟩

/-- Reads a set at place `i`, after its bracket. -/
def bracket (i : Nat) (tokens : List Token) (c : Char) (s : List Char) : Step (c :: s) :=
  match s with
  | '!' :: s => match h : set? s with
    | some (text, rest) => .ok ⟨(.outside (rangesOf text) :: tokens, rest), by
        have := length_set? h; simp only [List.length_cons]; omega⟩
    | none => .error ⟨i, .range⟩
  | s => match h : set? s with
    | some (text, rest) => .ok ⟨(.inside (rangesOf text) :: tokens, rest), by
        have := length_set? h; simp only [List.length_cons]; omega⟩
    | none => .error ⟨i, .range⟩

/-- Reads the tokens of `s`, which starts at place `i` of the glob, after the character `before`.
The tokens before it are given last one first. -/
def parseFrom (before : Option Char) (i : Nat) (tokens : List Token) (s : List Char) :
    Except Error (List Token) :=
  match s with
  | [] => .ok tokens.reverse
  | '?' :: s => parseFrom (some '?') (i + 1) (.anyChar :: tokens) s
  | '*' :: s => match stars before i tokens '*' s with
    | .error e => .error e
    | .ok ⟨(tokens, rest), _⟩ =>
      let n := s.length + 1 - rest.length
      parseFrom (('*' :: s)[n - 1]?) (i + n) tokens rest
  | '[' :: s => match bracket i tokens '[' s with
    | .error e => .error e
    | .ok ⟨(tokens, rest), _⟩ => parseFrom (some ']') (i + (s.length + 1 - rest.length)) tokens rest
  | c :: s => parseFrom (some c) (i + 1) (.char c :: tokens) s
termination_by s.length
decreasing_by
  all_goals simp_all only [List.length_cons]
  all_goals omega

end Glob

/-- A glob, as its tokens. -/
structure Glob where
  tokens : List Glob.Token

namespace Glob

/-- The glob that a text stands for. -/
def parse (text : String) : Except Error Glob := (parseFrom none 0 [] text.toList).map Glob.mk

/-- What is wrong with a text that is meant as a glob. -/
def fault? (text : String) : Option Error :=
  if isGlob text then
    match parse text with
    | .ok _ => none
    | .error e => some e
  else none

/-! ## Matching

A text of `n` characters has `n + 1` places, one before each character and one at its end. A list of
`n + 1` truth values says which of them are reached. -/

/-- Some range holds the character. -/
def inRanges (ranges : List Range) (c : Char) : Bool :=
  ranges.any fun r => r.first ≤ c && c ≤ r.last

/-- The token stands for the one character `c`. -/
def Token.covers : Token → Char → Bool
  | char d, c => c = d
  | anyChar, _ => true
  | inside ranges, c => inRanges ranges c
  | outside ranges, c => !inRanges ranges c
  | anyText, _ => false
  | anyPath, _ => false

/-- The places one character after those reached, if `token` stands for this character. Whether the
first place is one of them is `here`. -/
def oneChar (token : Token) : Bool → List Char → List Bool → List Bool
  | here, c :: s, b :: reached => here :: oneChar token (b && token.covers c) s reached
  | here, _, _ => [here]

/-- Each place from the first one reached on; `seen` tells whether one was reached before. -/
def onwards : Bool → List Bool → List Bool
  | _, [] => []
  | seen, b :: reached => (seen || b) :: onwards (seen || b) reached

/-- The places reached, those after a slash from the first one reached on, and then the end. -/
def onwardsAfterSlash : Bool → Option Char → List Char → List Bool → List Bool
  | seen, before, c :: s, b :: reached =>
    (b || (seen && before = some '/')) :: onwardsAfterSlash (seen || b) (some c) s reached
  | seen, _, [], b :: _ => [seen || b]
  | _, _, _, [] => []

/-- The places of the text that a token leads to. -/
def advance (s : List Char) (reached : List Bool) : Token → List Bool
  | .anyText => onwards false reached
  | .anyPath => onwardsAfterSlash false none s reached
  | token => oneChar token false s reached

/-- The glob stands for the whole text. -/
def covers (g : Glob) (text : String) : Bool :=
  let s := text.toList
  (g.tokens.foldl (advance s) (true :: s.map fun _ => false)).getLastD false

end Glob

end LocalizedStrings
