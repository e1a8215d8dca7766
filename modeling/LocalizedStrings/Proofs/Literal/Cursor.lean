import LocalizedStrings.Proofs.Literal.Phases

/-!
# The cursor of a line

The literals of a line can be found with a cursor, the number of bytes of the line that are done. A
search from the cursor on gives the byte where a construct starts and the one where it ends, and the
text of a literal is what the line holds between its quotes. A line may be cut between two
characters only, and the cursor has to move on. Both are so in each turn of the loop, since each
construct is a run of whole characters and not empty.

* `Text.IsPlace`, `Text.slice?`: where a text may be cut, and what is cut out.
* `Literal.turn`: what a turn of the loop does with the cursor, which may be a failure.
* **`Literal.isSafe_turn`**: a turn with the cursor at a place does not fail and moves on.
* `Literal.Loops`: the turns up to the end of the loop.
* `Literal.Loops.of_moves`: the induction over these turns.
* **`Literal.exists_loops`**: the loop ends, and it takes the texts that are reported.
* **`Literal.ofLine_eq_loop`**: the loop from the beginning of a line.
-/

namespace LocalizedStrings

/-! ## Bytes of a text -/

namespace Text

theorem utf8ByteSize_ofList (s : List Char) : (String.ofList s).utf8ByteSize = byteSize s := by
  induction s with
  | nil => rfl
  | cons c s ih =>
    have hsplit : String.ofList (c :: s) = String.singleton c ++ String.ofList s := by
      rw [String.singleton_eq_ofList, ← String.ofList_append]
      rfl
    rw [hsplit, String.utf8ByteSize_append, String.utf8ByteSize_singleton, ih, byteSize_cons]

/-- The byte stands between two characters of the text, or at an end of it. -/
def IsPlace (s : String) (i : Nat) : Prop := i ≤ s.utf8ByteSize ∧ (⟨i⟩ : String.Pos.Raw).IsValid s

theorem isPlace_append (a b : String) : IsPlace (a ++ b) a.utf8ByteSize := by
  have h : (⟨a.utf8ByteSize⟩ : String.Pos.Raw).IsValid (a ++ b) :=
    String.Pos.Raw.isValid_iff_exists_append.2 ⟨a, b, rfl, rfl⟩
  exact ⟨h.le_utf8ByteSize, h⟩

theorem exists_append_of_isPlace {s : String} {i : Nat} (h : IsPlace s i) :
    ∃ a b : List Char, s = String.ofList (a ++ b) ∧ i = byteSize a := by
  obtain ⟨a, b, rfl, hi⟩ := String.Pos.Raw.isValid_iff_exists_append.1 h.2
  refine ⟨a.toList, b.toList, ?_, ?_⟩
  · rw [String.ofList_append, String.ofList_toList, String.ofList_toList]
  · rw [← utf8ByteSize_ofList, String.ofList_toList]
    exact congrArg String.Pos.Raw.byteIdx hi

/-- The text from byte `i` up to byte `j`, if these are places of the text and in this order. -/
def slice? (s : String) (i j : Nat) : Option String :=
  if h : (⟨i⟩ : String.Pos.Raw).IsValid s ∧ (⟨j⟩ : String.Pos.Raw).IsValid s ∧ i ≤ j then
    some (s.extract (s.pos ⟨i⟩ h.1) (s.pos ⟨j⟩ h.2.1))
  else none

theorem slice?_append (a t b : String) :
    slice? (a ++ t ++ b) a.utf8ByteSize (a.utf8ByteSize + t.utf8ByteSize) = some t := by
  have hi : IsPlace (a ++ t ++ b) a.utf8ByteSize :=
    String.append_assoc ▸ isPlace_append a (t ++ b)
  have hj : IsPlace (a ++ t ++ b) (a.utf8ByteSize + t.utf8ByteSize) :=
    String.utf8ByteSize_append ▸ isPlace_append (a ++ t) b
  have hbytes : (a.toByteArray ++ (t.toByteArray ++ b.toByteArray)).extract
      (a.toByteArray.size + 0) (a.toByteArray.size + t.toByteArray.size) = t.toByteArray := by
    rw [ByteArray.extract_append_size_add, ByteArray.extract_append_eq_left rfl]
  rw [slice?, dif_pos ⟨hi.2, hj.2, Nat.le_add_right _ _⟩, Option.some_inj, ← String.toByteArray_inj,
    String.toByteArray_extract, String.offset_pos, String.offset_pos, String.append_assoc,
    String.toByteArray_append, String.toByteArray_append]
  simpa using hbytes

/-! The same for texts that are given by their characters. -/

theorem isPlace_of_prefix {a s : List Char} (h : a <+: s) :
    IsPlace (String.ofList s) (byteSize a) := by
  obtain ⟨b, rfl⟩ := h
  rw [String.ofList_append, ← utf8ByteSize_ofList]
  exact isPlace_append _ _

theorem slice?_ofList (a t b : List Char) :
    slice? (String.ofList (a ++ t ++ b)) (byteSize a) (byteSize a + byteSize t) =
      some (String.ofList t) := by
  rw [String.ofList_append, String.ofList_append, ← utf8ByteSize_ofList, ← utf8ByteSize_ofList]
  exact slice?_append _ _ _

end Text

namespace Literal

open Text

/-! ## One turn -/

/-- What a turn of the loop does. -/
inductive Turn where
  /-- It fails, since the line is to be cut inside of a character or outside of the line. -/
  | failure
  /-- It ends the loop. -/
  | done
  /-- It skips what ends at byte `stop`, and moves the cursor there. -/
  | skip (stop : Nat)
  /-- It takes the text in the quotes from byte `start` up to byte `stop`, and moves the cursor to
  the end of these. -/
  | take (start stop : Nat) (text : String)
  deriving DecidableEq, Repr

/-- The turn with the cursor at byte `pos`. -/
def turn (line : String) (pos : Nat) : Turn :=
  match slice? line pos line.utf8ByteSize with
  | none => .failure
  | some rest => match skip? rest.toList, Source.quoted.find? rest.toList with
    | some r, _ => .skip (line.utf8ByteSize - byteSize r)
    | none, none => .done
    | none, some f =>
      let start := pos + byteSize f.skipped
      let stop := line.utf8ByteSize - byteSize f.rest
      match slice? line (start + 1) (stop - 1) with
      | none => .failure
      | some text => .take start stop text

/-- The turn does not fail, and moves the cursor on to a place of the line. What it takes is the
slice between its quotes, which is not empty and holds no quote. -/
def Turn.IsSafe (line : String) (pos : Nat) : Turn → Prop
  | failure => False
  | done => True
  | skip stop => pos < stop ∧ IsPlace line stop
  | take start stop text => pos ≤ start ∧ start + 1 < stop - 1 ∧ IsPlace line (start + 1) ∧
      IsPlace line (stop - 1) ∧ IsPlace line stop ∧
      slice? line (start + 1) (stop - 1) = some text ∧ text ≠ "" ∧ '"' ∉ text.toList

/-! What the turn does, by the characters that stand before the cursor and those after it. -/

theorem skip?_suffix {s r : List Char} (h : skip? s = some r) : r <:+ s := by
  simp only [skip?, Option.or_eq_some_iff, Option.map_eq_some_iff, Option.map_eq_none_iff] at h
  rcases h with ⟨f, hf, rfl⟩ | ⟨-, ⟨f, hf, rfl⟩ | ⟨-, f, hf, rfl⟩⟩
  · exact Source.call.rest_suffix hf
  · exact Source.printing.rest_suffix hf
  · exact Source.lineComment.rest_suffix hf

theorem quoted_split {s : List Char} {f : Found (List Char)} (h : Source.quoted.find? s = some f) :
    f.value ≠ [] ∧ '"' ∉ f.value ∧ s = f.skipped ++ (['"'] ++ f.value ++ ['"'] ++ f.rest) := by
  obtain ⟨u, -, hs, hm⟩ := Source.quoted.find?_split h
  obtain ⟨hne, hquote, hu⟩ := Source.quoted?_eq_some hm
  refine ⟨hne, hquote, ?_⟩
  rw [hs, List.append_assoc, hu]

variable {a s : List Char}

/-- The line, cut at the quotes of a text. -/
theorem append_eq_of_quoted {f : Found (List Char)} (h : Source.quoted.find? s = some f) :
    a ++ s = a ++ f.skipped ++ ['"'] ++ f.value ++ ['"'] ++ f.rest := by
  obtain ⟨-, -, hs⟩ := quoted_split h
  rw [hs]
  simp only [List.append_assoc]

theorem slice?_rest : slice? (String.ofList (a ++ s)) (byteSize a) (byteSize (a ++ s)) =
    some (String.ofList s) := by
  have h := slice?_ofList a s []
  rwa [List.append_nil, ← byteSize_append] at h

theorem turn_of_skip? {u r : List Char} (h : skip? (u ++ r) = some r) :
    turn (String.ofList (a ++ (u ++ r))) (byteSize a) = .skip (byteSize (a ++ u)) := by
  have hstop : byteSize (a ++ (u ++ r)) - byteSize r = byteSize (a ++ u) := by
    simp only [byteSize_append]
    omega
  simp only [turn, utf8ByteSize_ofList, slice?_rest, String.toList_ofList, h, hstop]

theorem turn_of_find?_none (h : skip? s = none) (hq : Source.quoted.find? s = none) :
    turn (String.ofList (a ++ s)) (byteSize a) = .done := by
  simp only [turn, utf8ByteSize_ofList, slice?_rest, String.toList_ofList, h, hq]

theorem byteSize_quote (t : List Char) : byteSize (t ++ ['"']) = byteSize t + 1 :=
  byteSize_append t ['"']

/-- A quoted text is what stands between its two quotes, of one byte each. -/
theorem slice?_quoted {f : Found (List Char)} (h : Source.quoted.find? s = some f) :
    slice? (String.ofList (a ++ s)) (byteSize (a ++ f.skipped) + 1)
      (byteSize (a ++ f.skipped ++ ['"'] ++ f.value ++ ['"']) - 1) =
        some (String.ofList f.value) := by
  rw [append_eq_of_quoted h, byteSize_quote (_ ++ f.value), Nat.add_sub_cancel,
    byteSize_append _ f.value, ← byteSize_quote, List.append_assoc _ ['"'] f.rest]
  exact slice?_ofList _ _ _

theorem turn_of_find?_some {f : Found (List Char)} (h : skip? s = none)
    (hq : Source.quoted.find? s = some f) : turn (String.ofList (a ++ s)) (byteSize a) =
      .take (byteSize (a ++ f.skipped))
        (byteSize (a ++ f.skipped ++ ['"'] ++ f.value ++ ['"'])) (String.ofList f.value) := by
  have hstop : byteSize (a ++ s) - byteSize f.rest =
      byteSize (a ++ f.skipped ++ ['"'] ++ f.value ++ ['"']) := by
    rw [append_eq_of_quoted hq, byteSize_append _ f.rest, Nat.add_sub_cancel]
  have htext := slice?_quoted (a := a) hq
  rw [byteSize_append] at htext ⊢
  simp only [turn, utf8ByteSize_ofList, slice?_rest, String.toList_ofList, h, hq, hstop, htext]

theorem byteSize_pos (h : s ≠ []) : 0 < byteSize s := by
  cases s with
  | nil => exact absurd rfl h
  | cons c s => exact Nat.lt_of_lt_of_le c.utf8Size_pos (Nat.le_add_right _ _)

theorem isSafe_skip {u r : List Char} (h : skip? (u ++ r) = some r) :
    (Turn.skip (byteSize (a ++ u))).IsSafe (String.ofList (a ++ (u ++ r))) (byteSize a) := by
  have hu : 0 < byteSize u := by
    refine byteSize_pos ?_
    rintro rfl
    exact absurd (length_lt_of_skip? h) (Nat.lt_irrefl _)
  refine ⟨?_, isPlace_of_prefix ⟨r, List.append_assoc a u r⟩⟩
  rw [byteSize_append]
  exact Nat.lt_add_of_pos_right hu

theorem isSafe_take {f : Found (List Char)} (h : Source.quoted.find? s = some f) :
    (Turn.take (byteSize (a ++ f.skipped))
      (byteSize (a ++ f.skipped ++ ['"'] ++ f.value ++ ['"'])) (String.ofList f.value)).IsSafe
        (String.ofList (a ++ s)) (byteSize a) := by
  obtain ⟨hne, hquote, -⟩ := quoted_split h
  have hstart : byteSize (a ++ f.skipped) + 1 = byteSize (a ++ f.skipped ++ ['"']) :=
    (byteSize_quote _).symm
  have hstop : byteSize (a ++ f.skipped ++ ['"'] ++ f.value ++ ['"']) - 1 =
      byteSize (a ++ f.skipped ++ ['"'] ++ f.value) := by
    rw [byteSize_quote, Nat.add_sub_cancel]
  have htext := slice?_quoted (a := a) h
  -- The three places are the ends of parts of the line, each of which begins with the one before.
  have hend : a ++ f.skipped ++ ['"'] ++ f.value ++ ['"'] <+: a ++ s :=
    ⟨f.rest, (append_eq_of_quoted h).symm⟩
  have hvalue := (List.prefix_append (a ++ f.skipped ++ ['"'] ++ f.value) ['"']).trans hend
  have hopen := (List.prefix_append (a ++ f.skipped ++ ['"']) f.value).trans hvalue
  rw [hstart, hstop] at htext
  rw [Turn.IsSafe, hstart, hstop, String.toList_ofList]
  refine ⟨?_, ?_, isPlace_of_prefix hopen, isPlace_of_prefix hvalue, isPlace_of_prefix hend,
    htext, ?_, hquote⟩
  · rw [byteSize_append]
    exact Nat.le_add_right _ _
  · rw [byteSize_append _ f.value]
    exact Nat.lt_add_of_pos_right (byteSize_pos hne)
  · exact fun he => hne (String.ofList_eq_empty_iff.1 he)

/-- **A turn with the cursor at a place of the line is safe.** -/
theorem isSafe_turn {line : String} {pos : Nat} (h : IsPlace line pos) :
    (turn line pos).IsSafe line pos := by
  obtain ⟨a, s, rfl, rfl⟩ := exists_append_of_isPlace h
  cases hskip : skip? s with
  | some r =>
    obtain ⟨u, rfl⟩ := skip?_suffix hskip
    rw [turn_of_skip? hskip]
    exact isSafe_skip hskip
  | none =>
    cases hf : Source.quoted.find? s with
    | none =>
      rw [turn_of_find?_none hskip hf]
      trivial
    | some f =>
      rw [turn_of_find?_some hskip hf]
      exact isSafe_take hf

/-! ## All turns -/

/-- The loop, from the cursor at a byte on, ends without a failure. The cursor is at each of the
given bytes in turn, and the given texts are taken. -/
inductive Loops (line : String) : Nat → List Nat → List String → Prop
  | done {pos : Nat} (h : turn line pos = .done) : Loops line pos [pos] []
  | skip {pos stop : Nat} {cursors : List Nat} {texts : List String}
      (h : turn line pos = .skip stop) (rest : Loops line stop cursors texts) :
      Loops line pos (pos :: cursors) texts
  | take {pos start stop : Nat} {text : String} {cursors : List Nat} {texts : List String}
      (h : turn line pos = .take start stop text) (rest : Loops line stop cursors texts) :
      Loops line pos (pos :: cursors) (text :: texts)

namespace Loops

variable {line : String} {pos : Nat} {cursors : List Nat} {texts : List String}

/-- **What holds of the cursors of a loop.** It is shown for the end of the loop, and for a cursor
that is moved on to a place of the line. -/
theorem of_moves {P : Nat → List Nat → Prop} (done : ∀ pos, IsPlace line pos → P pos [pos])
    (move : ∀ pos stop cursors, IsPlace line pos → pos < stop → IsPlace line stop →
      P stop cursors → P pos (pos :: cursors))
    (h : Loops line pos cursors texts) (hp : IsPlace line pos) : P pos cursors := by
  induction h with
  | done _ => exact done _ hp
  | skip hturn _ ih =>
    have hsafe := isSafe_turn hp
    rw [hturn] at hsafe
    obtain ⟨hlt, hstop⟩ := hsafe
    exact move _ _ _ hp hlt hstop (ih hstop)
  | take hturn _ ih =>
    have hsafe := isSafe_turn hp
    rw [hturn] at hsafe
    obtain ⟨hle, hlt, -, -, hstop, -⟩ := hsafe
    exact move _ _ _ hp (by omega) hstop (ih hstop)

theorem isPlace (h : Loops line pos cursors texts) (hp : IsPlace line pos) :
    ∀ c ∈ cursors, IsPlace line c := by
  refine of_moves (P := fun _ cursors => ∀ c ∈ cursors, IsPlace line c) ?_ ?_ h hp
  · intro pos hp
    exact List.forall_mem_singleton.2 hp
  · intro pos stop cursors hp _ _ ih
    exact List.forall_mem_cons.2 ⟨hp, ih⟩

/-- The cursor moves strictly forward. -/
theorem pairwise (h : Loops line pos cursors texts) (hp : IsPlace line pos) :
    (∀ c ∈ cursors, pos ≤ c) ∧ cursors.Pairwise (· < ·) := by
  refine of_moves (P := fun pos cursors => (∀ c ∈ cursors, pos ≤ c) ∧ cursors.Pairwise (· < ·))
    ?_ ?_ h hp
  · intro pos _
    exact ⟨List.forall_mem_singleton.2 pos.le_refl, List.pairwise_singleton _ _⟩
  · rintro pos stop cursors - hlt - ⟨hge, hpair⟩
    have hall : ∀ c ∈ cursors, pos < c := fun c hc => hlt.trans_le (hge c hc)
    exact ⟨List.forall_mem_cons.2 ⟨pos.le_refl, fun c hc => (hall c hc).le⟩,
      List.pairwise_cons.2 ⟨hall, hpair⟩⟩

/-- The loop takes at most one turn for each byte that is left, and the last one. -/
theorem length_le (h : Loops line pos cursors texts) (hp : IsPlace line pos) :
    pos + cursors.length ≤ line.utf8ByteSize + 1 := by
  refine of_moves (P := fun pos cursors => pos + cursors.length ≤ line.utf8ByteSize + 1) ?_ ?_ h hp
  · intro pos hp
    exact Nat.succ_le_succ hp.1
  · intro pos stop cursors _ hlt _ ih
    rw [List.length_cons]
    omega

theorem unique {cursors' : List Nat} {texts' : List String} (h : Loops line pos cursors texts)
    (h' : Loops line pos cursors' texts') : cursors' = cursors ∧ texts' = texts := by
  induction h generalizing cursors' texts' with
  | done hturn =>
    cases h' with
    | done _ => exact ⟨rfl, rfl⟩
    | skip hturn' _ => cases hturn.symm.trans hturn'
    | take hturn' _ => cases hturn.symm.trans hturn'
  | skip hturn _ ih =>
    cases h' with
    | done hturn' => cases hturn.symm.trans hturn'
    | skip hturn' rest' =>
      cases hturn.symm.trans hturn'
      obtain ⟨rfl, rfl⟩ := ih rest'
      exact ⟨rfl, rfl⟩
    | take hturn' _ => cases hturn.symm.trans hturn'
  | take hturn _ ih =>
    cases h' with
    | done hturn' => cases hturn.symm.trans hturn'
    | skip hturn' _ => cases hturn.symm.trans hturn'
    | take hturn' rest' =>
      cases hturn.symm.trans hturn'
      obtain ⟨rfl, rfl⟩ := ih rest'
      exact ⟨rfl, rfl⟩

end Loops

/-- **The loop ends.** Of the texts that it takes, those with a character outside ASCII are the ones
that are reported for the rest of the line. -/
theorem exists_loops (a s : List Char) : ∃ cursors texts,
    Loops (String.ofList (a ++ s)) (byteSize a) cursors texts ∧
      texts.filter (fun t => isMultibyte t.toList) = (textsOf s).map String.ofList := by
  induction hn : s.length using Nat.strong_induction_on generalizing a s with
  | _ n ih =>
    subst hn
    cases hskip : skip? s with
    | some r =>
      obtain ⟨u, rfl⟩ := skip?_suffix hskip
      obtain ⟨cursors, texts, hloops, htexts⟩ := ih _ (length_lt_of_skip? hskip) (a ++ u) r rfl
      rw [List.append_assoc] at hloops
      refine ⟨_, texts, .skip (turn_of_skip? hskip) hloops, ?_⟩
      rw [htexts, textsOf_of_skip? hskip]
    | none =>
      cases hf : Source.quoted.find? s with
      | none =>
        refine ⟨_, [], .done (turn_of_find?_none hskip hf), ?_⟩
        rw [textsOf_of_find?_none hskip hf]
        rfl
      | some f =>
        obtain ⟨cursors, texts, hloops, htexts⟩ := ih _ (Source.quoted.length_rest_lt hf)
          (a ++ f.skipped ++ ['"'] ++ f.value ++ ['"']) f.rest rfl
        rw [← append_eq_of_quoted hf] at hloops
        refine ⟨_, _, .take (turn_of_find?_some hskip hf) hloops, ?_⟩
        rw [textsOf_of_find?_some hskip hf, List.filter_cons, String.toList_ofList, htexts]
        split <;> rfl

/-- **The literals of a line by the loop.** The loop from the beginning of a line ends, in one way
only and without a failure. Its cursor moves strictly forward over places of the line, so that there
is at most one turn for each byte and the last one, and each turn is safe. The literals are the
texts it takes that have a character outside ASCII. -/
theorem ofLine_eq_loop (file line : String) (n : Nat) :
    ∃ cursors texts, Loops line 0 cursors texts ∧
      (∀ cursors' texts', Loops line 0 cursors' texts' → cursors' = cursors ∧ texts' = texts) ∧
      cursors.Pairwise (· < ·) ∧
      (∀ pos ∈ cursors, IsPlace line pos ∧ (turn line pos).IsSafe line pos) ∧
      cursors.length ≤ line.utf8ByteSize + 1 ∧
      ofLine file line.toList n =
        (texts.filter fun t => isMultibyte t.toList).map fun t => ⟨t, file, n⟩ := by
  obtain ⟨cursors, texts, hloops, htexts⟩ := exists_loops [] line.toList
  have hline : String.ofList ([] ++ line.toList) = line := by
    rw [List.nil_append, String.ofList_toList]
  rw [hline, byteSize_nil] at hloops
  have hstart : IsPlace line 0 := by
    have h := isPlace_of_prefix (List.nil_prefix (l := line.toList))
    rwa [String.ofList_toList, byteSize_nil] at h
  refine ⟨cursors, texts, hloops, fun _ _ => hloops.unique, (hloops.pairwise hstart).2, ?_, ?_, ?_⟩
  · intro pos hpos
    have hplace := hloops.isPlace hstart pos hpos
    exact ⟨hplace, isSafe_turn hplace⟩
  · have hlen := hloops.length_le hstart
    rwa [Nat.zero_add] at hlen
  · rw [htexts, ofLine, List.map_map]
    rfl

end Literal

end LocalizedStrings
