import LocalizedStrings.Proofs.Json.Reading

/-!
# Passing over values

A value that nobody asked for is passed over whatever it is, with all the values inside it.

* `run_skipNumber`: a number, after its first character.
* `run_skipFrom`, `run_skipRest`: one step, with the open arrays and objects on a stack.
* `Skips`: a value is over, and what is left are the open arrays and objects around it.
* `skips_array`, `skips_object`: arrays and objects, if the values inside them are passed over.
* **`IsValue.skips`**: all values, by induction on the values inside them.
* **`reads_skipValue`**: each value is passed over.
-/

namespace LocalizedStrings.Json

open Reader

/-! ## Numbers -/

theorem run_oneOf?_of_mem {cs : List Char} {c : Char} (h : c ∈ cs) (r : List Char) :
    (oneOf? cs).run (c :: r) = .ok (some c, r) := by
  have hpeek : peek?.run (c :: r) = .ok (some c, c :: r) := rfl
  unfold oneOf?
  simp [run_bind_of_ok hpeek, h]

theorem run_oneOf?_of_notMem {cs r : List Char} (h : ∀ c ∈ r.head?, c ∉ cs) :
    (oneOf? cs).run r = .ok (none, r) := by
  have hpeek : peek?.run r = .ok (r.head?, r) := rfl
  unfold oneOf?
  rw [run_bind_of_ok hpeek]
  cases hr : r.head? with
  | none => rfl
  | some c => simp [h c hr]

/-- No digit comes next. -/
def NoDigit (r : List Char) : Prop := ∀ c ∈ r.head?, c.isDigit = false

theorem run_digits {ds r : List Char} (h : ∀ d ∈ ds, d.isDigit = true) (hr : NoDigit r) :
    digits.run (ds ++ r) = .ok (ds, r) := by
  have htake : r.takeWhile Char.isDigit = [] := by
    cases r with
    | nil => rfl
    | cons c r => exact List.takeWhile_cons_of_neg (by simp [hr c rfl])
  have hdrop : r.dropWhile Char.isDigit = r := by
    cases r with
    | nil => rfl
    | cons c r => exact List.dropWhile_cons_of_neg (by simp [hr c rfl])
  change Except.ok ((ds ++ r).takeWhile Char.isDigit, (ds ++ r).dropWhile Char.isDigit) = _
  rw [List.takeWhile_append_of_pos h, List.dropWhile_append_of_pos h, htake, hdrop,
    List.append_nil]

theorem run_digits1 {ds r : List Char} (h : IsDigits ds) (hr : NoDigit r) (short : Error) :
    (digits1 short).run (ds ++ r) = .ok (ds, r) := by
  have hne : ds.isEmpty = false := by simpa using h.1
  unfold digits1
  rw [run_bind_of_ok (run_digits h.2 hr), hne]
  rfl

theorem run_wholeFrom {d : Char} {ds r : List Char} (h : IsWhole (d :: ds)) (hr : NoDigit r) :
    (wholeFrom d).run (ds ++ r) = .ok (d :: ds, r) := by
  have hzero : (decide (d = '0') && !ds.isEmpty) = false := by
    by_cases hd : d = '0'
    · have := h.2 (by simp [hd])
      simp_all
    · simp [hd]
  unfold wholeFrom
  rw [run_bind_of_ok (run_digits (fun x hx => h.1.2 x (by simp [hx])) hr), hzero]
  rfl

theorem run_fraction? {u r : List Char} (h : IsFraction u) (hr : NoDigit r)
    (hpoint : ∀ c ∈ r.head?, c ≠ '.') (short : Error) :
    ∃ x, (fraction? short).run (u ++ r) = .ok (x, r) := by
  unfold fraction?
  obtain rfl | ⟨ds, hds, rfl⟩ := h
  · refine ⟨none, ?_⟩
    rw [List.nil_append, run_bind_of_ok (run_oneOf?_of_notMem (by simpa using hpoint))]
    rfl
  · refine ⟨some ds, ?_⟩
    rw [List.cons_append, run_bind_of_ok (run_oneOf?_of_mem (by simp) _)]
    dsimp only
    rw [run_bind_of_ok (run_digits1 hds hr short)]
    rfl

theorem run_exponent? {u r : List Char} (h : IsExponent u) (hr : Ends r) (short : Error) :
    ∃ x, (exponent? short).run (u ++ r) = .ok (x, r) := by
  unfold exponent?
  obtain rfl | ⟨e, sign, ds, he, hsign, hds, rfl⟩ := h
  · refine ⟨none, ?_⟩
    rw [List.nil_append, run_bind_of_ok (run_oneOf?_of_notMem fun c hc => by simp [hr c hc])]
    rfl
  · have hsigned : ∃ x, (oneOf? ['+', '-']).run (sign ++ (ds ++ r)) = .ok (x, ds ++ r) := by
      rcases hsign with rfl | rfl | rfl
      · refine ⟨none, run_oneOf?_of_notMem fun c hc => ?_⟩
        have hc : c.isDigit = true := hds.2 c (List.mem_of_mem_head? (by simpa [hds.1] using hc))
        rintro hmem
        simp only [List.mem_cons, List.not_mem_nil, or_false] at hmem
        rcases hmem with rfl | rfl <;> simp at hc
      · exact ⟨_, run_oneOf?_of_mem (by simp) _⟩
      · exact ⟨_, run_oneOf?_of_mem (by simp) _⟩
    obtain ⟨x, hx⟩ := hsigned
    refine ⟨some (x == some '-', ds), ?_⟩
    rw [List.cons_append, List.append_assoc,
      run_bind_of_ok (run_oneOf?_of_mem (by simpa using he) _)]
    dsimp only
    rw [run_bind_of_ok hx, run_bind_of_ok (run_digits1 hds (fun c hc => (hr c hc).1) short)]
    rfl

/-- An exponent ends the digits before it, and the end of a number does. -/
theorem IsExponent.head {u r : List Char} (h : IsExponent u) (hr : Ends r) :
    ∀ c ∈ (u ++ r).head?, c.isDigit = false ∧ c ≠ '.' := by
  obtain rfl | ⟨e, sign, ds, he, -, -, rfl⟩ := h
  · exact fun c hc => ⟨(hr c hc).1, (hr c hc).2.1⟩
  · intro c hc
    obtain rfl : e = c := by simpa using hc
    rcases he with rfl | rfl <;> decide

theorem IsFraction.head {u r : List Char} (h : IsFraction u) (hr : NoDigit r) :
    NoDigit (u ++ r) := by
  obtain rfl | ⟨ds, -, rfl⟩ := h
  · exact hr
  · intro c hc
    obtain rfl : '.' = c := by simpa using hc
    decide

theorem run_wholePart {sign whole : List Char} (hsign : sign = [] ∨ sign = ['-'])
    (h : IsWhole whole) (short : Error) :
    ∃ c v, sign ++ whole = c :: v ∧ (c = '-' || c.isDigit) = true ∧
      ∀ r, NoDigit r → (wholePart short c).run (v ++ r) = .ok (whole, r) := by
  obtain ⟨d, ds, rfl⟩ := List.exists_cons_of_ne_nil h.1.1
  have hd : d.isDigit = true := h.1.2 d (by simp)
  rcases hsign with rfl | rfl
  · have hne : d ≠ '-' := by
      rintro rfl
      simp at hd
    refine ⟨d, ds, rfl, by simp [hd], fun r hr => ?_⟩
    unfold wholePart
    rw [if_neg hne, run_wholeFrom h hr]
  · refine ⟨'-', d :: ds, rfl, rfl, fun r hr => ?_⟩
    unfold wholePart
    rw [if_pos rfl, List.cons_append, run_bind_of_ok (run_next?_cons d _)]
    simp [hd, run_wholeFrom h hr]

/-- A number is passed over after its first character. -/
theorem run_skipNumber {u : List Char} (h : IsNumber u) :
    ∃ c v, u = c :: v ∧ (c = '-' || c.isDigit) = true ∧
      ∀ r, Ends r → (skipNumber c).run (v ++ r) = .ok ((), r) := by
  obtain ⟨sign, whole, fraction, exponent, hsign, hwhole, hfraction, hexponent, rfl⟩ := h
  obtain ⟨c, v, heq, hc, hrun⟩ := run_wholePart hsign hwhole .malformed
  refine ⟨c, v ++ (fraction ++ exponent), ?_, hc, fun r hr => ?_⟩
  · rw [← List.append_assoc, heq, List.cons_append]
  · have hhead := hexponent.head hr
    have hnoDigit : NoDigit (exponent ++ r) := fun d hd => (hhead d hd).1
    obtain ⟨x, hx⟩ := run_fraction? hfraction hnoDigit (fun d hd => (hhead d hd).2) .malformed
    obtain ⟨y, hy⟩ := run_exponent? hexponent hr .malformed
    unfold skipNumber
    rw [List.append_assoc, List.append_assoc,
      run_bind_of_ok (hrun _ (hfraction.head hnoDigit)), run_bind_of_ok hx, run_bind_of_ok hy]
    rfl

/-! ## One step -/

section

variable {stack : List Frame} {f : Frame} {s t r : List Char} {c : Char}

/-- The value that comes next is over, or the first value inside it comes next. -/
theorem run_skipFrom {x : Option Frame} (hs : dropBlanks s = c :: t)
    (h : (opening c).run t = .ok (x, r)) :
    Reader.run (skipFrom stack) s =
      x.elim (Reader.run (skipRest stack) r) fun f => Reader.run (skipFrom (f :: stack)) r := by
  obtain ⟨hle, h⟩ := run_eq_ok_iff.1 h
  unfold Reader.run
  rw [skipFrom]
  split
  · next hnil => rw [hs] at hnil; cases hnil
  · next c' t' hcons =>
    obtain ⟨rfl, rfl⟩ := List.cons.inj (hcons.symm.trans hs)
    rw [h]
    cases x with
    | none => dsimp only; cases skipRest stack r <;> rfl
    | some f => rw [Option.elim_some]; dsimp only; cases skipFrom (f :: stack) r <;> rfl

/-- The innermost array or object is over, or another value inside it comes next. -/
theorem run_skipRest {x : Bool} (hs : dropBlanks s = c :: t)
    (h : (closing f c).run t = .ok (x, r)) :
    Reader.run (skipRest (f :: stack)) s =
      if x then Reader.run (skipRest stack) r else Reader.run (skipFrom (f :: stack)) r := by
  obtain ⟨hle, h⟩ := run_eq_ok_iff.1 h
  unfold Reader.run
  rw [skipRest]
  split
  · next hnil => rw [hs] at hnil; cases hnil
  · next c' t' hcons =>
    obtain ⟨rfl, rfl⟩ := List.cons.inj (hcons.symm.trans hs)
    rw [h]
    cases x with
    | true => dsimp only; cases skipRest stack r <;> rfl
    | false => dsimp only; cases skipFrom (f :: stack) r <;> rfl

theorem run_skipRest_nil (s : List Char) : Reader.run (skipRest []) s = .ok ((), s) := by
  unfold Reader.run
  rw [skipRest.eq_def]
  rfl

end

/-! ## Values -/

/-- The value `u` is taken, and what is left of the open arrays and objects comes next. -/
def Skips (u : List Char) : Prop :=
  ∀ stack w r, IsBlanks w → Ends r →
    Reader.run (skipFrom stack) (w ++ (u ++ r)) = Reader.run (skipRest stack) r

theorem Skips.of_opening {c : Char} {v : List Char} (hc : isBlank c = false)
    (h : ∀ r, Ends r → (opening c).run (v ++ r) = .ok (none, r)) : Skips (c :: v) :=
  fun _ _ r hw hr => run_skipFrom (dropBlanks_append hw hc (v ++ r)) (h r hr)

theorem word_cases {u : List Char} (h : u ∈ ["null".toList, "true".toList, "false".toList]) :
    u = 'n' :: "ull".toList ∨ u = 't' :: "rue".toList ∨ u = 'f' :: "alse".toList := by
  simp only [List.mem_cons, List.not_mem_nil, or_false] at h
  exact h

theorem skips_word {u : List Char} (h : u ∈ ["null".toList, "true".toList, "false".toList]) :
    Skips u := by
  rcases word_cases h with rfl | rfl | rfl
  all_goals
    exact .of_opening rfl fun r _ => run_bind_of_ok (g := fun _ => pure none) (run_word _ r)

theorem isBlank_of_number {c : Char} (h : (c = '-' || c.isDigit) = true) : isBlank c = false := by
  simp only [isBlank, Bool.or_eq_false_iff, decide_eq_false_iff_not]
  refine ⟨⟨⟨?_, ?_⟩, ?_⟩, ?_⟩ <;> rintro rfl <;> simp at h

theorem skips_number {u : List Char} (h : IsNumber u) : Skips u := by
  obtain ⟨c, v, rfl, hc, hrun⟩ := run_skipNumber h
  have hopens : c ≠ '[' ∧ c ≠ '{' ∧ c ≠ '"' := by
    refine ⟨?_, ?_, ?_⟩ <;> rintro rfl <;> simp at hc
  obtain ⟨harray, hobject, hquote⟩ := hopens
  refine .of_opening (isBlank_of_number hc) fun r hr => ?_
  unfold opening
  rw [if_neg harray, if_neg hobject, if_neg hquote, if_pos hc, run_bind_of_ok (hrun r hr)]
  rfl

theorem skips_quoted {u : List Char} (h : IsQuoted u) : Skips u := by
  obtain ⟨v, rfl, hv⟩ := run_skipTextBody h
  refine .of_opening rfl fun r _ => ?_
  simp [opening, run_bind_of_ok (hv r)]

/-! ## Arrays -/

theorem run_skipFrom_items {vs : List (List Char)} {v : List Char} (h : IsSeparated Eq vs v)
    (hvs : ∀ u ∈ vs, Skips u) (stack : List Frame) (r : List Char) :
    Reader.run (skipFrom (.array :: stack)) (v ++ ']' :: r) = Reader.run (skipRest stack) r := by
  induction h with
  | @one a u w w' hw hu hw' =>
    subst hu
    have hclose : (closing .array ']').run r = .ok (true, r) := rfl
    rw [List.append_assoc, List.append_assoc,
      hvs a (by simp) _ _ _ hw (.of_blanks hw' (.cons (by simp) r)),
      run_skipRest (dropBlanks_append hw' rfl r) hclose, if_pos rfl]
  | @cons a as u v w w' hw hu hw' rest ih =>
    subst hu
    have hcomma : (closing .array ',').run (v ++ ']' :: r) = .ok (false, v ++ ']' :: r) := rfl
    rw [List.append_assoc, List.append_assoc, List.append_assoc, List.cons_append,
      hvs a (by simp) _ _ _ hw (.of_blanks hw' (.cons (by simp) _)),
      run_skipRest (dropBlanks_append hw' rfl _) hcomma, if_neg (by simp),
      ih fun x hx => hvs x (by simp [hx])]

theorem skips_array {vs : List (List Char)} {u : List Char} (h : IsArray Eq vs u)
    (hbegins : ∀ v ∈ vs, Begins v) (hvs : ∀ v ∈ vs, Skips v) : Skips u := by
  obtain ⟨v, ⟨rfl, hv⟩ | hsep, rfl⟩ := h
  · -- Only the closing bracket follows.
    refine .of_opening rfl fun r _ => ?_
    have hsymbol : (symbol ']').run (']' :: r) = .ok ((), r) := run_symbol .nil rfl r
    unfold opening
    rw [if_pos rfl, List.append_assoc, List.singleton_append,
      run_bind_of_ok (run_peekToken? hv rfl r)]
    exact run_bind_of_ok hsymbol
  · obtain ⟨w, c, t, hw, rfl, hc, hne, hfirst⟩ :=
      hsep.exists_first fun a ha b hb => hb ▸ hbegins a ha
    intro stack w' r hw' _
    have hopen : (opening '[').run (w ++ c :: t ++ [']'] ++ r) =
        .ok (some .array, c :: t ++ ']' :: r) := by
      unfold opening
      rw [if_pos rfl, List.append_assoc, List.append_assoc, List.cons_append,
        List.singleton_append, run_bind_of_ok (run_peekToken? hw hc _)]
      simp
    rw [List.cons_append, run_skipFrom (dropBlanks_append hw' rfl _) hopen, Option.elim_some,
      run_skipFrom_items hfirst hvs]

/-! ## Objects -/

/-- The key of a member and the colon, after the quote that opens the key. -/
theorem run_skipKey {k : List Char} (h : IsQuoted k) :
    ∃ v, k = '"' :: v ∧ ∀ w r, IsBlanks w → skipKey.run (v ++ (w ++ ':' :: r)) = .ok ((), r) := by
  obtain ⟨v, rfl, hv⟩ := run_skipTextBody h
  refine ⟨v, rfl, fun w r hw => ?_⟩
  unfold skipKey
  rw [run_bind_of_ok (hv _), run_symbol hw rfl]

theorem run_skipFrom_members {ms : List (List Char × List Char)} {v : List Char}
    (h : IsSeparated (IsMember Eq) ms v) (hkeys : ∀ m ∈ ms, IsQuoted m.1)
    (hvalues : ∀ m ∈ ms, Skips m.2) :
    ∃ w v', IsBlanks w ∧ v = w ++ '"' :: v' ∧ ∀ stack r, ∃ s,
      skipKey.run (v' ++ '}' :: r) = .ok ((), s) ∧
        Reader.run (skipFrom (.object :: stack)) s = Reader.run (skipRest stack) r := by
  induction h with
  | @one m u w w' hw hu hw' =>
    obtain ⟨k, w₁, w₂, rfl, hw₁, hw₂, rfl⟩ := hu
    obtain ⟨k, hk, hrun⟩ := run_skipKey (hkeys m (by simp))
    refine ⟨w, k ++ (w₁ ++ ':' :: (w₂ ++ m.2)) ++ w', hw, by simp [hk], fun stack r => ?_⟩
    refine ⟨w₂ ++ (m.2 ++ (w' ++ '}' :: r)), by simpa using hrun w₁ _ hw₁, ?_⟩
    have hclose : (closing .object '}').run r = .ok (true, r) := rfl
    rw [hvalues m (by simp) _ _ _ hw₂ (.of_blanks hw' (.cons (by simp) r)),
      run_skipRest (dropBlanks_append hw' rfl r) hclose, if_pos rfl]
  | @cons m ms u v w w' hw hu hw' rest ih =>
    obtain ⟨k, w₁, w₂, rfl, hw₁, hw₂, rfl⟩ := hu
    obtain ⟨k, hk, hrun⟩ := run_skipKey (hkeys m (by simp))
    obtain ⟨w₃, v', hw₃, rfl, hrest⟩ :=
      ih (fun x hx => hkeys x (by simp [hx])) fun x hx => hvalues x (by simp [hx])
    refine ⟨w, k ++ (w₁ ++ ':' :: (w₂ ++ m.2)) ++ (w' ++ ',' :: (w₃ ++ '"' :: v')), hw,
      by simp [hk], fun stack r => ?_⟩
    obtain ⟨s, hkey, hs⟩ := hrest stack r
    refine ⟨w₂ ++ (m.2 ++ (w' ++ ',' :: (w₃ ++ '"' :: (v' ++ '}' :: r)))),
      by simpa using hrun w₁ _ hw₁, ?_⟩
    have hcomma : (closing .object ',').run (w₃ ++ '"' :: (v' ++ '}' :: r)) =
        .ok (false, s) := by
      unfold closing
      dsimp only
      rw [if_neg (by decide), if_pos rfl, run_bind_of_ok (run_token? hw₃ rfl _)]
      exact run_bind_of_ok hkey
    rw [hvalues m (by simp) _ _ _ hw₂ (.of_blanks hw' (.cons (by simp) _)),
      run_skipRest (dropBlanks_append hw' rfl _) hcomma, if_neg (by simp), hs]

theorem skips_object {ms : List (List Char × List Char)} {u : List Char} (h : IsObject Eq ms u)
    (hkeys : ∀ m ∈ ms, IsQuoted m.1) (hvalues : ∀ m ∈ ms, Skips m.2) : Skips u := by
  obtain ⟨v, ⟨rfl, hv⟩ | hsep, rfl⟩ := h
  · -- Only the closing brace follows.
    refine .of_opening rfl fun r _ => ?_
    unfold opening
    rw [if_neg (by decide), if_pos rfl, List.append_assoc, List.singleton_append,
      run_bind_of_ok (run_token? hv rfl r)]
    rfl
  · obtain ⟨w, v', hw, rfl, hrun⟩ := run_skipFrom_members hsep hkeys hvalues
    intro stack w' r hw' _
    obtain ⟨s, hkey, hs⟩ := hrun stack r
    have hopen : (opening '{').run (w ++ '"' :: v' ++ ['}'] ++ r) =
        .ok (some .object, s) := by
      unfold opening
      rw [if_neg (by decide), if_pos rfl, List.append_assoc, List.append_assoc, List.cons_append,
        List.singleton_append, run_bind_of_ok (run_token? hw rfl _)]
      exact run_bind_of_ok hkey
    rw [List.cons_append, run_skipFrom (dropBlanks_append hw' rfl _) hopen, Option.elim_some, hs]

/-! ## All values -/

theorem IsValue.begins {u : List Char} (h : IsValue u) : Begins u := by
  cases h with
  | word h => rcases word_cases h with rfl | rfl | rfl <;> exact ⟨_, _, rfl, rfl, by decide⟩
  | number h =>
    obtain ⟨c, v, rfl, hc, -⟩ := run_skipNumber h
    refine ⟨c, v, rfl, isBlank_of_number hc, ?_⟩
    rintro rfl
    simp at hc
  | text h =>
    obtain ⟨us, -, rfl⟩ := h
    exact ⟨_, _, rfl, rfl, by decide⟩
  | array _ h =>
    obtain ⟨v, -, rfl⟩ := h
    exact ⟨_, _, rfl, rfl, by decide⟩
  | object _ _ h =>
    obtain ⟨v, -, rfl⟩ := h
    exact ⟨_, _, rfl, rfl, by decide⟩

/-- The values inside a value are passed over before it is. -/
theorem IsValue.skips {u : List Char} (h : IsValue u) : Skips u := by
  induction h with
  | word h => exact skips_word h
  | number h => exact skips_number h
  | text h => exact skips_quoted h
  | array items h ih => exact skips_array h (fun v hv => (items v hv).begins) ih
  | object keys values h ih => exact skips_object h keys ih

/-- **Each value is passed over.** -/
theorem reads_skipValue {u : List Char} (h : IsValue u) : Reads skipValue () u :=
  fun w r hw hr => (h.skips [] w r hw hr).trans (run_skipRest_nil r)

end LocalizedStrings.Json
