import LocalizedStrings.Json.Shape
import LocalizedStrings.Proofs.Json.Grammar

/-!
# Reading texts

A reader takes a value from a text if it gives the value whatever blanks stand before the text, and
leaves what follows. What follows must not make a number longer.

* `Reader.run_eq_ok_iff`, `Reader.run_bind_of_ok`: what it means that a reader succeeds.
* `run_token?`, `run_peekToken?`, `run_symbol`, `run_word`: the next characters.
* `Begins`, `Ends`: how a value begins, and what can follow it.
* `Reads`: a reader takes a value from a text.
* `run_textBody`, `run_skipTextBody`: a text after its opening quote.
* **`reads_textValue`**: each text in quotes is read as the text that it stands for.
-/

namespace LocalizedStrings.Json

open Reader

variable {α β : Type}

/-! ## Results -/

theorem Reader.run_eq_ok_iff {f : Reader α} {s t : List Char} {a : α} :
    f.run s = .ok (a, t) ↔ ∃ h, f s = .ok ⟨a, t, h⟩ := by
  unfold Reader.run
  constructor
  · intro h
    cases hf : f s with
    | error e => rw [hf] at h; cases h
    | ok b =>
      rw [hf] at h
      cases h
      exact ⟨b.le, rfl⟩
  · rintro ⟨h, hf⟩
    rw [hf]
    rfl

theorem Reader.run_bind_of_ok {f : Reader α} {g : α → Reader β} {s t : List Char} {a : α}
    (h : f.run s = .ok (a, t)) : (f >>= g).run s = (g a).run t := by
  rw [run_bind, h]
  rfl

/-! ## The next characters -/

@[simp] theorem run_next?_cons (c : Char) (r : List Char) : next?.run (c :: r) = .ok (some c, r) :=
  rfl

theorem dropBlanks_append {w : List Char} {c : Char} (hw : IsBlanks w) (hc : isBlank c = false)
    (r : List Char) : dropBlanks (w ++ c :: r) = c :: r := by
  unfold dropBlanks
  rw [List.dropWhile_append_of_pos fun d hd => List.all_eq_true.1 hw d hd,
    List.dropWhile_cons_of_neg (by simp [hc])]

section

variable {w : List Char} {c : Char} (hw : IsBlanks w) (hc : isBlank c = false) (r : List Char)

include hw hc

theorem run_token? : token?.run (w ++ c :: r) = .ok (some c, r) := by
  change Reader.run (blanks >>= fun _ => next?) _ = _
  have hblanks : blanks.run (w ++ c :: r) = .ok ((), c :: r) := by
    change Except.ok ((), dropBlanks (w ++ c :: r)) = _
    rw [dropBlanks_append hw hc]
  rw [run_bind_of_ok hblanks, run_next?_cons]

theorem run_peekToken? : peekToken?.run (w ++ c :: r) = .ok (some c, c :: r) := by
  change Except.ok ((dropBlanks (w ++ c :: r)).head?, dropBlanks (w ++ c :: r)) = _
  rw [dropBlanks_append hw hc]
  rfl

theorem run_symbol : (symbol c).run (w ++ c :: r) = .ok ((), r) := by
  unfold symbol
  rw [run_bind_of_ok (run_token? hw hc r)]
  simp

end

theorem run_word (u r : List Char) : (word u).run (u ++ r) = .ok ((), r) := by
  induction u with
  | nil => rfl
  | cons c u ih =>
    unfold word
    rw [List.cons_append, run_bind_of_ok (run_next?_cons c (u ++ r))]
    simpa using ih

/-! ## The ends of a value -/

/-- The text is no continuation of a number. -/
def Ends (r : List Char) : Prop :=
  ∀ c ∈ r.head?, c.isDigit = false ∧ c ≠ '.' ∧ c ≠ 'e' ∧ c ≠ 'E'

theorem Ends.of_blanks {w r : List Char} (hw : IsBlanks w) (hr : Ends r) : Ends (w ++ r) := by
  cases w with
  | nil => exact hr
  | cons c w =>
    intro d hd
    obtain rfl : c = d := by simpa using hd
    have hc : isBlank c = true := List.all_eq_true.1 hw c (by simp)
    simp only [isBlank, Bool.or_eq_true, decide_eq_true_eq] at hc
    rcases hc with ((rfl | rfl) | rfl) | rfl <;> decide

/-- What stands after a value in brackets. -/
theorem Ends.cons {c : Char} (h : c = ',' ∨ c = ']' ∨ c = '}') (r : List Char) :
    Ends (c :: r) := by
  intro d hd
  obtain rfl : c = d := by simpa using hd
  rcases h with rfl | rfl | rfl <;> decide

/-- The text begins as a value does: with no blank, and with no bracket that ends an array. -/
def Begins (u : List Char) : Prop := ∃ c v, u = c :: v ∧ isBlank c = false ∧ c ≠ ']'

/-- The first member of a list begins after the blanks before it. -/
theorem IsSeparated.exists_first {R : α → List Char → Prop} {as : List α} {u : List Char}
    (h : IsSeparated R as u) (hbegins : ∀ a ∈ as, ∀ v, R a v → Begins v) :
    ∃ w c v, IsBlanks w ∧ u = w ++ c :: v ∧ isBlank c = false ∧ c ≠ ']' ∧
      IsSeparated R as (c :: v) := by
  cases h with
  | @one a v w w' hw ha hw' =>
    obtain ⟨c, v, rfl, hc, hne⟩ := hbegins a (by simp) v ha
    exact ⟨w, c, v ++ w', hw, rfl, hc, hne, .one .nil ha hw'⟩
  | @cons a as v r w w' hw ha hw' rest =>
    obtain ⟨c, v, rfl, hc, hne⟩ := hbegins a (by simp) v ha
    exact ⟨w, c, v ++ (w' ++ ',' :: r), hw, rfl, hc, hne, .cons .nil ha hw' rest⟩

/-- The reader takes the value `a` from the text `u`, after blanks, and leaves what follows. -/
def Reads (f : Reader α) (a : α) (u : List Char) : Prop :=
  ∀ w r, IsBlanks w → Ends r → f.run (w ++ (u ++ r)) = .ok (a, r)

/-! ## Characters of a text -/

theorem hexDigit?_of_isHexDigit {n : Nat} {d : Char} (h : IsHexDigit n d) :
    hexDigit? d = some n := by
  have hall : ∀ n < 16, hexDigit? (Nat.digitChar n) = some n ∧
      hexDigit? (Nat.digitChar n).toUpper = some n := by decide
  obtain ⟨hn, rfl | rfl⟩ := h
  · exact (hall n hn).1
  · exact (hall n hn).2

theorem run_hex {n : Nat} {ds : List Char} (h : IsHex n ds) (r : List Char) :
    hex.run (ds ++ r) = .ok (n, r) := by
  obtain _ | ⟨ha, _ | ⟨hb, _ | ⟨hc, _ | ⟨hd, _ | _⟩⟩⟩⟩ := h
  have hn : ((n / 0x1000 * 16 + n / 0x100 % 0x10) * 16 + n / 0x10 % 0x10) * 16 + n % 0x10 = n := by
    omega
  simp only [Reader.run, hex, List.cons_append, List.nil_append, hexDigit?_of_isHexDigit ha,
    hexDigit?_of_isHexDigit hb, hexDigit?_of_isHexDigit hc, hexDigit?_of_isHexDigit hd, hn]
  rfl

theorem escape?_of_mem {l c : Char} (h : (l, c) ∈ letters) : l ≠ 'u' ∧ escape? l = some c := by
  revert h
  simp only [letters, List.mem_cons, List.not_mem_nil, or_false, Prod.mk.injEq]
  rintro (⟨rfl, rfl⟩ | ⟨rfl, rfl⟩ | ⟨rfl, rfl⟩ | ⟨rfl, rfl⟩ | ⟨rfl, rfl⟩ | ⟨rfl, rfl⟩ |
    ⟨rfl, rfl⟩ | ⟨rfl, rfl⟩) <;> decide

theorem run_escaped_letter {l c : Char} (h : (l, c) ∈ letters) (r : List Char) :
    escaped.run (l :: r) = .ok (c, r) := by
  obtain ⟨hu, hl⟩ := escape?_of_mem h
  unfold escaped
  rw [run_bind_of_ok (run_next?_cons l r)]
  -- By `hu` no digits follow.
  simp [hl]

theorem run_escaped_unit {c : Char} {ds : List Char} (hds : IsHex c.toNat ds) (r : List Char) :
    escaped.run ('u' :: (ds ++ r)) = .ok (c, r) := by
  have hvalid : c.toNat < 0xD800 ∨ 0xDFFF < c.toNat ∧ c.toNat < 0x110000 := c.valid
  have hlow : isLowSurrogate c.toNat = false := by simp [isLowSurrogate]; omega
  have hhigh : isHighSurrogate c.toNat = false := by simp [isHighSurrogate]; omega
  unfold escaped
  simp only [run_bind_of_ok (run_next?_cons 'u' _), run_bind_of_ok (run_hex hds r), hlow, hhigh]
  simp

theorem ofSurrogates_eq {c : Char} (h : 0x10000 ≤ c.toNat) :
    ofSurrogates (0xD800 + (c.toNat - 0x10000) / 0x400) (0xDC00 + (c.toNat - 0x10000) % 0x400) =
      c := by
  have hn : 0x10000 + (0xD800 + (c.toNat - 0x10000) / 0x400 - 0xD800) * 0x400 +
      (0xDC00 + (c.toNat - 0x10000) % 0x400 - 0xDC00) = c.toNat := by omega
  rw [ofSurrogates, hn, Char.ofNat_toNat]

theorem run_escaped_pair {c : Char} {ds es : List Char} (h : 0x10000 ≤ c.toNat)
    (hds : IsHex (0xD800 + (c.toNat - 0x10000) / 0x400) ds)
    (hes : IsHex (0xDC00 + (c.toNat - 0x10000) % 0x400) es) (r : List Char) :
    escaped.run ('u' :: (ds ++ '\\' :: 'u' :: (es ++ r))) = .ok (c, r) := by
  have hvalid : c.toNat < 0xD800 ∨ 0xDFFF < c.toNat ∧ c.toNat < 0x110000 := c.valid
  have hnotLow : isLowSurrogate (0xD800 + (c.toNat - 0x10000) / 0x400) = false := by
    simp [isLowSurrogate]; omega
  have hhigh : isHighSurrogate (0xD800 + (c.toNat - 0x10000) / 0x400) = true := by
    simp [isHighSurrogate]; omega
  have hlow : isLowSurrogate (0xDC00 + (c.toNat - 0x10000) % 0x400) = true := by
    simp [isLowSurrogate]; omega
  have hbackslash : (following '\\').run ('\\' :: 'u' :: (es ++ r)) = .ok ((), 'u' :: (es ++ r)) :=
    run_word ['\\'] _
  have hu : (following 'u').run ('u' :: (es ++ r)) = .ok ((), es ++ r) := run_word ['u'] _
  unfold escaped
  simp only [run_bind_of_ok (run_next?_cons 'u' _), run_bind_of_ok (run_hex hds _), hnotLow, hhigh,
    Bool.false_eq_true, if_true, if_false]
  rw [run_bind_of_ok hbackslash, run_bind_of_ok hu, run_bind_of_ok (run_hex hes r), if_pos hlow,
    ofSurrogates_eq h, run_pure]

theorem run_skipEscaped_letter {l c : Char} (h : (l, c) ∈ letters) (r : List Char) :
    skipEscaped.run (l :: r) = .ok ((), r) := by
  obtain ⟨hu, hl⟩ := escape?_of_mem h
  unfold skipEscaped
  rw [run_bind_of_ok (run_next?_cons l r)]
  simp [hl]

theorem run_skipEscaped_hex {n : Nat} {ds : List Char} (h : IsHex n ds) (r : List Char) :
    skipEscaped.run ('u' :: (ds ++ r)) = .ok ((), r) := by
  unfold skipEscaped
  simp only [run_bind_of_ok (run_next?_cons 'u' _), run_bind_of_ok (run_hex h r), run_pure]

/-! ## Texts -/

/-- One step of reading a text: a character that stands for itself, or an escape. -/
inductive IsStep (escape : Reader α) (plain : Char → α) : α → List Char → Prop
  | plain {c : Char} (h : IsPlain c) : IsStep escape plain (plain c) [c]
  | escape {a : α} {e : List Char} (h : ∀ r, escape.run (e ++ r) = .ok (a, r)) :
    IsStep escape plain a ('\\' :: e)

section

variable {escape : Reader α} {plain : Char → α} {as : List α} {s r : List Char}

theorem run_bodyOf_quote : Reader.run (bodyOf escape plain) ('"' :: r) = .ok ([], r) := by
  unfold Reader.run bodyOf
  rfl

theorem run_bodyOf_plain {c : Char} (hc : IsPlain c)
    (h : Reader.run (bodyOf escape plain) s = .ok (as, r)) :
    Reader.run (bodyOf escape plain) (c :: s) = .ok (plain c :: as, r) := by
  obtain ⟨hle, h⟩ := run_eq_ok_iff.1 h
  refine run_eq_ok_iff.2 ⟨Nat.le_succ_of_le hle, ?_⟩
  rw [bodyOf, if_neg hc.quote, if_neg hc.backslash, if_neg (Nat.not_lt.2 hc.noControl), h]

theorem run_bodyOf_escape {a : α} {t : List Char} (he : escape.run s = .ok (a, t))
    (h : Reader.run (bodyOf escape plain) t = .ok (as, r)) :
    Reader.run (bodyOf escape plain) ('\\' :: s) = .ok (a :: as, r) := by
  obtain ⟨hle, h⟩ := run_eq_ok_iff.1 h
  obtain ⟨hle', he⟩ := run_eq_ok_iff.1 he
  refine run_eq_ok_iff.2 ⟨Nat.le_succ_of_le (Nat.le_trans hle hle'), ?_⟩
  rw [bodyOf, if_neg (by decide), if_pos rfl, he]
  simp only [h]

/-- The steps of a text are taken one after another, up to its closing quote. -/
theorem run_bodyOf {us : List (List Char)} (h : List.Forall₂ (IsStep escape plain) as us) :
    Reader.run (bodyOf escape plain) (us.flatten ++ '"' :: r) = .ok (as, r) := by
  induction h with
  | nil => exact run_bodyOf_quote
  | cons hu _ ih =>
    rw [List.flatten_cons, List.append_assoc]
    cases hu with
    | plain hc => exact run_bodyOf_plain hc ih
    | escape he => exact run_bodyOf_escape (he _) ih

end

theorem IsSpelling.isStep {c : Char} {u : List Char} (h : IsSpelling c u) :
    IsStep escaped id c u := by
  cases h with
  | plain h => exact .plain h
  | letter h => exact .escape fun r => run_escaped_letter h r
  | unit _ hds => exact .escape fun r => run_escaped_unit hds r
  | pair h hds hes =>
    refine .escape fun r => ?_
    simpa using run_escaped_pair h hds hes r

theorem IsUnit.isStep {u : List Char} (h : IsUnit u) :
    IsStep skipEscaped (fun _ => ()) () u := by
  cases h with
  | plain h => exact .plain h
  | letter h => exact .escape fun r => run_skipEscaped_letter h r
  | hex h => exact .escape fun r => run_skipEscaped_hex h r

/-- A text after its opening quote. -/
theorem run_textBody {s : String} {u : List Char} (h : IsText s u) :
    ∃ v, u = '"' :: v ∧ ∀ r, textBody.run (v ++ r) = .ok (s, r) := by
  obtain ⟨us, hus, rfl⟩ := h
  refine ⟨us.flatten ++ ['"'], rfl, fun r => ?_⟩
  unfold textBody
  rw [List.append_assoc, List.singleton_append,
    run_bind_of_ok (run_bodyOf (hus.imp fun _ _ => IsSpelling.isStep)), run_pure,
    String.ofList_toList]

/-- A text after its opening quote, passed over. -/
theorem run_skipTextBody {u : List Char} (h : IsQuoted u) :
    ∃ v, u = '"' :: v ∧ ∀ r, skipTextBody.run (v ++ r) = .ok ((), r) := by
  obtain ⟨us, hus, rfl⟩ := h
  have hsteps : List.Forall₂ (IsStep skipEscaped fun _ => ()) (us.map fun _ => ()) us := by
    rw [List.forall₂_map_left_iff, List.forall₂_same]
    exact fun u hu => (hus u hu).isStep
  refine ⟨us.flatten ++ ['"'], rfl, fun r => ?_⟩
  unfold skipTextBody
  rw [List.append_assoc, List.singleton_append, run_bind_of_ok (run_bodyOf hsteps)]
  rfl

/-- **Each text in quotes is read as the text that it stands for.** -/
theorem reads_textValue {s : String} {u : List Char} (h : IsText s u) (expected : String) :
    Reads (textValue expected) s u := by
  obtain ⟨v, rfl, hv⟩ := run_textBody h
  intro w r hw _
  unfold textValue
  rw [List.cons_append, run_bind_of_ok (run_token? hw rfl _)]
  exact hv r

end LocalizedStrings.Json
