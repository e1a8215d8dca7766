import LocalizedStrings.Proofs.Json.Skipping
import Mathlib.Data.List.TakeWhile

/-!
# Reading values of an expected shape

* `run_itemsFrom`, **`reads_arrayOf`**: an array, if its items are read.
* `ReadsMember`: a reader takes the colon and the value of a member.
* `IsStateAfter`: each member takes what is known so far one step further.
* `run_membersFrom`, **`run_membersOf`**: the members of an object, from the first to the last.
* `reads_variantOf`: one of two names.
-/

namespace LocalizedStrings.Json

open Reader

variable {α β σ : Type}

/-! ## Arrays -/

section

variable {item : Reader α} {s t r w : List Char} {a : α} {as : List α}

theorem run_itemsFrom_last (hw : IsBlanks w) (h : item.run s = .ok (a, w ++ ']' :: r)) :
    Reader.run (itemsFrom item) s = .ok ([a], r) := by
  obtain ⟨hle, h⟩ := run_eq_ok_iff.1 h
  have hdrop := dropBlanks_append hw (c := ']') rfl r
  unfold Reader.run
  rw [itemsFrom, h]
  dsimp only [Except.bind]
  split
  · next hnil => rw [hdrop] at hnil; cases hnil
  · next c r' hcons =>
    obtain ⟨rfl, rfl⟩ := List.cons.inj (hdrop.symm.trans hcons)
    rfl

theorem run_itemsFrom_more (hw : IsBlanks w) (h : item.run s = .ok (a, w ++ ',' :: t))
    (ht : ∃ d t', dropBlanks t = d :: t' ∧ d ≠ ']')
    (hrest : Reader.run (itemsFrom item) t = .ok (as, r)) :
    Reader.run (itemsFrom item) s = .ok (a :: as, r) := by
  obtain ⟨hle, h⟩ := run_eq_ok_iff.1 h
  obtain ⟨hle', hrest⟩ := run_eq_ok_iff.1 hrest
  obtain ⟨d, t', ht, hd⟩ := ht
  have hdrop := dropBlanks_append hw (c := ',') rfl t
  unfold Reader.run
  rw [itemsFrom, h]
  dsimp only [Except.bind]
  split
  · next hnil => rw [hdrop] at hnil; cases hnil
  · next c r' hcons =>
    obtain ⟨rfl, rfl⟩ := List.cons.inj (hdrop.symm.trans hcons)
    rw [if_neg (by decide), if_pos rfl, ht]
    simp only [List.head?_cons, if_neg hd, hrest]
    rfl

end

section

variable {R : α → List Char → Prop} {item : Reader α} {as : List α}

theorem run_itemsFrom {v : List Char} (h : IsSeparated R as v)
    (hbegins : ∀ a u, R a u → Begins u) (hitem : ∀ a u, R a u → Reads item a u) (r : List Char) :
    Reader.run (itemsFrom item) (v ++ ']' :: r) = .ok (as, r) := by
  induction h with
  | @one a u w w' hw ha hw' =>
    refine run_itemsFrom_last hw' ?_
    rw [List.append_assoc, List.append_assoc]
    exact hitem a u ha w _ hw (.of_blanks hw' (.cons (by simp) r))
  | @cons a as u v w w' hw ha hw' rest ih =>
    obtain ⟨w₂, d, t, hw₂, rfl, hd, hne, -⟩ := rest.exists_first fun b _ => hbegins b
    refine run_itemsFrom_more hw' (t := w₂ ++ d :: t ++ ']' :: r) ?_ ?_ ih
    · rw [List.append_assoc, List.append_assoc, List.append_assoc]
      exact hitem a u ha w _ hw (.of_blanks hw' (.cons (by simp) _))
    · refine ⟨d, t ++ ']' :: r, ?_, hne⟩
      rw [List.append_assoc]
      exact dropBlanks_append hw₂ hd _

/-- The first character of an item is not the bracket that ends the array. -/
theorem run_match_of_ne {c : Char} (h : c ≠ ']') (f g : Reader (List α)) (s : List Char) :
    Reader.run (match some c with
      | none => .fail .ended
      | some ']' => f
      | some _ => g) s = g.run s := by
  simp

/-- **An array is read** if its items are, and none of them begins like the end of an array. -/
theorem reads_arrayOf {u : List Char} (h : IsArray R as u) (hbegins : ∀ a u, R a u → Begins u)
    (hitem : ∀ a u, R a u → Reads item a u) : Reads (arrayOf item) as u := by
  obtain ⟨v, hv, rfl⟩ := h
  intro w r hw _
  unfold arrayOf
  rw [List.cons_append, List.append_assoc, List.singleton_append,
    run_bind_of_ok (run_token? hw rfl _)]
  rcases hv with ⟨rfl, hv⟩ | hsep
  · refine (run_bind_of_ok (run_peekToken? hv rfl r)).trans ?_
    refine (run_bind_of_ok (run_symbol .nil rfl r)).trans ?_
    rfl
  · obtain ⟨w₂, c, t, hw₂, rfl, hc, hne, hfirst⟩ := hsep.exists_first fun b _ => hbegins b
    rw [List.append_assoc, List.cons_append]
    refine (run_bind_of_ok (run_peekToken? hw₂ hc (t ++ ']' :: r))).trans ?_
    exact (run_match_of_ne hne _ _ _).trans (run_itemsFrom hfirst hbegins hitem r)

end

/-! ## Objects -/

/-- The reader takes the colon and the value of a member, and leaves what follows. -/
def ReadsMember (f : Reader α) (a : α) (u : List Char) : Prop :=
  ∀ w w' r, IsBlanks w → IsBlanks w' → Ends r →
    f.run (w ++ ':' :: (w' ++ (u ++ r))) = .ok (a, r)

theorem ReadsMember.map {f : Reader α} {a : α} {u : List Char} (h : ReadsMember f a u)
    (g : α → β) : ReadsMember (do let a ← f; pure (g a)) (g a) u := by
  intro w w' r hw hw' hr
  rw [run_bind_of_ok (h w w' r hw hw' hr), run_pure]

theorem readsMember_field {value : Reader α} {a : α} {u : List Char} (h : Reads value a u)
    (key : String) : ReadsMember (field key none value) a u := by
  intro w w' r hw hw' hr
  unfold field
  change Reader.run (symbol ':' >>= fun _ => value) _ = _
  rw [run_bind_of_ok (run_symbol hw rfl _)]
  exact h w' r hw' hr

theorem readsMember_skipField {u : List Char} (h : IsValue u) : ReadsMember skipField () u := by
  intro w w' r hw hw' hr
  unfold skipField
  rw [run_bind_of_ok (run_symbol hw rfl _)]
  exact reads_skipValue h w' r hw' hr

section

variable {member : σ → String → Reader σ} {state state' state'' : σ} {s t r w : List Char}

theorem run_membersFrom_last (hw : IsBlanks w)
    (h : Reader.run (textBody >>= member state) s = .ok (state', w ++ '}' :: r)) :
    Reader.run (membersFrom member state) s = .ok (state', r) := by
  obtain ⟨hle, h⟩ := run_eq_ok_iff.1 h
  have hdrop := dropBlanks_append hw (c := '}') rfl r
  unfold Reader.run
  rw [membersFrom, h]
  dsimp only
  split
  · next hnil => rw [hdrop] at hnil; cases hnil
  · next c r' hcons =>
    obtain ⟨rfl, rfl⟩ := List.cons.inj (hdrop.symm.trans hcons)
    rfl

theorem run_membersFrom_more {w' : List Char} (hw : IsBlanks w) (hw' : IsBlanks w')
    (h : Reader.run (textBody >>= member state) s = .ok (state', w ++ ',' :: (w' ++ '"' :: t)))
    (hrest : Reader.run (membersFrom member state') t = .ok (state'', r)) :
    Reader.run (membersFrom member state) s = .ok (state'', r) := by
  obtain ⟨hle, h⟩ := run_eq_ok_iff.1 h
  obtain ⟨hle', hrest⟩ := run_eq_ok_iff.1 hrest
  have hdrop := dropBlanks_append hw (c := ',') rfl (w' ++ '"' :: t)
  have hdrop' := dropBlanks_append hw' (c := '"') rfl t
  unfold Reader.run
  rw [membersFrom, h]
  dsimp only
  split
  · next hnil => rw [hdrop] at hnil; cases hnil
  · next c r' hcons =>
    obtain ⟨rfl, rfl⟩ := List.cons.inj (hdrop.symm.trans hcons)
    rw [if_neg (by decide), if_pos rfl]
    split
    · next hnil => rw [hdrop'] at hnil; cases hnil
    · next c' r'' hcons' =>
      obtain ⟨rfl, rfl⟩ := List.cons.inj (hdrop'.symm.trans hcons')
      rw [if_pos rfl, hrest]
      rfl

end

section

variable {member : σ → String → Reader σ} {state : List (String × List Char) → σ}
  {ms : List (String × List Char)}

/-- Each member takes the state after the members before it one step further. -/
def IsStateAfter (member : σ → String → Reader σ) (state : List (String × List Char) → σ)
    (ms : List (String × List Char)) : Prop :=
  ∀ before m, before ++ [m] <+: ms →
    ReadsMember (member (state before) m.1) (state (before ++ [m])) m.2

theorem run_membersFrom (hstate : IsStateAfter member state ms) {rest : List (String × List Char)}
    {v : List Char} (h : IsSeparated (IsMember IsText) rest v) :
    ∀ before, before ++ rest = ms → ∃ w v', IsBlanks w ∧ v = w ++ '"' :: v' ∧
      ∀ r, Reader.run (membersFrom member (state before)) (v' ++ '}' :: r) = .ok (state ms, r) := by
  induction h with
  | @one m u w w' hw hu hw' =>
    rintro before rfl
    obtain ⟨k, w₁, w₂, hk, hw₁, hw₂, rfl⟩ := hu
    obtain ⟨k, rfl, hrun⟩ := run_textBody hk
    refine ⟨w, k ++ (w₁ ++ ':' :: (w₂ ++ m.2)) ++ w', hw, by simp, fun r => ?_⟩
    refine run_membersFrom_last hw' ?_
    have hvalue := hstate before m List.prefix_rfl w₁ w₂ (w' ++ '}' :: r) hw₁ hw₂
      (.of_blanks hw' (.cons (by simp) r))
    simp only [List.append_assoc, List.cons_append]
    rw [run_bind_of_ok (hrun _), hvalue]
  | @cons m ms' u v w w' hw hu hw' rest ih =>
    rintro before rfl
    obtain ⟨k, w₁, w₂, hk, hw₁, hw₂, rfl⟩ := hu
    obtain ⟨k, rfl, hrun⟩ := run_textBody hk
    obtain ⟨w₃, v', hw₃, rfl, hrest⟩ := ih (before ++ [m]) (by simp)
    refine ⟨w, k ++ (w₁ ++ ':' :: (w₂ ++ m.2)) ++ (w' ++ ',' :: (w₃ ++ '"' :: v')), hw, by simp,
      fun r => ?_⟩
    refine run_membersFrom_more hw' hw₃ ?_ (hrest r)
    have hvalue := hstate before m ⟨ms', by simp⟩ w₁ w₂
      (w' ++ ',' :: (w₃ ++ '"' :: (v' ++ '}' :: r))) hw₁ hw₂ (.of_blanks hw' (.cons (by simp) _))
    simp only [List.append_assoc, List.cons_append]
    rw [run_bind_of_ok (hrun _), hvalue]

/-- **The members of an object are read** one after another, after the brace that opens it. -/
theorem run_membersOf (hstate : IsStateAfter member state ms) {u : List Char}
    (h : IsObject IsText ms u) :
    ∃ v, u = '{' :: v ∧ ∀ r, (membersOf member (state [])).run (v ++ r) = .ok (state ms, r) := by
  obtain ⟨v, hv, rfl⟩ := h
  refine ⟨_, rfl, fun r => ?_⟩
  unfold membersOf
  rw [List.append_assoc, List.singleton_append]
  rcases hv with ⟨rfl, hv⟩ | hsep
  · exact run_bind_of_ok (run_token? hv rfl r)
  · obtain ⟨w, v', hw, rfl, hrun⟩ := run_membersFrom hstate hsep [] rfl
    rw [List.append_assoc, List.cons_append]
    exact (run_bind_of_ok (run_token? hw rfl _)).trans (hrun r)

end

/-! ## Choices -/

theorem reads_variantOf {first second name : String} {a b x : α} {u : List Char}
    (h : IsText name u) (hx : choose first second a b name = pure x) :
    Reads (variantOf first second a b) x u := by
  obtain ⟨v, rfl, hv⟩ := run_textBody h
  intro w r hw _
  unfold variantOf
  rw [List.cons_append, run_bind_of_ok (run_token? hw rfl _)]
  refine (run_bind_of_ok (hv r)).trans ?_
  rw [hx, run_pure]

/-! ## The end of the text -/

theorem run_finish {w : List Char} (hw : IsBlanks w) : finish.run w = .ok ((), []) := by
  have hdrop : dropBlanks w = [] := List.dropWhile_eq_nil_iff.2 (List.all_eq_true.1 hw)
  have hblanks : blanks.run w = .ok ((), []) := by
    change Except.ok ((), dropBlanks w) = _
    rw [hdrop]
  have htoken : token?.run w = .ok (none, []) := run_bind_of_ok hblanks
  exact run_bind_of_ok htoken

end LocalizedStrings.Json
