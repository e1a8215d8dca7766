import LocalizedStrings.Entry
import Mathlib.Data.Finset.Card
import Mathlib.Data.List.FinRange

/-!
# Repeated keys, one by one

The search for repeated keys goes through the values once and keeps the first value of each key. A
value is reported if its key has a first value by then, so that the reports of some values do not
change when another one follows.

* `IsFirsts`: what is kept after some values, with `IsFirsts.keep` and `IsFirsts.add` for a step.
* **`repeatsBy_append_singleton`**: what one more value adds.
* `map_snd_repeatsBy_sublist`, `mem_repeatsBy_iff`, `length_repeatsBy_add`: the order of the
  reports, what they are, and how many.
* **`Entry.repeats_exact`**: the reports for entries, by the places of the entries.
-/

namespace LocalizedStrings

section Pass

variable {α β κ : Type} [DecidableEq κ] {key : α → κ} {firsts pre : List α} {a b : α}

/-! ## What is kept -/

/-- The values `firsts` give each key the first value that it has in `pre`. -/
def IsFirsts (key : α → κ) (firsts pre : List α) : Prop :=
  ∀ k, (firsts.find? fun b => key b = k) = pre.find? fun b => key b = k

/-- A value whose key was there before is not kept. -/
theorem IsFirsts.keep (h : IsFirsts key firsts pre)
    (hb : (firsts.find? fun b => key b = key a) = some b) : IsFirsts key firsts (pre ++ [a]) := by
  intro k
  rw [List.find?_append, ← h k]
  by_cases hk : key a = k
  · subst hk
    rw [hb, Option.some_or]
  · rw [List.find?_singleton, if_neg (by simpa using hk), Option.or_none]

/-- A value whose key is new is the first of its key. -/
theorem IsFirsts.add (h : IsFirsts key firsts pre)
    (ha : (firsts.find? fun b => key b = key a) = none) :
    IsFirsts key (a :: firsts) (pre ++ [a]) := by
  intro k
  rw [List.find?_append, List.find?_cons, ← h k]
  by_cases hk : key a = k
  · subst hk
    simp [ha]
  · simp [hk]

theorem repeatsAfter_of_some (h : (firsts.find? fun b => key b = key a) = some b) (as : List α) :
    repeatsAfter key firsts (a :: as) = (b, a) :: repeatsAfter key firsts as := by
  rw [repeatsAfter, h]

theorem repeatsAfter_of_none (h : (firsts.find? fun b => key b = key a) = none) (as : List α) :
    repeatsAfter key firsts (a :: as) = repeatsAfter key (a :: firsts) as := by
  rw [repeatsAfter, h]

/-! ## One more value -/

theorem repeatsAfter_append_singleton (h : IsFirsts key firsts pre) (as : List α) (a : α) :
    repeatsAfter key firsts (as ++ [a]) = repeatsAfter key firsts as ++
      (((pre ++ as).find? fun b => key b = key a).map (·, a)).toList := by
  induction as generalizing firsts pre with
  | nil =>
    rw [List.nil_append, List.append_nil, ← h (key a)]
    cases ha : firsts.find? fun b => key b = key a with
    | some b => exact repeatsAfter_of_some ha []
    | none => exact repeatsAfter_of_none ha []
  | cons c as ih =>
    rw [List.cons_append, List.append_cons pre c as]
    cases hc : firsts.find? fun b => key b = key c with
    | some b =>
      rw [repeatsAfter_of_some hc, repeatsAfter_of_some hc, ih (h.keep hc), List.cons_append]
    | none => rw [repeatsAfter_of_none hc, repeatsAfter_of_none hc, ih (h.add hc)]

/-- **What one more value adds**: it is reported with the first value of its key, if there is
one. -/
theorem repeatsBy_append_singleton (key : α → κ) (as : List α) (a : α) :
    repeatsBy key (as ++ [a]) =
      repeatsBy key as ++ ((as.find? fun b => key b = key a).map (·, a)).toList :=
  repeatsAfter_append_singleton (fun _ => rfl) as a

/-! ## The reports -/

theorem repeatsBy_map (key : α → κ) (f : β → α) (bs : List β) :
    repeatsBy key (bs.map f) = (repeatsBy (key ∘ f) bs).map (Prod.map f f) := by
  induction bs using List.reverseRecOn with
  | nil => rfl
  | append_singleton bs b ih =>
    have hf : ((fun a => decide (key a = key (f b))) ∘ f) =
        fun c => decide ((key ∘ f) c = (key ∘ f) b) := rfl
    rw [List.map_append, List.map_singleton, repeatsBy_append_singleton, repeatsBy_append_singleton,
      ih, List.map_append, List.find?_map, hf]
    cases bs.find? fun c => (key ∘ f) c = (key ∘ f) b <;> rfl

theorem map_snd_repeatsBy_sublist (key : α → κ) (as : List α) :
    ((repeatsBy key as).map Prod.snd).Sublist as := by
  induction as using List.reverseRecOn with
  | nil => exact .slnil
  | append_singleton as a ih =>
    rw [repeatsBy_append_singleton, List.map_append]
    refine ih.append ?_
    cases as.find? fun b => key b = key a with
    | some b => exact .refl _
    | none => exact List.nil_sublist _

/-- **What is reported**: a value and the first one before it that has its key. -/
theorem mem_repeatsBy_iff {as : List α} : (b, a) ∈ repeatsBy key as ↔
    ∃ pre post, as = pre ++ a :: post ∧ (pre.find? fun b => key b = key a) = some b := by
  induction as using List.reverseRecOn with
  | nil => simp [repeatsBy, repeatsAfter]
  | append_singleton as c ih =>
    rw [repeatsBy_append_singleton, List.mem_append, ih, Option.mem_toList,
      Option.map_eq_some_iff]
    constructor
    · rintro (⟨pre, post, rfl, hb⟩ | ⟨b, hb, hc⟩)
      · exact ⟨pre, post ++ [c], by simp, hb⟩
      · cases hc
        exact ⟨as, [], rfl, hb⟩
    · rintro ⟨pre, post, has, hb⟩
      rcases List.eq_nil_or_concat post with rfl | ⟨post, d, rfl⟩
      · obtain ⟨rfl, hc⟩ := List.append_inj' has rfl
        cases hc
        exact .inr ⟨b, hb, rfl⟩
      · rw [List.concat_eq_append, ← List.cons_append, ← List.append_assoc] at has
        exact .inl ⟨pre, post, (List.append_inj' has rfl).1, hb⟩

example : repeatsBy Prod.fst [("a", 1), ("b", 2), ("a", 3), ("a", 4)] =
    [(("a", 1), ("a", 3)), (("a", 1), ("a", 4))] := by decide

/-- **How much is reported**: all but one value of each key. -/
theorem length_repeatsBy_add (key : α → κ) (as : List α) :
    (repeatsBy key as).length + (as.map key).toFinset.card = as.length := by
  induction as using List.reverseRecOn with
  | nil => rfl
  | append_singleton as a ih =>
    have hkeys : ((as ++ [a]).map key).toFinset = insert (key a) (as.map key).toFinset := by
      simp
    rw [repeatsBy_append_singleton, hkeys, List.length_append, List.length_append,
      List.length_singleton]
    cases ha : as.find? fun b => key b = key a with
    | some b =>
      have hmem : key a ∈ (as.map key).toFinset := by
        have hb : key b = key a := by simpa using List.find?_some ha
        rw [List.mem_toFinset, ← hb]
        exact List.mem_map_of_mem (List.mem_of_find?_eq_some ha)
      rw [Finset.insert_eq_of_mem hmem, Option.map_some, Option.toList_some, List.length_singleton]
      omega
    | none =>
      have hmem : key a ∉ (as.map key).toFinset := by
        simpa using ha
      rw [Finset.card_insert_of_notMem hmem, Option.map_none, Option.toList_none, List.length_nil]
      omega

end Pass

/-! ## Places -/

/-- What is reported of a list in increasing order: a value and the least one that has its key. -/
theorem mem_repeatsBy_iff_of_pairwise {ι κ : Type} [LinearOrder ι] [DecidableEq κ] {key : ι → κ}
    {xs : List ι} (hxs : xs.Pairwise (· < ·)) {i j : ι} : (i, j) ∈ repeatsBy key xs ↔
      i ∈ xs ∧ j ∈ xs ∧ i < j ∧ key i = key j ∧ ∀ h ∈ xs, h < i → key h ≠ key j := by
  rw [mem_repeatsBy_iff]
  simp only [List.find?_eq_some_iff_append]
  constructor
  · rintro ⟨_, post, rfl, hi, before, between, rfl, hbefore⟩
    rw [List.append_assoc, List.cons_append] at hxs ⊢
    obtain ⟨-, hrest, -⟩ := List.pairwise_append.1 hxs
    obtain ⟨hafter, -⟩ := List.pairwise_cons.1 hrest
    refine ⟨by simp, by simp, hafter j (by simp), by simpa using hi, fun h hh hlt => ?_⟩
    have hmem : h ∈ before := by
      rcases List.mem_append.1 hh with hh | hh
      · exact hh
      · rcases List.mem_cons.1 hh with rfl | hh
        · exact absurd hlt (lt_irrefl h)
        · exact absurd (hafter h hh) (not_lt_of_gt hlt)
    simpa using hbefore h hmem
  · rintro ⟨hi, hj, hlt, hkey, hleast⟩
    obtain ⟨pre, post, rfl⟩ := List.append_of_mem hj
    obtain ⟨-, hrest, -⟩ := List.pairwise_append.1 hxs
    have hpre : i ∈ pre := by
      rcases List.mem_append.1 hi with hi | hi
      · exact hi
      · rcases List.mem_cons.1 hi with rfl | hi
        · exact absurd hlt (lt_irrefl i)
        · exact absurd ((List.pairwise_cons.1 hrest).1 i hi) (not_lt_of_gt hlt)
    obtain ⟨before, between, rfl⟩ := List.append_of_mem hpre
    refine ⟨_, post, rfl, by simpa using hkey, before, between, rfl, fun h hh => ?_⟩
    rw [List.append_assoc, List.cons_append] at hxs hleast
    have hbefore : h < i := (List.pairwise_append.1 hxs).2.2 h hh i List.mem_cons_self
    simpa using hleast h (List.mem_append_left _ hh) hbefore

/-- **The reports are exact.** Each entry whose key occurred before is reported once, in the order
of the list, with the first entry of this key, and nothing else is. There are as many reports as
there are entries less their different keys. -/
theorem Entry.repeats_exact (es : List Entry) :
    (∃ ps : List (Fin es.length × Fin es.length),
      repeats es = ps.map (fun p => (es[p.1], es[p.2])) ∧
      ps.Pairwise (fun p q => p.2 < q.2) ∧
      ∀ i j, (i, j) ∈ ps ↔ i < j ∧ es[i].key = es[j].key ∧ ∀ h < i, es[h].key ≠ es[j].key) ∧
    (repeats es).length + (es.map Entry.key).toFinset.card = es.length := by
  have hsorted := List.pairwise_lt_finRange es.length
  refine ⟨⟨repeatsBy (fun i => es[i].key) (List.finRange es.length), ?_, ?_, ?_⟩,
    length_repeatsBy_add Entry.key es⟩
  · have hes : (List.finRange es.length).map es.get = es := by
      rw [← List.ofFn_eq_map, List.ofFn_get]
    calc repeats es = repeatsBy Entry.key ((List.finRange es.length).map es.get) := by rw [hes]; rfl
      _ = _ := repeatsBy_map Entry.key es.get _
  · exact List.pairwise_map.1 (hsorted.sublist (map_snd_repeatsBy_sublist _ _))
  · intro i j
    rw [mem_repeatsBy_iff_of_pairwise hsorted]
    simp

end LocalizedStrings
