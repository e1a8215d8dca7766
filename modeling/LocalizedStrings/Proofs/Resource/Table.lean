import Mathlib.Data.Finmap
import LocalizedStrings.Resource

/-!
# The table of a list of pairs

A list of pairs stands for the table that putting in one pair after the other gives: a later pair
takes the place of an earlier one with its key. A plan counts where two tables differ.

* `Pair.table`: the table of a list of pairs.
* `lookup_table`, `toFinset_keys`: its values and its keys.
* `Plan.added_ofPairs`, `removed_ofPairs`, `changed_ofPairs`: what a plan counts.
* **`Plan.isUnchanged_ofPairs_iff`**: nothing would change exactly if the tables are equal.
* **`Pair.value?_filter_eq_iff`**: when leaving pairs out leaves the table as it is.
-/

namespace LocalizedStrings

namespace Pair

/-! ## Values -/

theorem value?_append_singleton (ps : List Pair) (p : Pair) (k : String) :
    value? (ps ++ [p]) k = if p.key = k then some p.value else value? ps k := by
  unfold value?
  rw [List.reverse_concat, List.find?_cons]
  split_ifs with h <;> simp [h]

/-- Only the pairs of a key matter for its value. -/
theorem value?_eq_getLast? (ps : List Pair) (k : String) :
    value? ps k = ((ps.filter fun p => p.key = k).getLast?).map value := by
  rw [value?, List.getLast?_eq_head?_reverse, ← List.filter_reverse, List.head?_filter]

theorem value?_eq_none_iff {ps : List Pair} {k : String} :
    value? ps k = none ↔ ∀ p ∈ ps, p.key ≠ k := by
  simp [value?]

theorem value?_isNone_iff {ps : List Pair} {k : String} :
    (value? ps k).isNone ↔ k ∉ ps.map key := by
  rw [Option.isNone_iff_eq_none, value?_eq_none_iff]
  simp

theorem value?_eq_some_iff {ps : List Pair} {k v : String} :
    value? ps k = some v ↔ ∃ pre post, ps = pre ++ ⟨k, v⟩ :: post ∧ ∀ p ∈ post, p.key ≠ k := by
  constructor
  · intro h
    obtain ⟨⟨k', v'⟩, hp, rfl⟩ := Option.map_eq_some_iff.1 h
    obtain ⟨hk, post, pre, hps, hpost⟩ := List.find?_eq_some_iff_append.1 hp
    obtain rfl : k' = k := by simpa using hk
    refine ⟨pre.reverse, post.reverse, by simpa using congrArg List.reverse hps, ?_⟩
    simpa using hpost
  · rintro ⟨pre, post, rfl, hpost⟩
    have hnone : value? post k = none := value?_eq_none_iff.2 hpost
    rw [value?, Option.map_eq_none_iff] at hnone
    simp [value?, List.find?_append, hnone]

/-- **When leaving pairs out leaves the table as it is.** The last pair of each key has to stay. An
earlier pair that stays in its place is no other pair only if it holds the same value. -/
theorem value?_filter_eq_iff {ps : List Pair} {f : Pair → Bool} :
    (∀ k, value? (ps.filter f) k = value? ps k) ↔
      ∀ pre p post, ps = pre ++ p :: post → (∀ q ∈ post, q.key ≠ p.key) → f p := by
  constructor
  · rintro h pre ⟨k, v⟩ post hps hpost
    have hv : value? ps k = some v := value?_eq_some_iff.2 ⟨pre, post, hps, hpost⟩
    rw [← h k] at hv
    obtain ⟨pre', post', hf, -⟩ := value?_eq_some_iff.1 hv
    have hm : (⟨k, v⟩ : Pair) ∈ ps.filter f := by
      rw [hf]
      exact List.mem_append_right _ List.mem_cons_self
    exact (List.mem_filter.1 hm).2
  · intro h k
    cases hv : value? ps k with
    | none =>
      rw [value?_eq_none_iff] at hv ⊢
      exact fun p hp => hv p (List.mem_filter.1 hp).1
    | some v =>
      obtain ⟨pre, post, rfl, hpost⟩ := value?_eq_some_iff.1 hv
      have hf : f ⟨k, v⟩ := h pre ⟨k, v⟩ post rfl hpost
      refine value?_eq_some_iff.2 ⟨pre.filter f, post.filter f, ?_, ?_⟩
      · rw [List.filter_append, List.filter_cons_of_pos hf]
      · exact fun p hp => hpost p (List.mem_filter.1 hp).1

/-! ## Tables -/

/-- The table of a list of pairs, which are put in one after the other. -/
def table (ps : List Pair) : Finmap fun _ : String => String :=
  ps.foldl (fun m p => m.insert p.key p.value) ∅

theorem table_append_singleton (ps : List Pair) (p : Pair) :
    table (ps ++ [p]) = (table ps).insert p.key p.value := by
  rw [table, List.foldl_append]
  rfl

theorem lookup_table (ps : List Pair) (k : String) : (table ps).lookup k = value? ps k := by
  induction ps using List.reverseRecOn with
  | nil => exact Finmap.lookup_empty k
  | append_singleton ps p ih =>
    rw [table_append_singleton, value?_append_singleton]
    by_cases h : p.key = k
    · subst h
      rw [Finmap.lookup_insert, if_pos rfl]
    · rw [Finmap.lookup_insert_of_ne _ (Ne.symm h), if_neg h, ih]

theorem table_eq_iff {ps qs : List Pair} :
    table ps = table qs ↔ ∀ k, value? ps k = value? qs k := by
  constructor
  · intro h k
    rw [← lookup_table, h, lookup_table]
  · intro h
    apply Finmap.ext_lookup
    intro k
    rw [lookup_table, lookup_table, h]

theorem mem_keys_table {ps : List Pair} {k : String} : k ∈ (table ps).keys ↔ k ∈ ps.map key := by
  rw [Finmap.mem_keys, ← Finmap.lookup_isSome, lookup_table, ← not_iff_not, ← value?_isNone_iff]
  cases value? ps k <;> simp

theorem nodup_eraseDups : ∀ ks : List String, ks.eraseDups.Nodup
  | [] => by simp
  | k :: ks => by
    rw [List.eraseDups_cons, List.nodup_cons]
    refine ⟨fun h => ?_, nodup_eraseDups _⟩
    simpa using List.mem_eraseDups.1 h
termination_by ks => ks.length
decreasing_by
  have := List.length_filter_le (fun l => !l == k) ks
  simp only [List.length_cons]
  omega

theorem toFinset_keys (ps : List Pair) : (keys ps).toFinset = (table ps).keys := by
  ext k
  rw [List.mem_toFinset, keys, List.mem_eraseDups, mem_keys_table]

theorem countP_keys (ps : List Pair) (f : String → Bool) :
    (keys ps).countP f = ((table ps).keys.filter fun k => f k).card := by
  have hn : ((keys ps).filter f).Nodup := (nodup_eraseDups _).filter f
  rw [← toFinset_keys, ← List.toFinset_filter, List.toFinset_card_of_nodup hn,
    List.countP_eq_length_filter]

theorem countP_keys_isNone (ps qs : List Pair) :
    ((keys ps).countP fun k => (value? qs k).isNone) =
      ((table ps).keys \ (table qs).keys).card := by
  rw [countP_keys]
  congr 1
  ext k
  rw [Finset.mem_filter, Finset.mem_sdiff, value?_isNone_iff, ← mem_keys_table]

end Pair

/-! ## Plans -/

namespace Plan

open Pair (table)

variable (old new : List Pair)

theorem added_ofPairs : (ofPairs old new).added = ((table new).keys \ (table old).keys).card :=
  Pair.countP_keys_isNone new old

theorem removed_ofPairs :
    (ofPairs old new).removed = ((table old).keys \ (table new).keys).card :=
  Pair.countP_keys_isNone old new

theorem isChanged_iff (k : String) : isChanged old new k ↔
    k ∈ (table old).keys ∧ k ∈ (table new).keys ∧ (table old).lookup k ≠ (table new).lookup k := by
  simp only [Finmap.mem_keys, ← Finmap.lookup_isSome, Pair.lookup_table]
  unfold isChanged
  cases Pair.value? old k <;> cases Pair.value? new k <;> simp

theorem changed_ofPairs : (ofPairs old new).changed =
    (((table old).keys ∩ (table new).keys).filter
      fun k => (table old).lookup k ≠ (table new).lookup k).card := by
  refine (Pair.countP_keys new _).trans ?_
  congr 1
  ext k
  rw [Finset.mem_filter, isChanged_iff, Finset.mem_filter, Finset.mem_inter]
  tauto

/-- **Nothing would change exactly if the tables are equal.** -/
theorem isUnchanged_ofPairs_iff : (ofPairs old new).isUnchanged ↔ table old = table new := by
  have hzero : (ofPairs old new).isUnchanged ↔ (ofPairs old new).added = 0 ∧
      (ofPairs old new).removed = 0 ∧ (ofPairs old new).changed = 0 := by
    simp [isUnchanged, and_assoc]
  rw [hzero, added_ofPairs, removed_ofPairs, changed_ofPairs]
  constructor
  · rintro ⟨hadded, hremoved, hchanged⟩
    rw [Finset.card_eq_zero, Finset.sdiff_eq_empty_iff_subset] at hadded hremoved
    apply Finmap.ext_lookup
    intro k
    by_cases hk : k ∈ (table old).keys
    · by_contra hne
      have hm : k ∈ ((table old).keys ∩ (table new).keys).filter
          fun k => (table old).lookup k ≠ (table new).lookup k :=
        Finset.mem_filter.2 ⟨Finset.mem_inter.2 ⟨hk, hremoved hk⟩, hne⟩
      rw [Finset.card_eq_zero.1 hchanged] at hm
      exact Finset.notMem_empty k hm
    · have hk' : k ∉ (table new).keys := fun h => hk (hadded h)
      rw [Finmap.mem_keys, ← Finmap.lookup_eq_none] at hk hk'
      rw [hk, hk']
  · intro h
    simp [h]

end Plan

end LocalizedStrings
