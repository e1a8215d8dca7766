import LocalizedStrings.Proofs.Resource.RoundTrip
import Mathlib.Data.List.Basic

/-!
# What a resource file tells of its entries

A resource file has a line for each entry, by key. Neither keys nor texts hold a quote, so that the
file can be cut into lines and these into their parts in one way only, even where a key or a text
holds line feeds. All that the file does not tell of its keys and texts is how those of different
keys stood among each other.

* `Text.append_quote_inj`, **`Pair.flatMap_line_inj`**: quotes tell pairs apart.
* **`eq_of_filter_key`**: what is sorted by key is known from what it has of each key.
* **`Entry.render_lines`**: the lines of a resource file, their order and their number.
* `Entry.IsExtracted`, `Entry.valuesOf`: entries of a line of source, such as those of a text
  (`isExtracted_of_mem_ofText`), and their texts for a key.
* **`Entry.render_eq_iff`**: the entries that are rendered to one text.
-/

namespace LocalizedStrings

open Text

/-! ## Quotes -/

/-- A text without quotes is told from what comes after it by the quote that ends it. -/
theorem Text.append_quote_inj {a b r s : List Char} (ha : '"' ∉ a) (hb : '"' ∉ b)
    (h : a ++ '"' :: r = b ++ '"' :: s) : a = b ∧ r = s := by
  induction a generalizing b with
  | nil =>
    cases b with
    | nil => exact ⟨rfl, (List.cons.inj h).2⟩
    | cons d b => exact absurd (List.cons.inj h).1 fun e => hb (e ▸ List.mem_cons_self)
  | cons c a ih =>
    cases b with
    | nil => exact absurd (List.cons.inj h).1 fun e => ha (e ▸ List.mem_cons_self)
    | cons d b =>
      obtain ⟨hcd, h⟩ := List.cons.inj h
      obtain ⟨hab, hrs⟩ := ih (fun hm => ha (List.mem_cons_of_mem _ hm))
        (fun hm => hb (List.mem_cons_of_mem _ hm)) h
      exact ⟨by rw [hcd, hab], hrs⟩

namespace Pair

/-- Neither the key nor the value holds a quote. -/
structure IsQuoteFree (p : Pair) : Prop where
  key : '"' ∉ p.key.toList
  value : '"' ∉ p.value.toList

theorem line_append_inj {p q : Pair} {r s : List Char} (hp : p.IsQuoteFree) (hq : q.IsQuoteFree)
    (h : p.line ++ r = q.line ++ s) : p = q ∧ r = s := by
  -- The quotes that end the key and the value stand in the same places in both lines.
  simp only [line_eq, text, afterKey, List.cons_append, List.append_assoc, List.nil_append] at h
  obtain ⟨hkey, h⟩ := append_quote_inj hp.key hq.key (List.cons.inj h).2
  simp only [List.cons.injEq, true_and] at h
  obtain ⟨hvalue, hrest⟩ := append_quote_inj hp.value hq.value h
  simp only [List.cons.injEq, true_and] at hrest
  exact ⟨eq_of_key_of_value (String.toList_inj.1 hkey) (String.toList_inj.1 hvalue), hrest⟩

/-- **The text of some lines tells their pairs.** -/
theorem flatMap_line_inj {ps qs : List Pair} (hps : ∀ p ∈ ps, p.IsQuoteFree)
    (hqs : ∀ q ∈ qs, q.IsQuoteFree) (h : ps.flatMap line = qs.flatMap line) : ps = qs := by
  induction ps generalizing qs with
  | nil =>
    cases qs with
    | nil => rfl
    | cons q qs => simp [line] at h
  | cons p ps ih =>
    cases qs with
    | nil => simp [line] at h
    | cons q qs =>
      obtain ⟨hp, hps⟩ := List.forall_mem_cons.1 hps
      obtain ⟨hq, hqs⟩ := List.forall_mem_cons.1 hqs
      rw [List.flatMap_cons, List.flatMap_cons] at h
      obtain ⟨hpq, h⟩ := line_append_inj hp hq h
      rw [hpq, ih hps hqs h]

end Pair

/-! ## Order -/

section Order

variable {α : Type} {key : α → String}

theorem utf8Le_head {a b : α} {as : List α}
    (h : (a :: as).Pairwise fun a b => utf8Le (key a) (key b) = true) (hb : b ∈ a :: as) :
    utf8Le (key a) (key b) = true := by
  rcases List.mem_cons.1 hb with rfl | hb
  · simpa using utf8Le_total (key b) (key b)
  · exact (List.pairwise_cons.1 h).1 b hb

/-- **What is sorted by key is known from what it has of each key**, in order. -/
theorem eq_of_filter_key {as bs : List α}
    (has : as.Pairwise fun a b => utf8Le (key a) (key b) = true)
    (hbs : bs.Pairwise fun a b => utf8Le (key a) (key b) = true)
    (h : ∀ k, (as.filter fun a => key a = k) = bs.filter fun b => key b = k) : as = bs := by
  induction as generalizing bs with
  | nil =>
    cases bs with
    | nil => rfl
    | cons b bs => simpa using h (key b)
  | cons a as ih =>
    cases bs with
    | nil => simpa using h (key a)
    | cons b bs =>
      have hmem : ∀ c, c ∈ a :: as ↔ c ∈ b :: bs := fun c => by
        have hc : c ∈ (a :: as).filter (fun x => key x = key c) ↔
            c ∈ (b :: bs).filter fun x => key x = key c := by rw [h]
        simpa [List.mem_filter] using hc
      have hkey : key a = key b :=
        utf8Le_antisymm (utf8Le_head has ((hmem b).2 List.mem_cons_self))
          (utf8Le_head hbs ((hmem a).1 List.mem_cons_self))
      -- Both lists start with the first value of the least key.
      have hfirst := h (key a)
      rw [List.filter_cons_of_pos (by simp), List.filter_cons_of_pos (by simp [hkey])] at hfirst
      obtain ⟨rfl, -⟩ := List.cons.inj hfirst
      rw [ih has.of_cons hbs.of_cons fun k => ?_]
      have hk := h k
      by_cases hak : key a = k
      · rw [List.filter_cons_of_pos (by simp [hak]), List.filter_cons_of_pos (by simp [hak])] at hk
        exact (List.cons.inj hk).2
      · rwa [List.filter_cons_of_neg (by simp [hak]), List.filter_cons_of_neg (by simp [hak])] at hk

end Order

namespace Entry

variable {es fs : List Entry} {field : Field}

/-! ## Lines -/

theorem toList_line (p : Pair) :
    ("\"" ++ p.key ++ "\" = \"" ++ p.value ++ "\";\n").toList = p.line := by
  simp [Pair.line]

theorem render_eq_join (es : List Entry) (field : Field) :
    render es field = String.join ((sorted es).map fun e =>
      "\"" ++ e.key ++ "\" = \"" ++ e.value field ++ "\";\n") := by
  rw [← String.toList_inj, toList_render, String.toList_join, List.flatMap_map, List.flatMap_map]
  exact List.flatMap_congr fun e _ => (toList_line (e.pair field)).symm

theorem length_lines_render
    (h : ∀ e ∈ es, '\n' ∉ e.key.toList ∧ '\n' ∉ (e.value field).toList) :
    (Text.lines (render es field).toList).length = es.length := by
  have hpairs : ∀ p ∈ (sorted es).map (pair field),
      '\n' ∉ p.key.toList ∧ '\n' ∉ p.value.toList := by
    intro p hp
    obtain ⟨e, he, rfl⟩ := List.mem_map.1 hp
    exact h e ((sorted_perm es).mem_iff.1 he)
  rw [toList_render, Pair.lines_flatMap_line_of_notMem hpairs, List.length_map, List.length_map,
    (sorted_perm es).length_eq]

/-- **The lines of a resource file.** There is one for each entry, by key and for one key in the
order of the entries. If no key and no text holds a line feed, these are all lines of the file, both
as it is rendered and as it is read after an update, which gives their number. -/
theorem render_lines (es : List Entry) (field : Field) :
    ∃ as, IsSortOf as es ∧
      render es field = String.join (as.map fun e =>
        "\"" ++ e.key ++ "\" = \"" ++ e.value field ++ "\";\n") ∧
      ((∀ e ∈ es, '\n' ∉ e.key.toList ∧ '\n' ∉ (e.value field).toList) →
        (Text.lines (render es field).toList).length = es.length ∧
        ∀ (r : Resource) t n u, r.field = field → r.write t es = .ok (n, u) →
          (Text.lines (render es field).toList).length = n ∧
            ∃ text, u.readText r.path = .ok text ∧ (Text.lines text.toList).length = n) := by
  refine ⟨sorted es, isSortOf_sorted es, render_eq_join es field, fun h => ?_⟩
  refine ⟨length_lines_render h, ?_⟩
  rintro r t n u rfl hw
  obtain ⟨p, hp, rfl, rfl⟩ := Resource.write_eq_ok_iff.1 hw
  exact ⟨length_lines_render h, _, FileTree.readText_replace hp _, length_lines_render h⟩

/-- Entries with a key that occurs again. -/
def repeatedKeys : List Entry :=
  [⟨"é", "1", "A.swift", 1⟩, ⟨"z", "2", "A.swift", 2⟩, ⟨"é", "3", "A.swift", 3⟩]

theorem render_lines_repeatedKeys :
    (Text.lines (render repeatedKeys .comment).toList).length = 3 ∧
      ∃ u text, Resource.write ⟨"Localizable.strings", .comment⟩ Resource.emptyStrings
          repeatedKeys = .ok (3, u) ∧
        u.readText "Localizable.strings" = .ok text ∧ (Text.lines text.toList).length = 3 := by
  obtain ⟨-, -, -, hlines⟩ := render_lines repeatedKeys .comment
  obtain ⟨hrender, hwrite⟩ := hlines (by decide +kernel)
  have hfile : Resource.HasFile Resource.emptyStrings ⟨"Localizable.strings", .comment⟩ := by
    decide
  obtain ⟨p, hp⟩ := Resource.hasFile_iff.1 hfile
  have hw := Resource.write_of_filePlace? hp repeatedKeys
  obtain ⟨-, text, hread, hlength⟩ := hwrite _ _ _ _ rfl hw
  exact ⟨hrender, _, text, hw, hread, hlength⟩

/-! ## Extracted entries -/

/-- The entry is one of those of a line of source, which may hold line feeds. -/
def IsExtracted (e : Entry) : Prop := ∃ line, e ∈ ofLine e.file line e.line

/-- The texts of a key for a field, in the order of its entries. -/
def valuesOf (es : List Entry) (field : Field) (k : String) : List String :=
  (es.filter fun e => e.key = k).map (value · field)

theorem isExtracted_of_mem_ofLine {file : String} {line : List Char} {n : Nat} {e : Entry}
    (h : e ∈ ofLine file line n) : IsExtracted e := by
  obtain ⟨-, -, -, -, -, -, rfl, rfl⟩ := mem_ofLine h
  exact ⟨line, h⟩

theorem isExtracted_of_mem_ofText {file : String} {text : List Char} {e : Entry}
    (h : e ∈ ofText file text) : IsExtracted e := by
  obtain ⟨line, n, -, he⟩ := Text.mem_onLines.1 h
  exact isExtracted_of_mem_ofLine he

theorem isQuoteFree_of_isExtracted {e : Entry} (h : IsExtracted e) (field : Field) :
    (e.pair field).IsQuoteFree := by
  obtain ⟨line, h⟩ := h
  obtain ⟨-, -, hkey, hcomment, -⟩ := mem_ofLine h
  cases field with
  | base => exact ⟨hkey, hkey⟩
  | comment => exact ⟨hkey, hcomment⟩

theorem map_filter_pair (as : List Entry) (field : Field) (k : String) :
    ((as.map (pair field)).filter fun p => p.key = k) =
      (as.filter fun e => e.key = k).map (pair field) := by
  rw [List.filter_map]
  rfl

theorem filter_key_pairs (es : List Entry) (field : Field) (k : String) :
    (((sorted es).map (pair field)).filter fun p => p.key = k) =
      (valuesOf es field k).map fun v => ⟨k, v⟩ := by
  rw [map_filter_pair, filter_key_sorted, valuesOf, List.map_map]
  refine List.map_congr_left fun e he => ?_
  rw [pair, key_of_mem_filter he]
  rfl

theorem map_pair_sorted_eq_iff : (sorted es).map (pair field) = (sorted fs).map (pair field) ↔
    ∀ k, valuesOf es field k = valuesOf fs field k := by
  constructor
  · intro h k
    have hk := congrArg (List.filter fun p => p.key = k) h
    rw [filter_key_pairs, filter_key_pairs] at hk
    exact (List.map_inj_right fun v w hvw => (Pair.mk.inj hvw).2).1 hk
  · intro h
    have hsorted : ∀ es : List Entry, ((sorted es).map (pair field)).Pairwise
        fun p q => utf8Le p.key q.key = true := fun es => List.pairwise_map.2 (pairwise_sorted es)
    refine eq_of_filter_key (hsorted es) (hsorted fs) fun k => ?_
    rw [filter_key_pairs, filter_key_pairs, h]

/-- A key has one text, perhaps several times, if this is the key itself or the keys differ. -/
theorem pairwise_valuesOf (h : field = .base ∨ (es.map key).Nodup) (k : String) :
    (valuesOf es field k).Pairwise (· = ·) := by
  rw [valuesOf, List.pairwise_map]
  rcases h with rfl | h
  · refine List.pairwise_of_forall_mem_list fun a ha b hb => ?_
    exact (key_of_mem_filter ha).trans (key_of_mem_filter hb).symm
  · refine ((List.pairwise_map.1 h).filter _).imp_of_mem fun {a b} ha hb hne => ?_
    exact absurd ((key_of_mem_filter ha).trans (key_of_mem_filter hb).symm) hne

theorem valuesOf_eq_of_perm (hperm : fs.Perm es) (h : field = .base ∨ (es.map key).Nodup)
    (k : String) : valuesOf fs field k = valuesOf es field k := by
  have hvalues : (valuesOf fs field k).Perm (valuesOf es field k) := (hperm.filter _).map _
  have hsame := pairwise_valuesOf h k
  refine hvalues.eq_of_pairwise (fun _ _ _ _ hvw _ => hvw) ?_ hsame
  exact (hvalues.pairwise_iff fun hvw => hvw.symm).2 hsame

theorem isQuoteFree_sorted (hes : ∀ e ∈ es, IsExtracted e) (field : Field) :
    ∀ p ∈ (sorted es).map (pair field), p.IsQuoteFree := by
  intro p hp
  obtain ⟨e, he, rfl⟩ := List.mem_map.1 hp
  exact isQuoteFree_of_isExtracted (hes e ((sorted_perm es).mem_iff.1 he)) field

/-- **The entries that are rendered to one text.** Extracted entries are rendered to one text if
and only if each key has the same texts in the same order. So the order of the entries makes no
difference for the base language, and for the other one if no key is repeated. -/
theorem render_eq_iff (field : Field) (hes : ∀ e ∈ es, IsExtracted e)
    (hfs : ∀ e ∈ fs, IsExtracted e) :
    (render es field = render fs field ↔ ∀ k, valuesOf es field k = valuesOf fs field k) ∧
    ∀ gs : List Entry, gs.Perm es → (field = .base ∨ (es.map key).Nodup) →
      render gs field = render es field := by
  have hpairs : render es field = render fs field ↔
      (sorted es).map (pair field) = (sorted fs).map (pair field) := by
    rw [← String.toList_inj, toList_render, toList_render]
    exact ⟨Pair.flatMap_line_inj (isQuoteFree_sorted hes field) (isQuoteFree_sorted hfs field),
      congrArg _⟩
  refine ⟨hpairs.trans map_pair_sorted_eq_iff, fun gs hperm h => ?_⟩
  rw [← String.toList_inj, toList_render, toList_render,
    map_pair_sorted_eq_iff.2 (valuesOf_eq_of_perm hperm h)]

/-- The entries of two calls, the first of which holds a line feed in its key. -/
def twoCalls : List Entry :=
  ofLine "A.swift" ("NSLocalizedString(\"a\nb\", comment: \"x\")" ++
    "NSLocalizedString(\"a\", comment: \"y\")").toList 1

theorem render_eq_iff_twoCalls :
    (∀ e ∈ twoCalls, IsExtracted e) ∧ (∀ e ∈ twoCalls.reverse, IsExtracted e) ∧
      twoCalls.map key = ["a\nb", "a"] ∧
      render twoCalls.reverse .comment = render twoCalls .comment ∧
      ∀ k, valuesOf twoCalls .comment k = valuesOf twoCalls.reverse .comment k := by
  have hes : ∀ e ∈ twoCalls, IsExtracted e := fun e => isExtracted_of_mem_ofLine
  have hfs : ∀ e ∈ twoCalls.reverse, IsExtracted e := fun e he => hes e (List.mem_reverse.1 he)
  have hkeys : twoCalls.map key = ["a\nb", "a"] := by decide +kernel
  obtain ⟨hiff, hperm⟩ := render_eq_iff .comment hes hfs
  have hnodup : (twoCalls.map key).Nodup := by
    rw [hkeys]
    decide
  have hrender := hperm twoCalls.reverse (List.reverse_perm twoCalls) (.inr hnodup)
  exact ⟨hes, hfs, hkeys, hrender, hiff.1 hrender.symm⟩

end Entry

end LocalizedStrings
