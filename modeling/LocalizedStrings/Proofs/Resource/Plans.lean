import LocalizedStrings.Proofs.Resource.RoundTrip
import LocalizedStrings.Proofs.Resource.Table

/-!
# Plans and updates

A plan compares the old pairs of a resource file with the pairs of the entries, in the order in
which these were found. An update sorts the entries and writes a line for each, and reading it back
drops the lines that a backslash spoils. Sorting keeps the order of the entries of one key, so that
both agree on the last pair of a key, except where its line is lost.

* `Entry.value?_sorted`: sorting does not change the table.
* `Resource.plan_eq_missing`, `plan_eq_map`, `plan_eq_notText`: what a plan comes to.
* `Resource.value?_ofFile_write`: the table that is read after an update.
* **`Resource.plan_counts_write`**: a plan counts what the update changes.
* **`Resource.isUnchanged_plan_write_iff`**: when an update leaves nothing to a second one.
-/

namespace LocalizedStrings

/-! ## The order of the entries -/

/-- Sorting keeps the last pair of each key, whatever is left out after it. -/
theorem Entry.value?_sorted (es : List Entry) (field : Field) (f : Pair → Bool) (k : String) :
    Pair.value? (((sorted es).map (pair field)).filter f) k =
      Pair.value? ((es.map (pair field)).filter f) k := by
  have hkey : ∀ as : List Entry, (((as.map (pair field)).filter f).filter fun p => p.key = k) =
      (((as.filter fun e => e.key = k).map (pair field)).filter f) := by
    intro as
    rw [List.filter_comm, List.filter_map]
    rfl
  rw [Pair.value?_eq_getLast?, Pair.value?_eq_getLast?, hkey, hkey, filter_key_sorted]

namespace Resource

open Entry Pair

variable {t u : FileTree} {r : Resource}

/-! ## Plans -/

theorem plan_eq_missing (h : ¬ HasFile t r) (es : List Entry) :
    r.plan t es = .error (.missing r.path) := by
  rw [plan, place, not_hasFile_iff.1 h]
  rfl

theorem plan_eq_map (h : HasFile t r) (es : List Entry) :
    r.plan t es = (Pair.ofFile t r.path).map fun old => Entry.plan es r.field old := by
  obtain ⟨p, hp⟩ := hasFile_iff.1 h
  rw [plan, place, hp]
  cases Pair.ofFile t r.path <;> rfl

theorem plan_of_hasFile (h : HasFile t r) (es : List Entry) :
    r.plan t es = match t.readText r.path with
      | .ok text => .ok (Entry.plan es r.field (Pair.ofText text.toList))
      | .error e => .error (.access r.path e) := by
  rw [plan_eq_map h, Pair.ofFile, FileTree.scan_eq]
  cases t.readText r.path <;> rfl

/-- A file that cannot be read holds no text. -/
theorem readText_of_hasFile (h : HasFile t r) :
    (∃ text, t.readText r.path = .ok text) ∨ t.readText r.path = .error .notText := by
  obtain ⟨p, hp⟩ := hasFile_iff.1 h
  obtain ⟨hr, bytes, hb⟩ := FileTree.filePlace?_eq_some_iff.1 hp
  rw [FileTree.readText_of_resolve hr hb]
  cases String.fromUTF8? bytes with
  | none => exact .inr rfl
  | some text => exact .inl ⟨text, rfl⟩

theorem plan_eq_notText (h : HasFile t r) (hr : ¬ ∃ text, t.readText r.path = .ok text)
    (es : List Entry) : r.plan t es = .error (.access r.path .notText) := by
  rw [plan_of_hasFile h, (readText_of_hasFile h).resolve_left hr]

theorem ofFile_of_readText {text : String} (h : t.readText r.path = .ok text) :
    Pair.ofFile t r.path = .ok (Pair.ofText text.toList) := by
  rw [Pair.ofFile, FileTree.scan_eq, h]

theorem plan_of_ofFile (h : HasFile t r) {old : List Pair} (hold : Pair.ofFile t r.path = .ok old)
    (es : List Entry) : r.plan t es = .ok (Plan.ofPairs old (es.map (pair r.field))) := by
  rw [plan_eq_map h, hold]
  rfl

/-! ## Plans before an update and after it -/

/-- An update writes as many entries as any plan for it says. -/
theorem write_eq_entryCount (h : HasFile t r) (es : List Entry) :
    ∃ u, ∀ old, r.write t es =
      .ok ((Plan.ofPairs old (es.map (pair r.field))).entryCount, u) := by
  obtain ⟨p, hp⟩ := hasFile_iff.1 h
  refine ⟨t.replace p (r.bytes es), fun old => ?_⟩
  rw [write_of_filePlace? hp es, Plan.ofPairs, List.length_map]

theorem hasFile_write {es : List Entry} {n : Nat} (hw : r.write t es = .ok (n, u)) :
    HasFile u r := by
  obtain ⟨p, hp, -, rfl⟩ := write_eq_ok_iff.1 hw
  rw [hasFile_of_sameLayout (FileTree.sameLayout_replace t p _)]
  exact hasFile_iff.2 ⟨p, hp⟩

/-- The table that is read after an update: what is lost is left out. -/
theorem value?_ofFile_write {texts : List (String × String)} {n : Nat}
    (hw : r.write t (ofTexts texts) = .ok (n, u)) :
    ∃ new, Pair.ofFile u r.path = .ok new ∧ ∀ k, value? new k =
      value? (((ofTexts texts).map (pair r.field)).filter Pair.endsEven) k :=
  ⟨_, ofFile_write_ofTexts hw, value?_sorted _ _ _⟩

/-- **A plan counts what the update changes.** If the lines of all entries read back, a plan that is
made before the update counts the entries that are written, the keys that the table of the file then
gains and loses, and those whose value changes. -/
theorem plan_counts_write {text : String} (texts : List (String × String)) (hfile : HasFile t r)
    (htext : t.readText r.path = .ok text)
    (heven : ∀ e ∈ ofTexts texts, (e.pair r.field).endsEven) :
    ∃ p old new, r.plan t (ofTexts texts) = .ok p ∧ Pair.ofFile t r.path = .ok old ∧
      (∃ u, r.write t (ofTexts texts) = .ok (p.entryCount, u) ∧ Pair.ofFile u r.path = .ok new) ∧
      p.added = ((table new).keys \ (table old).keys).card ∧
      p.removed = ((table old).keys \ (table new).keys).card ∧
      p.changed = (((table old).keys ∩ (table new).keys).filter
        fun k => (table old).lookup k ≠ (table new).lookup k).card ∧
      (p.isUnchanged ↔ table old = table new) := by
  obtain ⟨u, hw⟩ := write_eq_entryCount hfile (ofTexts texts)
  have hold := ofFile_of_readText htext
  obtain ⟨new, hnew, hvalue⟩ := value?_ofFile_write (hw [])
  have hall : ((ofTexts texts).map (pair r.field)).filter Pair.endsEven =
      (ofTexts texts).map (pair r.field) := by
    rw [List.filter_eq_self, List.forall_mem_map]
    exact heven
  rw [hall] at hvalue
  have htable := table_eq_iff.2 hvalue
  refine ⟨_, _, new, plan_of_ofFile hfile hold _, hold, ⟨u, hw _, hnew⟩, ?_⟩
  rw [htable]
  exact ⟨Plan.added_ofPairs _ _, Plan.removed_ofPairs _ _, Plan.changed_ofPairs _ _,
    Plan.isUnchanged_ofPairs_iff _ _⟩

/-- A file in which a key stands twice. -/
def oldStrings : FileTree := FileTree.empty.add "Localizable.strings" []
  (.file "\"a\" = \"x\";\n\"c\" = \"y\";\n\"a\" = \"z\";\n".toUTF8)

/-- The path of this file, for another language. -/
def commentStrings : Resource := ⟨"Localizable.strings", .comment⟩

/-- A source file in which a key stands twice. -/
def repeatedText : String × String :=
  ("A.swift", "NSLocalizedString(\"a\", comment: \"b\\\\\")\n" ++
    "NSLocalizedString(\"d\", comment: \"e\")\nNSLocalizedString(\"a\", comment: \"f\")")

theorem plan_counts_write_repeated :
    HasFile oldStrings commentStrings ∧
      (∃ text, oldStrings.readText commentStrings.path = .ok text) ∧
      (∀ e ∈ ofTexts [repeatedText], (e.pair commentStrings.field).endsEven) ∧
      ∃ p, commentStrings.plan oldStrings (ofTexts [repeatedText]) = .ok p ∧
        p.added = 1 ∧ p.removed = 1 ∧ p.changed = 1 := by
  have hfile : HasFile oldStrings commentStrings := by decide +kernel
  have hes : ofTexts [repeatedText] = [⟨"a", "b\\\\", "A.swift", 1⟩, ⟨"d", "e", "A.swift", 2⟩,
      ⟨"a", "f", "A.swift", 3⟩] := by decide +kernel
  have heven : ∀ e ∈ ofTexts [repeatedText], (e.pair commentStrings.field).endsEven := by
    rw [hes]
    decide +kernel
  have htext : oldStrings.readText commentStrings.path =
      .ok "\"a\" = \"x\";\n\"c\" = \"y\";\n\"a\" = \"z\";\n" := by
    decide +kernel
  obtain ⟨p, old, new, hp, hold, ⟨u, hw, hnew⟩, hadded, hremoved, hchanged, -⟩ :=
    plan_counts_write [repeatedText] hfile htext heven
  have hold' : old = [⟨"a", "x"⟩, ⟨"c", "y"⟩, ⟨"a", "z"⟩] := by
    rw [ofFile_of_readText htext] at hold
    exact (Except.ok.inj hold).symm.trans (by decide +kernel)
  -- The sorted list is not needed, since the table is that of the entries as they were found.
  obtain ⟨new', hnew', hvalue⟩ := value?_ofFile_write hw
  obtain rfl := Except.ok.inj (hnew.symm.trans hnew')
  rw [hold', table_eq_iff.2 hvalue, hes] at hadded hremoved hchanged
  exact ⟨hfile, ⟨_, htext⟩, heven, p, hp, hadded.trans (by decide +kernel),
    hremoved.trans (by decide +kernel), hchanged.trans (by decide +kernel)⟩

/-- **When an update leaves nothing to a second one.** A plan with the same entries after the update
would remove nothing. It would change nothing at all if the line of the last entry of each key reads
back, and only then. -/
theorem isUnchanged_plan_write_iff (texts : List (String × String)) (hfile : HasFile t r) :
    ∃ u p, r.write t (ofTexts texts) = .ok (p.entryCount, u) ∧ r.plan u (ofTexts texts) = .ok p ∧
      p.removed = 0 ∧
      (p.isUnchanged ↔ ∀ pre e post, ofTexts texts = pre ++ e :: post →
        (∀ x ∈ post, x.key ≠ e.key) → (e.pair r.field).endsEven) := by
  obtain ⟨u, hw⟩ := write_eq_entryCount hfile (ofTexts texts)
  obtain ⟨new, hnew, hvalue⟩ := value?_ofFile_write (hw [])
  refine ⟨u, _, hw new, plan_of_ofFile (hasFile_write (hw [])) hnew _, ?_, ?_⟩
  · rw [Plan.removed_ofPairs, table_eq_iff.2 hvalue, Finset.card_eq_zero,
      Finset.sdiff_eq_empty_iff_subset]
    intro k hk
    rw [mem_keys_table] at hk ⊢
    exact (List.filter_sublist.map _).subset hk
  · rw [Plan.isUnchanged_ofPairs_iff, table_eq_iff.2 hvalue, table_eq_iff, value?_filter_eq_iff]
    constructor
    · intro h pre e post hes hpost
      refine h (pre.map (pair r.field)) _ (post.map (pair r.field)) (by rw [hes]; simp) ?_
      rw [List.forall_mem_map]
      exact hpost
    · intro h pre p post hps hpost
      obtain ⟨pre, rest, hes, rfl, hrest⟩ := List.map_eq_append_iff.1 hps
      obtain ⟨e, post, rfl, rfl, rfl⟩ := List.map_eq_cons_iff.1 hrest
      exact h pre e post hes fun x hx => hpost _ (List.mem_map_of_mem hx)

/-- A source file with a key whose first value is lost and whose last value is not. -/
def shadowedText : String × String :=
  ("A.swift", "NSLocalizedString(\"a\", comment: \"b\\\")\n" ++
    "NSLocalizedString(\"a\", comment: \"c\")")

theorem isUnchanged_plan_write_shadowed :
    HasFile emptyStrings commentStrings ∧
      ∃ u p, commentStrings.write emptyStrings (ofTexts [shadowedText]) = .ok (p.entryCount, u) ∧
        commentStrings.plan u (ofTexts [shadowedText]) = .ok p ∧ p.removed = 0 ∧
        p.isUnchanged := by
  have hfile : HasFile emptyStrings commentStrings := by decide +kernel
  have hes : ofTexts [shadowedText] = [⟨"a", "b\\", "A.swift", 1⟩, ⟨"a", "c", "A.swift", 2⟩] := by
    decide +kernel
  obtain ⟨u, p, hw, hp, hremoved, hiff⟩ := isUnchanged_plan_write_iff [shadowedText] hfile
  refine ⟨hfile, u, p, hw, hp, hremoved, hiff.2 ?_⟩
  rw [hes]
  rintro (_ | ⟨_, _ | ⟨_, pre⟩⟩) e post h hpost
  · obtain ⟨rfl, rfl⟩ := List.cons.inj h
    simp at hpost
  · obtain ⟨rfl, rfl⟩ := List.cons.inj (List.cons.inj h).2
    decide +kernel
  · simp at h

end Resource

end LocalizedStrings
