import LocalizedStrings.Proofs.Resource.ReadBack
import LocalizedStrings.Proofs.Resource.Updates

/-!
# Reading a resource file after an update

An update succeeds exactly if there is a file, and the file then holds the text that the entries are
rendered to. Reading it gives back the pairs of all entries only if none of them is lost, which the
backslashes at the end of its key and its value decide.

* `Resource.ofFile_write`: what is read after an update.
* **`Resource.ofFile_write_eq_iff`**: when reading gives back what was written.
* `Resource.ofFile_write_backslash`: a key that is lost.
-/

namespace LocalizedStrings.Resource

open Entry

theorem ofFile_write {r : Resource} {t u : FileTree} {es : List Entry} {n : Nat}
    (h : r.write t es = .ok (n, u)) :
    Pair.ofFile u r.path = .ok (Pair.ofText (render es r.field).toList) := by
  obtain ⟨p, hp, rfl, rfl⟩ := write_eq_ok_iff.1 h
  rw [Pair.ofFile, FileTree.scan_eq, bytes, FileTree.readText_replace hp]

theorem ofFile_write_ofTexts {r : Resource} {t u : FileTree} {texts : List (String × String)}
    {n : Nat} (h : r.write t (ofTexts texts) = .ok (n, u)) :
    Pair.ofFile u r.path =
      .ok (((sorted (ofTexts texts)).map (pair r.field)).filter Pair.endsEven) := by
  rw [ofFile_write h, toList_render, Pair.ofText_flatMap_line fun _ => isInline_sorted]

/-- **When reading gives back what was written.** An update of a file with extracted entries
succeeds and writes all of them. Reading then gives the pairs of all entries, sorted by key, if the
key and the value of each of them end in an even number of backslashes, and only then. -/
theorem ofFile_write_eq_iff (t : FileTree) (r : Resource) (texts : List (String × String))
    (h : HasFile t r) :
    ∃ u, r.write t (ofTexts texts) = .ok ((ofTexts texts).length, u) ∧
      IsSortOf (sorted (ofTexts texts)) (ofTexts texts) ∧
      (Pair.ofFile u r.path = .ok ((sorted (ofTexts texts)).map (pair r.field)) ↔
        ∀ e ∈ ofTexts texts, (e.pair r.field).endsEven) := by
  obtain ⟨p, hp⟩ := hasFile_iff.1 h
  have hw := write_of_filePlace? hp (ofTexts texts)
  refine ⟨_, hw, isSortOf_sorted _, ?_⟩
  rw [ofFile_write_ofTexts hw, Except.ok.injEq, List.filter_eq_self]
  constructor
  · intro hall e he
    exact hall _ (List.mem_map_of_mem ((sorted_perm _).mem_iff.2 he))
  · intro hall q hq
    obtain ⟨e, he, rfl⟩ := List.mem_map.1 hq
    exact hall e ((sorted_perm _).mem_iff.1 he)

/-! ## A key that is lost -/

/-- A tree with one file, which is empty. -/
def emptyStrings : FileTree := FileTree.empty.add "Localizable.strings" [] (.file .empty)

/-- The path of this file, for the base language. -/
def baseStrings : Resource := ⟨"Localizable.strings", .base⟩

/-- A source file with a plain key. -/
def plainText : String × String := ("A.swift", "NSLocalizedString(\"a\", comment: \"b\")")

/-- A source file with a key that ends in a backslash. -/
def backslashText : String × String := ("A.swift", "NSLocalizedString(\"a\\\", comment: \"b\")")

theorem ofFile_write_plain :
    HasFile emptyStrings baseStrings ∧
      ∃ u, baseStrings.write emptyStrings (ofTexts [plainText]) = .ok (1, u) ∧
        Pair.ofFile u baseStrings.path = .ok [⟨"a", "a"⟩] := by
  have h : HasFile emptyStrings baseStrings := by decide
  obtain ⟨u, hw, -, hr⟩ := ofFile_write_eq_iff emptyStrings baseStrings [plainText] h
  have hs : (sorted (ofTexts [plainText])).map (pair baseStrings.field) = [⟨"a", "a"⟩] := by
    decide +kernel
  rw [hs] at hr
  have hlength : (ofTexts [plainText]).length = 1 := by decide +kernel
  exact ⟨h, u, hlength ▸ hw, hr.2 (by decide +kernel)⟩

/-- **A key that is lost.** It ends in one backslash. The update succeeds, and nothing is read. -/
theorem ofFile_write_backslash :
    ∃ u, baseStrings.write emptyStrings (ofTexts [backslashText]) = .ok (1, u) ∧
      (sorted (ofTexts [backslashText])).map (pair baseStrings.field) = [⟨"a\\", "a\\"⟩] ∧
      Pair.ofFile u baseStrings.path = .ok [] := by
  obtain ⟨p, hp⟩ := hasFile_iff.1 (show HasFile emptyStrings baseStrings by decide)
  have hw := write_of_filePlace? hp (ofTexts [backslashText])
  have hs : (sorted (ofTexts [backslashText])).map (pair baseStrings.field) =
      [⟨"a\\", "a\\"⟩] := by decide +kernel
  have hlength : (ofTexts [backslashText]).length = 1 := by decide +kernel
  refine ⟨_, hlength ▸ hw, hs, ?_⟩
  rw [ofFile_write_ofTexts hw, hs]
  rfl

end LocalizedStrings.Resource
