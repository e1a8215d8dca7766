import LocalizedStrings.Proofs.FileTree.Layout
import LocalizedStrings.Resource
import Mathlib.Data.List.Find
import Mathlib.Data.List.TakeWhile

/-!
# Updates of resource files

An update needs a file. Updates keep the layout of the tree, so that which paths lead to files, and
where, is the same before the first update and after the last one. Several paths may lead to one
file; the last of them decides what it holds.

* `Resource.HasFile`: there is a file to update.
* `Resource.write_eq_ok_iff`, `Resource.write_eq_missing`: what an update comes to.
* `Resource.IsUpdated`: a tree after some updates, which **`IsUpdated.node?_eq`** pins down.
* **`IsUpdated.unique`**, **`IsUpdated.trans`**: trees after the same updates, and after others.
* `IsUpdated.readText_of_sameFile`, `readText_of_not_sameFile`, `lookup_eq`: what is read after some
  updates.
* **`Resource.writeAll_eq`**: what all updates come to.
-/

namespace LocalizedStrings.Resource

open FileTree (SameFile SameLayout)

/-! ## One update -/

/-- There is a file at the path of the resource file. -/
def HasFile (t : FileTree) (r : Resource) : Prop := (t.filePlace? r.path).isSome

instance (t : FileTree) (r : Resource) : Decidable (HasFile t r) :=
  inferInstanceAs (Decidable (_ = true))

theorem hasFile_iff {t : FileTree} {r : Resource} :
    HasFile t r ↔ ∃ p, t.filePlace? r.path = some p := Option.isSome_iff_exists

theorem not_hasFile_iff {t : FileTree} {r : Resource} :
    ¬ HasFile t r ↔ t.filePlace? r.path = none := by
  rw [HasFile, Option.not_isSome_iff_eq_none]

theorem hasFile_of_sameLayout {t u : FileTree} (h : SameLayout t u) (r : Resource) :
    HasFile u r ↔ HasFile t r := by
  rw [HasFile, HasFile, h.filePlace?]

theorem write_of_filePlace? {r : Resource} {t : FileTree} {p : Place}
    (h : t.filePlace? r.path = some p) (es : List Entry) :
    r.write t es = .ok (es.length, t.replace p (r.bytes es)) := by
  rw [write, place, h]
  rfl

theorem write_eq_missing {r : Resource} {t : FileTree} (h : ¬ HasFile t r) (es : List Entry) :
    r.write t es = .error (.missing r.path) := by
  rw [write, place, not_hasFile_iff.1 h]
  rfl

theorem write_eq_ok_iff {r : Resource} {t u : FileTree} {es : List Entry} {n : Nat} :
    r.write t es = .ok (n, u) ↔
      ∃ p, t.filePlace? r.path = some p ∧ es.length = n ∧ t.replace p (r.bytes es) = u := by
  by_cases h : HasFile t r
  · obtain ⟨p, hp⟩ := hasFile_iff.1 h
    simp [write_of_filePlace? hp, hp]
  · simp [write_eq_missing h, not_hasFile_iff.1 h]

/-! ## Several updates -/

/-- `u` is the tree `t` after updates of the resource files `rs` with the entries `es`. Its layout
is that of `t`. A file to which one of the paths leads holds the text of the last such resource
file, and all else is as it was. -/
structure IsUpdated (t : FileTree) (es : List Entry) (rs : List Resource) (u : FileTree) :
    Prop where
  layout : SameLayout t u
  written : ∀ pre r post p, rs = pre ++ r :: post → t.filePlace? r.path = some p →
    (∀ q ∈ post, t.filePlace? q.path ≠ some p) → u.node? p = some (.file (r.bytes es))
  kept : ∀ p, (∀ r ∈ rs, t.filePlace? r.path ≠ some p) → u.node? p = t.node? p

/-- The last of the resource files that lead to the place. -/
def last? (t : FileTree) (rs : List Resource) (p : Place) : Option Resource :=
  rs.reverse.find? fun r => t.filePlace? r.path = some p

theorem last?_eq_none_iff {t : FileTree} {rs : List Resource} {p : Place} :
    last? t rs p = none ↔ ∀ r ∈ rs, t.filePlace? r.path ≠ some p := by
  simp [last?]

theorem last?_eq_some_iff {t : FileTree} {rs : List Resource} {p : Place} {r : Resource} :
    last? t rs p = some r ↔ t.filePlace? r.path = some p ∧
      ∃ pre post, rs = pre ++ r :: post ∧ ∀ q ∈ post, t.filePlace? q.path ≠ some p := by
  rw [last?, List.find?_eq_some_iff_append]
  constructor
  · rintro ⟨hr, post, pre, hrs, hpost⟩
    refine ⟨by simpa using hr, pre.reverse, post.reverse, ?_, by simpa using hpost⟩
    simpa using congrArg List.reverse hrs
  · rintro ⟨hr, pre, post, rfl, hpost⟩
    exact ⟨by simpa using hr, post.reverse, pre.reverse, by simp, by simpa using hpost⟩

namespace IsUpdated

variable {t u : FileTree} {es : List Entry} {rs : List Resource}

theorem nil (t : FileTree) (es : List Entry) : IsUpdated t es [] t where
  layout := .refl t
  written pre r post p h := by
    have := congrArg List.length h
    simp at this
  kept _ _ := rfl

/-- **A step.** An update and those after it amount to the updates of all. -/
theorem cons {r : Resource} {p : Place} (hp : t.filePlace? r.path = some p)
    (h : IsUpdated (t.replace p (r.bytes es)) es rs u) : IsUpdated t es (r :: rs) u := by
  have hl := FileTree.sameLayout_replace t p (r.bytes es)
  refine ⟨hl.trans h.layout, fun pre s post q hs hq hpost => ?_, fun q hq => ?_⟩
  · -- Either the first file is the last to be written at its place, or a later one is.
    rcases List.cons_eq_append_iff.1 hs with ⟨rfl, hs⟩ | ⟨pre, rfl, rfl⟩
    · obtain ⟨rfl, rfl⟩ := List.cons.inj hs
      rw [hp] at hq
      cases hq
      rw [h.kept p fun s hm => by rw [hl.filePlace?]; exact hpost s hm]
      exact FileTree.node?_replace_self hp _
    · refine h.written pre s post q rfl ?_ fun x hx => ?_
      · rw [hl.filePlace?, hq]
      · rw [hl.filePlace?]
        exact hpost x hx
  · have hne : q ≠ p := fun e => hq r List.mem_cons_self (by rw [hp, e])
    rw [h.kept q fun s hs => by rw [hl.filePlace?]; exact hq s (List.mem_cons_of_mem _ hs)]
    exact FileTree.node?_replace_of_ne hne _

/-- **The last update decides.** -/
theorem node?_eq (h : IsUpdated t es rs u) (p : Place) :
    u.node? p = match last? t rs p with
      | some r => some (.file (r.bytes es))
      | none => t.node? p := by
  cases hl : last? t rs p with
  | none => exact h.kept p (last?_eq_none_iff.1 hl)
  | some r =>
    obtain ⟨hr, pre, post, hrs, hpost⟩ := last?_eq_some_iff.1 hl
    exact h.written pre r post p hrs hr hpost

/-- **Nothing is left open.** The tree after some updates is the same at each place. -/
theorem unique {v : FileTree} (h : IsUpdated t es rs u) (h' : IsUpdated t es rs v) (p : Place) :
    v.node? p = u.node? p := by
  rw [h.node?_eq, h'.node?_eq]

/-- **Later updates of the same resource files** undo the ones before. -/
theorem trans {es' : List Entry} {v : FileTree} (h : IsUpdated t es rs u)
    (h' : IsUpdated u es' rs v) : IsUpdated t es' rs v where
  layout := h.layout.trans h'.layout
  written pre r post p hrs hr hpost := h'.written pre r post p hrs
    (by rw [h.layout.filePlace?, hr]) fun q hq => by rw [h.layout.filePlace?]; exact hpost q hq
  kept p hp := by
    rw [h'.kept p fun r hr => by rw [h.layout.filePlace?]; exact hp r hr, h.kept p hp]

/-- Where no resource file is, no text changes. -/
theorem readText_of_not_sameFile (h : IsUpdated t es rs u) {path : String}
    (hno : ∀ r ∈ rs, ¬ SameFile t r.path path) : u.readText path = t.readText path :=
  h.layout.readText fun p hp => h.kept p fun r hr hrp => hno r hr ⟨p, hrp, hp⟩

/-- Where a resource file is, the text of a resource file is read. -/
theorem readText_of_sameFile (h : IsUpdated t es rs u) {r : Resource} (hr : r ∈ rs) {path : String}
    (hs : SameFile t r.path path) : ∃ q ∈ rs, u.readText path = .ok (Entry.render es q.field) := by
  obtain ⟨p, hrp, hp⟩ := hs
  have hn := h.node?_eq p
  cases hl : last? t rs p with
  | none => exact absurd hrp (last?_eq_none_iff.1 hl r hr)
  | some q =>
    obtain ⟨-, pre, post, hrs, -⟩ := last?_eq_some_iff.1 hl
    have hres := (h.layout.resolve path).trans (FileTree.filePlace?_eq_some_iff.1 hp).1
    rw [hl] at hn
    refine ⟨q, by simp [hrs], ?_⟩
    rw [FileTree.readText_of_resolve hres hn, bytes, FileTree.fromUTF8?_toUTF8]

end IsUpdated

/-- **What all updates come to.** They stop at the first resource file that is missing, and those
before it are updated, each with all entries. -/
theorem writeAll_eq (t : FileTree) (es : List Entry) (rs : List Resource) :
    (writeAll t es rs).written = (rs.takeWhile (HasFile t ·)).map (fun r => (r, es.length)) ∧
      (writeAll t es rs).failure? =
        (rs.find? fun r => ¬ HasFile t r).map (fun r => .missing r.path) ∧
      IsUpdated t es (rs.takeWhile (HasFile t ·)) (writeAll t es rs).tree := by
  induction rs generalizing t with
  | nil => exact ⟨rfl, rfl, .nil t es⟩
  | cons r rs ih =>
    by_cases h : HasFile t r
    · obtain ⟨p, hp⟩ := hasFile_iff.1 h
      have hl := FileTree.sameLayout_replace t p (r.bytes es)
      obtain ⟨hw, hf, hu⟩ := ih (t.replace p (r.bytes es))
      simp only [hasFile_of_sameLayout hl] at hw hf hu
      rw [writeAll, write_of_filePlace? hp, List.takeWhile_cons, List.find?_cons]
      simp only [h, not_true, decide_true, decide_false, if_true]
      exact ⟨congrArg ((r, es.length) :: ·) hw, hf, hu.cons hp⟩
    · simp [writeAll, write_eq_missing h, h, IsUpdated.nil]

theorem takeWhile_hasFile {t : FileTree} {rs : List Resource} (h : ∀ r ∈ rs, HasFile t r) :
    rs.takeWhile (HasFile t ·) = rs :=
  List.takeWhile_eq_self_iff.2 fun r hr => decide_eq_true (h r hr)

theorem takeWhile_append_missing {t : FileTree} {pre post : List Resource} {r : Resource}
    (hpre : ∀ q ∈ pre, HasFile t q) (hr : ¬ HasFile t r) :
    (pre ++ r :: post).takeWhile (HasFile t ·) = pre := by
  rw [List.takeWhile_append_of_pos fun q hq => decide_eq_true (hpre q hq),
    List.takeWhile_cons_of_neg (by simpa using hr), List.append_nil]

theorem find?_append_missing {t : FileTree} {pre post : List Resource} {r : Resource}
    (hpre : ∀ q ∈ pre, HasFile t q) (hr : ¬ HasFile t r) :
    ((pre ++ r :: post).find? fun r => ¬ HasFile t r) = some r :=
  List.find?_eq_some_iff_append.2
    ⟨decide_eq_true hr, pre, post, rfl, fun q hq => by simpa using hpre q hq⟩

theorem find?_not_hasFile_eq_none_iff {t : FileTree} {rs : List Resource} :
    (rs.find? fun r => ¬ HasFile t r) = none ↔ ∀ r ∈ rs, HasFile t r := by
  simp

end LocalizedStrings.Resource
