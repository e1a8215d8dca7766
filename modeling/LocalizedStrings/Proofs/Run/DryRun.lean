import LocalizedStrings.Proofs.Resource.Plans
import LocalizedStrings.Proofs.Run.Generate

/-!
# Dry runs

A dry run makes a plan for each resource file that a generating run would write. Both stop at the
first one that is missing. But a plan reads the old text of the file, so that a dry run also stops
at a file that holds no text, which a generating run simply replaces.

* `Failure.cause`: why a run failed, whatever it was about to do.
* `EndsAlike`: two runs end in the same way.
* `Resource.failure?_planAll`: where plans stop.
* **`Resource.failure?_planAll_eq_iff`**: when plans and updates stop at the same resource file.
* **`endsAlike_run_iff`**: when a dry run ends like the generating run.
* `run_dryRun_notText`: a dry run that fails although the generating run succeeds.
-/

namespace LocalizedStrings

open Resource (HasFile)

/-! ## Plans -/

namespace Resource

theorem failure?_planAll (t : FileTree) (es : List Entry) (rs : List Resource) :
    (planAll t es rs).failure? = rs.findSome? fun r => match r.plan t es with
      | .ok _ => none
      | .error e => some e := by
  induction rs with
  | nil => rfl
  | cons r rs ih =>
    rw [planAll, List.findSome?_cons]
    cases r.plan t es with
    | ok p => exact ih
    | error e => rfl

/-- **Plans end where updates end**, and for the same cause, if all files before the first resource
file that is missing hold texts, and only then. -/
theorem failure?_planAll_eq_iff (t : FileTree) (es : List Entry) (rs : List Resource) :
    (planAll t es rs).failure? = (writeAll t es rs).failure? ↔
      ∀ r ∈ rs.takeWhile (HasFile t ·), ∃ text, t.readText r.path = .ok text := by
  rw [failure?_planAll, (writeAll_eq t es rs).2.1]
  induction rs with
  | nil => simp
  | cons r rs ih =>
    rw [List.findSome?_cons, List.find?_cons, List.takeWhile_cons]
    by_cases h : HasFile t r
    · simp only [h, not_true, decide_true, decide_false, if_true, List.forall_mem_cons]
      by_cases hr : ∃ text, t.readText r.path = .ok text
      · obtain ⟨text, ht⟩ := hr
        simp only [plan_of_hasFile h, ht, ih]
        simp
      · -- The plan refuses the file for its bytes, and an update never does.
        simp only [plan_eq_notText h hr, hr, false_and, iff_false]
        cases rs.find? fun r => ¬ HasFile t r with
        | none => exact nofun
        | some q => exact nofun
    · simp [h, plan_eq_missing h]

end Resource

/-! ## Runs that end alike -/

/-- Why a run failed, whatever it was about to do. -/
def Failure.cause : Failure → Config.LoadError ⊕ FileError
  | config error => .inl error
  | plan error => .inr error
  | update error => .inr error

/-- The results are alike: both are successes with the same numbers, or both are failures for the
same cause. -/
def EndsAlike : Except Failure Summary → Except Failure Summary → Prop
  | .ok a, .ok b => a.filesScanned = b.filesScanned ∧ a.recordsFound = b.recordsFound ∧
      a.duplicateCount = b.duplicateCount ∧ a.unreadableCount = b.unreadableCount
  | .error a, .error b => a.cause = b.cause
  | _, _ => False

namespace Run

variable {t : FileTree} {o : Options} {c : Config} {notes : List Console.Line}

theorem withConfig_plan (hcheck : o.check = false) (hdry : o.dryRun = true) :
    withConfig t o c = plan t o c := by
  simp only [withConfig, hcheck, hdry, Bool.false_eq_true, if_false, if_true]

theorem endsAlike_iff_failure?_eq {f? g? : Option FileError} {a b : Summary}
    (h : EndsAlike (.ok a) (.ok b)) :
    EndsAlike (match f?.map Failure.plan with | some f => .error f | none => .ok a)
      (match g?.map Failure.update with | some f => .error f | none => .ok b) ↔ f? = g? := by
  cases f? with
  | none => cases g? with
    | none => exact ⟨fun _ => rfl, fun _ => h⟩
    | some g => exact ⟨nofun, nofun⟩
  | some f => cases g? with
    | none => exact ⟨nofun, nofun⟩
    | some g => simp [EndsAlike, Failure.cause]

theorem endsAlike_plan_generate_iff (t : FileTree) (o o' : Options) (c : Config)
    (h : o.dir = o'.dir) :
    EndsAlike (plan t o c).result (generate t o' c).result ↔
      ∀ r ∈ (c.resources o.dir).takeWhile (HasFile t ·), ∃ text, t.readText r.path = .ok text := by
  rw [← Resource.failure?_planAll_eq_iff t (Entry.below t o.dir c), plan, generate, ← h,
    Survey.records_ofDirectory, result_finish, result_finish]
  exact endsAlike_iff_failure?_eq ⟨rfl, rfl, rfl, rfl⟩

theorem result_eq_error {e : Config.LoadError} (h : Run.configuration t o = .error e) :
    (run t o).result = .error (.config e) := by
  rw [run, h]

theorem plan_of_notText {pre post : List Resource} {r : Resource}
    (h : c.resources o.dir = pre ++ r :: post) (hr : HasFile t r)
    (hpre : ∀ q ∈ pre, HasFile t q ∧ ∃ text, t.readText q.path = .ok text)
    (hno : ¬ ∃ text, t.readText r.path = .ok text) :
    (plan t o c).result = .error (.plan (.access r.path .notText)) := by
  have hf := Resource.failure?_planAll t (Entry.below t o.dir c) (c.resources o.dir)
  have hnone : (pre.findSome? fun q => match q.plan t (Entry.below t o.dir c) with
      | .ok _ => none
      | .error e => some e) = none := by
    rw [List.findSome?_eq_none_iff]
    intro q hq
    obtain ⟨hfile, text, ht⟩ := hpre q hq
    rw [Resource.plan_of_hasFile hfile, ht]
  rw [h, List.findSome?_append, hnone, Option.none_or, List.findSome?_cons,
    Resource.plan_eq_notText hr hno, ← h] at hf
  rw [plan, Survey.records_ofDirectory, result_finish]
  simp only [hf, Option.map_some]

end Run

/-- **When a dry run ends like the generating run.** Either the configuration fails to load, or each
resource file before the first one that is missing holds a text. -/
theorem endsAlike_run_iff (t : FileTree) (o : Options) :
    EndsAlike (run t { o with check := false, dryRun := true }).result
        (run t { o with check := false, dryRun := false }).result ↔
      ∀ c notes, Run.configuration t o = .ok (c, notes) →
        ∀ r ∈ (c.resources o.dir).takeWhile (HasFile t ·),
          ∃ text, t.readText r.path = .ok text := by
  -- The kind of the run does not matter for the configuration.
  have hdry : Run.configuration t { o with check := false, dryRun := true } =
      Run.configuration t o := rfl
  have hgen : Run.configuration t { o with check := false, dryRun := false } =
      Run.configuration t o := rfl
  cases hc : Run.configuration t o with
  | error e =>
    rw [Run.result_eq_error (hdry.trans hc), Run.result_eq_error (hgen.trans hc)]
    exact ⟨nofun, fun _ => rfl⟩
  | ok config =>
    obtain ⟨c, notes⟩ := config
    rw [Run.result_eq (hdry.trans hc), Run.result_eq (hgen.trans hc),
      Run.withConfig_plan rfl rfl, Run.withConfig_generate rfl rfl]
    refine (Run.endsAlike_plan_generate_iff t _ _ c rfl).trans ?_
    constructor
    · intro h c' notes' h'
      obtain ⟨rfl, rfl⟩ := Prod.mk.inj (Except.ok.inj h')
      exact h
    · exact fun h => h c notes rfl

/-- **A dry run that fails although the generating run succeeds.** The first resource file holds a
byte that is no text. -/
theorem run_dryRun_notText :
    (run (project ⟨#[0xFF]⟩) { dryRun := true }).result =
        .error (.plan (.access "./Base.lproj/Localizable.strings" .notText)) ∧
      ∃ s, (run (project ⟨#[0xFF]⟩) {}).result = .ok s := by
  have hrc : (project ⟨#[0xFF]⟩).hasPath (Path.join "." Config.fileName) = false := by
    decide +kernel
  have hgit : (project ⟨#[0xFF]⟩).hasPath (Path.join "." ".git") = true := by decide +kernel
  have hfiles : ∀ r ∈ ({} : Config).resources ".", HasFile (project ⟨#[0xFF]⟩) r := by
    decide +kernel
  have hrs : ({} : Config).resources "." =
      [] ++ ⟨"./Base.lproj/Localizable.strings", .base⟩ ::
        [⟨"./ja.lproj/Localizable.strings", .comment⟩] := by decide +kernel
  have hno : ((project ⟨#[0xFF]⟩).readText "./Base.lproj/Localizable.strings").toBool = false := by
    decide +kernel
  have hdry : Run.configuration (project ⟨#[0xFF]⟩) { dryRun := true } = .ok ({}, []) :=
    Run.configuration_of_git rfl hrc hgit
  have hgen : Run.configuration (project ⟨#[0xFF]⟩) {} = .ok ({}, []) :=
    Run.configuration_of_git rfl hrc hgit
  constructor
  · rw [Run.result_eq hdry, Run.withConfig_plan rfl rfl]
    refine Run.plan_of_notText (o := { dryRun := true }) (c := {}) hrs
      (hfiles _ (by decide +kernel)) nofun ?_
    rintro ⟨text, ht⟩
    rw [ht] at hno
    cases hno
  · rw [Run.result_eq hgen, Run.withConfig_generate rfl rfl]
    obtain ⟨⟨s, hs, -⟩, -⟩ := Run.generate_of_hasFile (o := {}) (c := {}) hfiles
    exact ⟨s, hs⟩

end LocalizedStrings
