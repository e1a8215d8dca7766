import LocalizedStrings.Program
import LocalizedStrings.Proofs.Run.Ignores

/-!
# Runs that tell more

A run can be asked to tell more. It then says where its configuration is from and gives a warning
for each file or path that it could not read, where else a last warning only counts them. What comes
of the run does not depend on it.

* `Outcome.silent`: an outcome without notes and warnings.
* `Run.map_fst_configuration`, `Run.silent_finish`: the parts of a run.
* **`Run.silent_run`**: what else comes of a run.
* `Survey.length_warnings`: there is one warning for each thing that could not be read.
* **`Run.err_of_quiet`**, **`Run.err_of_verbose`**: the notes and warnings of a run.
* **`run_verbose`**: a run that tells more beside one that does not.
-/

namespace LocalizedStrings

open Console (Line)

/-- The outcome without notes and warnings. -/
def Outcome.silent (r : Outcome) : Outcome := { r with err := [] }

theorem Outcome.eq_of_silent {a b : Outcome} (h : a.silent = b.silent) :
    a.result = b.result ∧ a.out = b.out ∧ a.tree = b.tree := by
  obtain ⟨hresult, hout, -, htree⟩ := Outcome.mk.inj h
  exact ⟨hresult, hout, htree⟩

/-! ## What comes of a run -/

namespace Run

section

variable (t : FileTree) (o : Options) (b : Bool)

theorem map_fst_configuration :
    (configuration t { o with verbose := b }).map Prod.fst =
      (configuration t o).map Prod.fst := by
  unfold configuration
  cases o.config with
  | some path => rfl
  | none =>
    simp only
    cases Config.ofDirectory t o.dir <;> rfl

theorem silent_finish (s : Survey Entry) (lines : List Line) (written : List Resource)
    (failure? : Option Failure) :
    (finish { o with verbose := b } s lines written failure? t).silent =
      (finish o s lines written failure? t).silent := by
  cases failure? <;> rfl

theorem silent_withConfig (c : Config) :
    (withConfig t { o with verbose := b } c).silent = (withConfig t o c).silent := by
  simp only [withConfig]
  split_ifs
  · rfl
  · exact silent_finish t o b _ _ _ _
  · exact silent_finish _ o b _ _ _ _

theorem silent_run_eq : (run t o).silent = match (configuration t o).map Prod.fst with
    | .error e => ⟨.error (.config e), [], [], t⟩
    | .ok c => (withConfig t o c).silent := by
  unfold run
  cases configuration t o <;> rfl

/-- **What else comes of a run** does not depend on what it is to tell. -/
theorem silent_run : (run t { o with verbose := b }).silent = (run t o).silent := by
  rw [silent_run_eq, silent_run_eq, map_fst_configuration]
  cases (configuration t o).map Prod.fst with
  | error e => rfl
  | ok c => exact silent_withConfig t o b c

end

theorem exists_of_map_eq_ok {α β ε : Type} {f : α → β} {x : Except ε α} {y : β}
    (h : x.map f = .ok y) : ∃ a, x = .ok a ∧ f a = y := by
  cases x with
  | error e => cases h
  | ok a => exact ⟨a, rfl, Except.ok.inj h⟩

theorem source_of_ofDirectory {t : FileTree} {dir : String} {c : Config} {source : Option String}
    (h : Config.ofDirectory t dir = .ok (c, source)) : source = Config.find? t dir := by
  unfold Config.ofDirectory at h
  split at h
  · next path hfind =>
    obtain ⟨d, -, hd⟩ := exists_of_map_eq_ok h
    cases hd
    exact hfind.symm
  · next hfind =>
    cases h
    exact hfind.symm

/-- The note about the configuration, if it was searched for. -/
def configNotes (t : FileTree) (o : Options) : List Line :=
  if o.verbose ∧ o.config = none then [Report.configNote (Config.find? t o.dir)] else []

variable {t : FileTree} {o : Options} {c : Config} {notes : List Line} {r : Summary}

theorem notes_eq (h : configuration t o = .ok (c, notes)) : notes = configNotes t o := by
  unfold configuration at h
  unfold configNotes
  split at h
  · next path hconfig =>
    obtain ⟨d, -, hd⟩ := exists_of_map_eq_ok h
    cases hd
    simp [hconfig]
  · next hconfig =>
    obtain ⟨⟨d, source⟩, hdir, hd⟩ := exists_of_map_eq_ok h
    cases hd
    simp [hconfig, source_of_ofDirectory hdir]

theorem err_eq (h : configuration t o = .ok (c, notes)) :
    (run t o).err = configNotes t o ++ (withConfig t o c).err := by
  rw [run, h, notes_eq h]

/-! ## A run that does not tell more -/

/-- The warning that counts what could not be read, for a run that did not fail. -/
def countWarning : Except Failure Summary → List Line
  | .ok r => if 0 < r.unreadableCount then [Report.unreadableWarning r.unreadableCount] else []
  | .error _ => []

section

variable (h : o.verbose = false)

include h

theorem warnings_append_lastWarning_of_quiet {α : Type} (s : Survey α) (repeats : Nat)
    (written : List Resource) : warnings o s ++ lastWarning o s =
      countWarning (.ok (summary s repeats written)) := by
  by_cases hpos : 0 < s.unreadable <;>
    simp [warnings, lastWarning, countWarning, summary, h, hpos]

theorem err_finish_of_quiet (s : Survey Entry) (lines : List Line) (written : List Resource)
    (failure? : Option Failure) (u : FileTree) : (finish o s lines written failure? u).err =
      countWarning (finish o s lines written failure? u).result := by
  cases failure? with
  | some f =>
    change warnings o s = []
    simp [warnings, h]
  | none => exact warnings_append_lastWarning_of_quiet h s _ written

theorem err_withConfig_of_quiet (t : FileTree) (c : Config) :
    (withConfig t o c).err = countWarning (withConfig t o c).result := by
  unfold withConfig
  split_ifs
  · exact warnings_append_lastWarning_of_quiet h _ 0 []
  · exact err_finish_of_quiet h _ _ _ _ _
  · exact err_finish_of_quiet h _ _ _ _ _

/-- **What a run says that is not to tell more**: at most how much could not be read. -/
theorem err_of_quiet (t : FileTree) : (run t o).err = countWarning (run t o).result := by
  cases hc : configuration t o with
  | error e =>
    rw [run_of_error hc]
    rfl
  | ok p =>
    obtain ⟨c, notes⟩ := p
    have hnotes : configNotes t o = [] := by simp [configNotes, h]
    rw [err_eq hc, result_eq hc, hnotes, err_withConfig_of_quiet h]
    rfl

end

end Run

/-! ## A run that tells more -/

theorem Selection.length_warnings {c : Config} (h : c.IsValid) (t : FileTree) (root : String) :
    (ofDirectory t root c.sourceExtensions c.ignores).warnings.length =
      (ofDirectory t root c.sourceExtensions c.ignores).skipped := by
  have hglobs : (c.ignores.filterMap fun p => (Glob.fault? p).map (Warning.glob p)) = [] := by
    rw [List.eq_nil_iff_forall_not_mem]
    intro w hw
    obtain ⟨e, -, he⟩ := List.mem_filterMap.1 hw
    obtain ⟨error, -, rfl⟩ := Option.map_eq_some_iff.1 he
    exact glob_notMem_warnings h t root e error (List.mem_append_left _ hw)
  simp only [ofDirectory, hglobs, List.nil_append]

namespace Survey

variable {α : Type}

theorem length_filterMap_error? (rs : List (Reading α)) :
    (rs.filterMap Reading.error?).length = rs.countP fun r => !r.isRead := by
  rw [List.length_filterMap_eq_countP]
  congr 1
  funext r
  rw [Reading.error?, Reading.isRead]
  cases r.found <;> rfl

/-- **There is one warning for each thing that could not be read.** -/
theorem length_warnings {c : Config} (h : c.IsValid) (ofText : String → List Char → List α)
    (t : FileTree) (dir : String) : (ofDirectory ofText t dir c).warnings.length =
      (ofDirectory ofText t dir c).unreadable := by
  simp only [warnings, unreadable, List.length_append, List.length_map, length_filterMap_error?]
  exact congrArg (· + _) (Selection.length_warnings h t dir)

theorem exists_of_mem_warnings {s : Survey α} {w : Line} (h : w ∈ s.warnings) :
    ∃ message, w = Report.warning [.plain message] := by
  rcases List.mem_append.1 h with h | h
  · obtain ⟨x, -, rfl⟩ := List.mem_map.1 h
    exact ⟨_, rfl⟩
  · obtain ⟨x, -, rfl⟩ := List.mem_map.1 h
    exact ⟨_, rfl⟩

end Survey

namespace Run

variable {t : FileTree} {o : Options} {c : Config} {notes : List Line} {r : Summary}

/-- One warning for each thing that could not be read. -/
structure TellsOf (r : Summary) (ws : List Line) : Prop where
  length_eq : ws.length = r.unreadableCount
  isWarning : ∀ w ∈ ws, ∃ message, w = Report.warning [.plain message]

theorem warnings_append_lastWarning_of_verbose (h : o.verbose = true) {α : Type} (s : Survey α) :
    warnings o s ++ lastWarning o s = s.warnings := by
  simp [warnings, lastWarning, h]

theorem tellsOf_warnings {α : Type} (h : o.verbose = true) (hc : c.IsValid)
    (ofText : String → List Char → List α) (t : FileTree) (dir : String) (repeats : Nat)
    (written : List Resource) :
    TellsOf (summary (Survey.ofDirectory ofText t dir c) repeats written)
      (warnings o (Survey.ofDirectory ofText t dir c) ++
        lastWarning o (Survey.ofDirectory ofText t dir c)) := by
  rw [warnings_append_lastWarning_of_verbose h]
  exact ⟨Survey.length_warnings hc ofText t dir, fun _ => Survey.exists_of_mem_warnings⟩

theorem tellsOf_finish (h : o.verbose = true) (hc : c.IsValid) {t u : FileTree} {dir : String}
    {lines : List Line} {written : List Resource} {fault? : Option Failure}
    (hr : (finish o (Survey.ofDirectory Entry.ofText t dir c) lines written fault? u).result =
      .ok r) :
    TellsOf r (finish o (Survey.ofDirectory Entry.ofText t dir c) lines written fault? u).err := by
  cases fault? with
  | some f => cases hr
  | none =>
    cases hr
    exact tellsOf_warnings h hc _ _ _ _ _

theorem tellsOf_withConfig (h : o.verbose = true) (hc : c.IsValid)
    (hr : (withConfig t o c).result = .ok r) : TellsOf r (withConfig t o c).err := by
  unfold withConfig at hr ⊢
  split_ifs at hr ⊢
  · cases hr
    exact tellsOf_warnings h hc _ _ _ _ _
  · exact tellsOf_finish h hc hr
  · exact tellsOf_finish h hc hr

/-- **What a run says that is to tell more**: where its configuration is from, and what could not be
read, one by one. -/
theorem err_of_verbose (h : o.verbose = true) (hr : (run t o).result = .ok r) :
    ∃ ws, (run t o).err = configNotes t o ++ ws ∧ TellsOf r ws := by
  cases hc : configuration t o with
  | error e =>
    rw [run_of_error hc] at hr
    cases hr
  | ok p =>
    obtain ⟨c, notes⟩ := p
    rw [result_eq hc] at hr
    exact ⟨_, err_eq hc,
      tellsOf_withConfig h (Config.check_eq_ok_iff.1 (check_of_configuration hc)) hr⟩

end Run

open Run

/-- **A run that tells more.** Beside the same run that does not, it has the same result, prints the
same report and leaves the same tree, so that also the program has the same exit code and output. A
run that does not tell more says nothing beside its report, unless it succeeds and there was
something that it could not read: it then gives one warning with the number of these. A successful
run that tells more gives one warning for each of them instead, behind the note about the
configuration. -/
theorem run_verbose (t : FileTree) (o : Options) (colors : Bool) :
    let quiet := run t { o with verbose := false }
    let loud := run t { o with verbose := true }
    (loud.result = quiet.result ∧ loud.out = quiet.out ∧ loud.tree = quiet.tree) ∧
      ((Program.ended colors loud).exitCode = (Program.ended colors quiet).exitCode ∧
        (Program.ended colors loud).out = (Program.ended colors quiet).out ∧
        (Program.ended colors loud).tree = (Program.ended colors quiet).tree) ∧
      quiet.err = countWarning quiet.result ∧
      ∀ r, loud.result = .ok r →
        ∃ ws, loud.err = configNotes t { o with verbose := true } ++ ws ∧ TellsOf r ws := by
  intro quiet loud
  obtain ⟨hresult, hout, htree⟩ : loud.result = quiet.result ∧ loud.out = quiet.out ∧
      loud.tree = quiet.tree :=
    Outcome.eq_of_silent ((silent_run t o true).trans (silent_run t o false).symm)
  refine ⟨⟨hresult, hout, htree⟩, ?_, err_of_quiet rfl t, fun r => err_of_verbose rfl⟩
  unfold Program.ended
  rw [hresult, hout, htree]
  cases quiet.result <;> exact ⟨rfl, rfl, rfl⟩

end LocalizedStrings
