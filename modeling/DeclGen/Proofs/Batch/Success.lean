import DeclGen.Proofs.Batch.ExitCode

/-!
What the exit code 0 says. A command that ends in it has compiled the standard input, or has found
no schema files, or has compiled and written all that it found and had them pass the type checker if
that was asked for. The type checker is started once all declaration files are written, and only
then.
-/

namespace DeclGen

/-- What the type checker comes to when it is started. -/
def Checker.verdict : Checker → Except CheckError Unit
  | notInstalled => .error .notInstalled
  | broken reason => .error (.broken reason)
  | finished status report => if status = 0 then .ok () else .error (.rejected report)

theorem Checker.verdict_eq_ok {checker : Checker} :
    checker.verdict = .ok () ↔ ∃ report, checker = .finished 0 report := by
  cases checker with
  | notInstalled => simp [verdict]
  | broken reason => simp [verdict]
  | finished status report =>
    by_cases hstatus : status = 0
    · simp [verdict, hstatus]
    · simp [verdict, hstatus]

namespace Session

variable {s : Session} {o : Options} {w : Workspace}

/-- Generation neither starts the type checker nor changes it. -/
theorem checker_generate (s : Session) (schemaPath target : Option String) (generator : String) :
    (s.generate schemaPath target generator).2.checker = s.checker ∧
      (s.generate schemaPath target generator).2.checks = s.checks := by
  unfold generate
  split
  · exact ⟨rfl, rfl⟩
  · split
    · exact ⟨rfl, rfl⟩
    · next schema hload =>
      cases target with
      | none => exact ⟨rfl, rfl⟩
      | some path =>
        simp only [deliver, noteAll]
        cases s.workspace.write path (schema.compile generator).toUTF8.toList with
        | error e => exact ⟨rfl, rfl⟩
        | ok after => exact ⟨rfl, rfl⟩

theorem checker_generateEach (s : Session) (folder : String) (schemas : List String) :
    (s.generateEach folder schemas).2.checker = s.checker ∧
      (s.generateEach folder schemas).2.checks = s.checks := by
  induction schemas generalizing s with
  | nil => exact ⟨rfl, rfl⟩
  | cons path rest ih =>
    have hfirst := s.checker_generate (some path) (some (outputPath path folder)) generatorName
    rw [generateEach]
    split
    · next e after hgenerate =>
      rw [hgenerate] at hfirst
      exact hfirst
    · next source after hgenerate =>
      rw [hgenerate] at hfirst
      exact ⟨(ih after).1.trans hfirst.1, (ih after).2.trans hfirst.2⟩

theorem checker_prepareOutput (s : Session) (folder : String) :
    (s.prepareOutput folder).2.checker = s.checker := by
  unfold prepareOutput
  split
  · rfl
  · simp only
    split <;> rfl

/-- The call of the type checker: on the declaration files of all collected schemas, in their
order. -/
def checkCall (s : Session) (o : Options) : List String :=
  "tsc" :: "--noEmit" :: (s.schemas o).map (outputPath · (s.targetFolder o))

theorem validate_of_ne_nil {paths : List String} (h : paths ≠ []) :
    (s.validate paths).1 = s.checker.verdict ∧
      (s.validate paths).2.checks = s.checks ++ ["tsc" :: "--noEmit" :: paths] := by
  unfold validate
  rw [if_neg (by simpa using h)]
  cases hchecker : s.checker with
  | notInstalled => simp [note, hchecker, Checker.verdict]
  | broken reason => simp [note, hchecker, Checker.verdict]
  | finished status report =>
    by_cases hstatus : status = 0
    · simp [note, hchecker, hstatus, Checker.verdict]
    · simp [note, hchecker, hstatus, Checker.verdict]

/-- All collected schemas are compiled and written: the output folder can be made, and one behind
the other each schema file is compiled and its source written, until the workspace is reached. -/
def WritesAll (s : Session) (o : Options) (w : Workspace) : Prop :=
  (s.prepareOutput o.outputFolder).1 = .ok (s.targetFolder o) ∧
    (s.ready o).writeSources (s.targetFolder o) (s.schemas o) = .ok w

/-- A run that has written everything ends with what the type checker comes to, if it is asked. -/
theorem run_of_writesAll (hsome : s.schemas o ≠ []) (h : s.WritesAll o w) :
    (s.run o).2.workspace = w ∧
      (s.run o).1 = (if o.check then s.checker.verdict.mapError .check else .ok ()) ∧
      (s.run o).2.checks = s.checks ++ if o.check then [s.checkCall o] else [] := by
  obtain ⟨hprepare, hall⟩ := h
  refine ⟨(run_of_ok hsome hprepare hall).1, ?_⟩
  obtain ⟨finished, heach, _⟩ := generateEach_of_ok hall
  have hkept := (s.prepareOutput o.outputFolder).2.checker_generateEach (s.targetFolder o)
    (s.schemas o)
  rw [heach, checker_prepareOutput, checks_prepareOutput] at hkept
  rw [run_eq_runOn hsome, runOn, prepareOutput_eq hprepare]
  simp only [heach]
  cases o.check with
  | false => exact ⟨rfl, hkept.2.trans (List.append_nil _).symm⟩
  | true =>
    have hpaths : (s.schemas o).map (outputPath · (s.targetFolder o)) ≠ [] := by simpa using hsome
    obtain ⟨hverdict, hchecks⟩ := finished.validate_of_ne_nil hpaths
    rw [hkept.1] at hverdict
    rw [hkept.2] at hchecks
    rw [← hverdict]
    simp only [↓reduceIte]
    split
    · next e after hvalidate =>
      rw [hvalidate] at hchecks ⊢
      exact ⟨rfl, hchecks⟩
    · next after hvalidate =>
      rw [hvalidate] at hchecks ⊢
      exact ⟨rfl, hchecks⟩

/-- A run that cannot write everything fails, and does not start the type checker. -/
theorem run_of_not_writesAll (hsome : s.schemas o ≠ []) (h : ¬ ∃ w, s.WritesAll o w) :
    (∃ e, (s.run o).1 = .error e) ∧ (s.run o).2.checks = s.checks := by
  rcases run_cases hsome with ⟨e, hrefused⟩ | ⟨hprepare, before, behind, w, hschemas, hbefore, hrun⟩
  · rw [run_of_refused hsome hrefused]
    exact ⟨⟨_, rfl⟩, checks_prepareOutput s o.outputFolder⟩
  · have hbehind : behind ≠ [] := by
      rintro rfl
      rw [List.append_nil] at hschemas
      exact h ⟨w, hprepare, hschemas ▸ hbefore⟩
    obtain ⟨hchecks, hfail⟩ := hrun.2 hbehind
    exact ⟨hfail, hchecks⟩

/-- A run from the standard input is one generation, in a session that differs in its log alone. -/
theorem runStream_eq (s : Session) (o : Options) : ∃ t : Session,
    t.input = s.input ∧ t.output = s.output ∧ t.checks = s.checks ∧
      s.runStream o = ((t.generate none none generatorName).1.map fun _ => (),
        (t.generate none none generatorName).2) := by
  unfold runStream
  simp only
  generalize ht : (if o.check = true then note _ _ _ _ else _ : Session) = t
  refine ⟨t, ?_, ?_, ?_, ?_⟩
  · rw [← ht]
    split <;> split <;> rfl
  · rw [← ht]
    split <;> split <;> rfl
  · rw [← ht]
    split <;> split <;> rfl
  · generalize t.generate none none generatorName = ended
    obtain ⟨result, after⟩ := ended
    cases result <;> rfl

/-- A run from the standard input adds the whole source to the standard output, or nothing. -/
theorem output_runStream (s : Session) (o : Options) :
    (∀ schema, Schema.ofBytes s.input = .ok schema →
      (s.runStream o).2.output = s.output ++ schema.compile generatorName) ∧
    (∀ e, Schema.ofBytes s.input = .error e → (s.runStream o).2.output = s.output) ∧
    (s.runStream o).2.checks = s.checks := by
  obtain ⟨t, hinput, houtput, hchecks, hstream⟩ := s.runStream_eq o
  rw [hstream, ← hinput, ← houtput, ← hchecks]
  refine ⟨fun schema hload => ?_, fun e hload => ?_,
    (t.checker_generate none none generatorName).2⟩
  · simp only [generate, readDocument, hload, deliver, noteAll]
  · simp only [generate, readDocument, hload]

/-- When a run ends without a failure. -/
theorem run_eq_ok_iff (s : Session) (o : Options) : (s.run o).1 = .ok () ↔
    o.paths = [] ∧ (∃ schema, Schema.ofBytes s.input = .ok schema) ∨
    o.paths ≠ [] ∧ s.schemas o = [] ∨
    s.schemas o ≠ [] ∧ (∃ w, s.WritesAll o w) ∧
      (o.check = true → ∃ report, s.checker = .finished 0 report) := by
  by_cases hpaths : o.paths = []
  · rw [run, if_pos (by simpa using hpaths), runStream_result]
    simp only [hpaths, schemas_of_no_paths hpaths, ne_eq, not_true_eq_false, false_and, or_false,
      true_and]
    cases Schema.ofBytes s.input with
    | error e => simp [Except.mapError, Except.map]
    | ok schema => simp [Except.mapError, Except.map]
  · by_cases hsome : s.schemas o = []
    · rw [run, if_neg (by simpa using hpaths), if_pos (by simpa using hsome)]
      simp [hpaths, hsome]
    · simp only [hpaths, hsome, ne_eq, not_false_eq_true, and_false, false_and, false_or, true_and]
      by_cases hall : ∃ w, s.WritesAll o w
      · obtain ⟨w, hwrites⟩ := hall
        rw [(run_of_writesAll hsome hwrites).2.1, ← Checker.verdict_eq_ok]
        cases o.check with
        | false => simp [show ∃ w, s.WritesAll o w from ⟨w, hwrites⟩]
        | true =>
          cases s.checker.verdict with
          | error e => simp [Except.mapError]
          | ok done => simp [Except.mapError, show ∃ w, s.WritesAll o w from ⟨w, hwrites⟩]
      · obtain ⟨e, hfail⟩ := (run_of_not_writesAll hsome hall).1
        simp [hfail, hall]

/-- A run starts the type checker if it is asked to and has written everything. -/
def StartsChecker (s : Session) (o : Options) : Prop :=
  s.schemas o ≠ [] ∧ (∃ w, s.WritesAll o w) ∧ o.check = true

theorem checks_run (s : Session) (o : Options) :
    (s.StartsChecker o → (s.run o).2.checks = s.checks ++ [s.checkCall o]) ∧
      (¬ s.StartsChecker o → (s.run o).2.checks = s.checks) := by
  constructor
  · rintro ⟨hsome, ⟨w, hwrites⟩, hcheck⟩
    rw [(run_of_writesAll hsome hwrites).2.2, hcheck, if_pos rfl]
  · intro hnot
    by_cases hpaths : o.paths = []
    · rw [run, if_pos (by simpa using hpaths)]
      exact (s.output_runStream o).2.2
    · by_cases hsome : s.schemas o = []
      · rw [run, if_neg (by simpa using hpaths), if_pos (by simpa using hsome)]
        rfl
      · by_cases hall : ∃ w, s.WritesAll o w
        · have hcheck : o.check ≠ true := fun hcheck => hnot ⟨hsome, hall, hcheck⟩
          obtain ⟨w, hwrites⟩ := hall
          rw [(run_of_writesAll hsome hwrites).2.2, if_neg hcheck, List.append_nil]
        · exact (run_of_not_writesAll hsome hall).2

theorem command_snd {arguments : List String} (h : Options.ofArguments arguments = .ok o) :
    (s.command arguments).2 = (s.execute o).2 := by
  unfold command
  rw [h]
  simp only
  split
  · next e after hexecute => rw [hexecute]
  · next code after hexecute => rw [hexecute]

/-- A command does nothing but log behind its run. -/
theorem execute_after (s : Session) (o : Options) :
    (s.execute o).2.workspace = ((s.opened o).run o).2.workspace ∧
      (s.execute o).2.output = ((s.opened o).run o).2.output ∧
      (s.execute o).2.checks = ((s.opened o).run o).2.checks := by
  unfold execute
  simp only [← opened.eq_def]
  split
  · next after hrun =>
    rw [hrun]
    exact ⟨rfl, rfl, rfl⟩
  · next e after hrun =>
    rw [hrun]
    split <;> exact ⟨rfl, rfl, rfl⟩

theorem command_eq_zero_iff {arguments : List String}
    (h : Options.ofArguments arguments = .ok o) :
    (s.command arguments).1 = .ok 0 ↔ ((s.opened o).run o).1 = .ok () := by
  rw [command_result h, execute_result]
  cases ((s.opened o).run o).1 with
  | ok done => simp [Except.mapError]
  | error e => cases hlogged : e.isLogged <;> simp [Except.mapError, hlogged]

theorem writesAll_opened : (s.opened o).WritesAll o w ↔ s.WritesAll o w := by
  obtain ⟨hresult, hready⟩ := prepareOutput_congr (t := s.opened o) (s := s) rfl o.outputFolder
  rw [WritesAll, WritesAll, hresult, ready, hready]
  rfl

theorem startsChecker_opened : (s.opened o).StartsChecker o ↔ s.StartsChecker o := by
  simp only [StartsChecker, writesAll_opened]
  rfl

/-- What the exit code 0 says. Without paths the standard input compiles. With paths either no
schema file is collected, or all collected schemas are compiled and written, and the type checker,
if it is asked, was started and accepts them. It is started if it is asked and everything is
written, once and on all declaration files, and else not at all. Without paths the tree stays as it
is, and the standard output gets the whole source, or nothing if there is none. -/
theorem exit_zero_iff (s : Session) {arguments : List String}
    (h : Options.ofArguments arguments = .ok o) :
    let after := (s.command arguments).2
    ((s.command arguments).1 = .ok 0 ↔
      o.paths = [] ∧ (∃ schema, Schema.ofBytes s.input = .ok schema) ∨
      o.paths ≠ [] ∧ s.schemas o = [] ∨
      s.schemas o ≠ [] ∧ s.WritesAll o after.workspace ∧ (o.check = true →
        after.checks = s.checks ++ [s.checkCall o] ∧ ∃ report, s.checker = .finished 0 report)) ∧
    ((s.StartsChecker o → after.checks = s.checks ++ [s.checkCall o]) ∧
      (¬ s.StartsChecker o → after.checks = s.checks)) ∧
    (o.paths = [] → after.workspace = s.workspace ∧
      (∀ schema, Schema.ofBytes s.input = .ok schema →
        after.output = s.output ++ schema.compile generatorName) ∧
      ∀ e, Schema.ofBytes s.input = .error e → after.output = s.output) := by
  intro after
  obtain ⟨hworkspace, houtput, hchecks⟩ := s.execute_after o
  rw [← command_snd h] at hworkspace houtput hchecks
  have hstarted := (s.opened o).checks_run o
  rw [startsChecker_opened, ← hchecks] at hstarted
  refine ⟨?_, hstarted, fun hpaths => ?_⟩
  · rw [command_eq_zero_iff h, run_eq_ok_iff]
    simp only [writesAll_opened]
    refine or_congr_right (or_congr_right (and_congr_right fun hsome => ?_))
    constructor
    · rintro ⟨⟨w, hwrites⟩, hverdict⟩
      have hreached := (run_of_writesAll (s := s.opened o) hsome (writesAll_opened.mpr hwrites)).1
      rw [← hworkspace] at hreached
      exact ⟨hreached ▸ hwrites,
        fun hcheck => ⟨hstarted.1 ⟨hsome, ⟨w, hwrites⟩, hcheck⟩, hverdict hcheck⟩⟩
    · rintro ⟨hwrites, hverdict⟩
      exact ⟨⟨_, hwrites⟩, fun hcheck => (hverdict hcheck).2⟩
  · have hrun : (s.opened o).run o = (s.opened o).runStream o := by
      rw [run, if_pos (by simpa using hpaths)]
    obtain ⟨hsource, hnothing, _⟩ := (s.opened o).output_runStream o
    rw [← hrun, ← houtput] at hsource hnothing
    rw [hrun, workspace_runStream] at hworkspace
    exact ⟨hworkspace, hsource, hnothing⟩

/-- A folder with one schema and another file, and a type checker that accepts everything. -/
def accepted : Session :=
  let bytes (text : String) : List UInt8 := text.toList.map fun c => c.toNat.toUInt8
  Session.start ⟨⟨[
    (["d"], .folder),
    (["d", "a.xml"], .file (bytes "<interfaces/>")),
    (["d", "notes"], .file (bytes "x"))]⟩, []⟩
    [] (.finished 0 "")

theorem ofArguments_check : Options.ofArguments ["-p", "d", "--check"] =
    .ok { Options.default with paths := ["d"], check := true } := by
  decide +kernel

/-- The command ends in 0, behind one call of the type checker. -/
theorem accepted_checked_once :
    (accepted.command ["-p", "d", "--check"]).1 = .ok 0 ∧
      (accepted.command ["-p", "d", "--check"]).2.checks =
        [["tsc", "--noEmit", "/d/a.d.ts"]] := by
  obtain ⟨hzero, ⟨hstarted, _⟩, _⟩ := exit_zero_iff accepted ofArguments_check
  have hsome : accepted.schemas { Options.default with paths := ["d"], check := true } ≠ [] := by
    decide +kernel
  have hwrites : accepted.WritesAll { Options.default with paths := ["d"], check := true }
      (accepted.command ["-p", "d", "--check"]).2.workspace :=
    ⟨by decide +kernel, by decide +kernel⟩
  have hcall : accepted.checkCall { Options.default with paths := ["d"], check := true } =
      ["tsc", "--noEmit", "/d/a.d.ts"] := by
    decide +kernel
  have hchecks := hstarted ⟨hsome, ⟨_, hwrites⟩, rfl⟩
  refine ⟨hzero.mpr (.inr (.inr ⟨hsome, hwrites, fun _ => ⟨hchecks, "", rfl⟩⟩)), ?_⟩
  rw [hchecks, hcall]
  rfl

end Session

end DeclGen
