import DeclGen.Batch.Command
import DeclGen.Proofs.Batch.Prefix
import DeclGen.Proofs.Schema.ForeignEncoding

/-!
How the command ends. Every failure of a run is logged and ends in an exit code, except that of a
document in a foreign encoding, which the command lets through.
-/

namespace DeclGen

open Xml

theorem ForeignEncoding.isLogged_loadError (foreign : ForeignEncoding) :
    RunError.isLogged (.load foreign.loadError) = false := by
  cases foreign <;> rfl

namespace Workspace

variable {w : Workspace} {folder path : String}

theorem writeSource_of_foreign {bytes : List UInt8} {foreign : ForeignEncoding}
    (hread : w.read path = .ok bytes) (hforeign : foreignEncoding? bytes = some foreign) :
    w.writeSource folder path = .error (.load foreign.loadError) := by
  unfold writeSource compiled
  rw [hread]
  simp only [Schema.ofBytes_of_foreign hforeign]
  rfl

/-- Writing the source of a schema fails unlogged only for the encoding of the schema. -/
theorem foreign_of_writeSource {e : RunError} (h : w.writeSource folder path = .error e)
    (hlogged : e.isLogged = false) : ∃ bytes foreign, w.read path = .ok bytes ∧
      foreignEncoding? bytes = some foreign := by
  unfold writeSource compiled at h
  cases hread : w.read path with
  | error failure =>
    simp only [hread] at h
    cases h
    cases hlogged
  | ok bytes =>
    cases hforeign : foreignEncoding? bytes with
    | some foreign => exact ⟨bytes, foreign, rfl, hforeign⟩
    | none =>
      rcases Schema.ofBytes_of_not_foreign hforeign with ⟨schema, hload⟩ | ⟨failure, hload⟩
      · simp only [hread, hload, Except.mapError, Except.map] at h
        split at h
        · cases h
          cases hlogged
        · cases h
      · simp only [hread, hload, Except.mapError, Except.map] at h
        cases h
        cases hlogged

end Workspace

namespace Session

variable {s t : Session} {o : Options} {e : RunError} {foreign : ForeignEncoding}

/-- A run comes to a document in a foreign encoding: on the standard input, or in the first schema
file whose source it cannot write. -/
def MeetsForeignEncoding (s : Session) (o : Options) (foreign : ForeignEncoding) : Prop :=
  if o.paths = [] then foreignEncoding? s.input = some foreign
  else (s.prepareOutput o.outputFolder).1 = .ok (s.targetFolder o) ∧
    ∃ before path behind w bytes, s.schemas o = before ++ path :: behind ∧
      (s.ready o).writeSources (s.targetFolder o) before = .ok w ∧
      w.read path = .ok bytes ∧ foreignEncoding? bytes = some foreign

theorem generate_stream_result (s : Session) (generator : String) :
    (s.generate none none generator).1 =
      ((Schema.ofBytes s.input).mapError RunError.load).map (·.compile generator) := by
  unfold generate
  simp only [readDocument]
  cases Schema.ofBytes s.input with
  | error e => rfl
  | ok schema => rfl

/-- From the standard input to the standard output, nothing but the document can fail. -/
theorem runStream_result (s : Session) (o : Options) : (s.runStream o).1 =
    ((Schema.ofBytes s.input).mapError RunError.load).map fun _ => () := by
  unfold runStream
  simp only
  split
  · next e after hgenerate =>
    have hresult := congrArg Prod.fst hgenerate
    simp only [generate_stream_result, apply_ite Session.input, note, ite_self] at hresult
    cases hload : Schema.ofBytes s.input with
    | error failure =>
      rw [hload] at hresult
      cases hresult
      rfl
    | ok schema =>
      rw [hload] at hresult
      cases hresult
  · next source after hgenerate =>
    have hresult := congrArg Prod.fst hgenerate
    simp only [generate_stream_result, apply_ite Session.input, note, ite_self] at hresult
    cases hload : Schema.ofBytes s.input with
    | error failure =>
      rw [hload] at hresult
      cases hresult
    | ok schema => rfl

theorem run_of_foreign (h : s.MeetsForeignEncoding o foreign) :
    (s.run o).1 = .error (.load foreign.loadError) := by
  unfold MeetsForeignEncoding at h
  split at h
  · next hpaths =>
    rw [run, if_pos (by simpa using hpaths), runStream_result, Schema.ofBytes_of_foreign h]
    rfl
  · obtain ⟨hprepare, before, path, behind, w, bytes, hschemas, hbefore, hread, hforeign⟩ := h
    exact (run_of_error hprepare hschemas hbefore
      (Workspace.writeSource_of_foreign hread hforeign)).1

/-- A run on schema files fails unlogged only at a foreign encoding. -/
theorem foreign_of_runOn (hpaths : o.paths ≠ []) (hsome : s.schemas o ≠ [])
    (h : (s.run o).1 = .error e) (hlogged : e.isLogged = false) :
    ∃ foreign, s.MeetsForeignEncoding o foreign := by
  cases hprepare : (s.prepareOutput o.outputFolder).1 with
  | error refused =>
    rw [run_of_refused hsome hprepare] at h
    cases h
    cases hlogged
  | ok folder =>
    obtain rfl := eq_targetFolder_of_prepareOutput hprepare
    rcases (s.ready o).writeSources_cases (s.targetFolder o) (s.schemas o) with
      ⟨w, hall⟩ | ⟨before, path, behind, w, failure, hschemas, hbefore, hfail⟩
    · rcases (run_of_ok hsome hprepare hall).2 with hdone | ⟨check, hcheck⟩
      · cases hdone.symm.trans h
      · cases hcheck.symm.trans h
        cases hlogged
    · cases (run_of_error hprepare hschemas hbefore hfail).1.symm.trans h
      obtain ⟨bytes, foreign, hread, hforeign⟩ := Workspace.foreign_of_writeSource hfail hlogged
      refine ⟨foreign, ?_⟩
      rw [MeetsForeignEncoding, if_neg hpaths]
      exact ⟨hprepare, before, path, behind, w, bytes, hschemas, hbefore, hread, hforeign⟩

theorem foreign_of_run (h : (s.run o).1 = .error e) (hlogged : e.isLogged = false) :
    ∃ foreign, s.MeetsForeignEncoding o foreign := by
  by_cases hpaths : o.paths = []
  · rw [run, if_pos (by simpa using hpaths), runStream_result] at h
    cases hforeign : foreignEncoding? s.input with
    | some foreign => exact ⟨foreign, by rwa [MeetsForeignEncoding, if_pos hpaths]⟩
    | none =>
      rcases Schema.ofBytes_of_not_foreign hforeign with ⟨schema, hload⟩ | ⟨failure, hload⟩
      · rw [hload] at h
        cases h
      · rw [hload] at h
        cases h
        cases hlogged
  · by_cases hsome : s.schemas o = []
    · rw [run, if_neg (by simpa using hpaths), if_pos (by simpa using hsome)] at h
      cases h
    · exact foreign_of_runOn hpaths hsome h hlogged

theorem prepareOutput_congr (h : t.workspace = s.workspace) (folder : String) :
    (t.prepareOutput folder).1 = (s.prepareOutput folder).1 ∧
      (t.prepareOutput folder).2.workspace = (s.prepareOutput folder).2.workspace := by
  unfold prepareOutput
  rw [h]
  split
  · exact ⟨rfl, h⟩
  · simp only
    split <;> exact ⟨rfl, rfl⟩

/-- What a run comes to depends on the file tree and the standard input alone. -/
theorem meetsForeignEncoding_congr (hworkspace : t.workspace = s.workspace)
    (hinput : t.input = s.input) :
    t.MeetsForeignEncoding o foreign ↔ s.MeetsForeignEncoding o foreign := by
  obtain ⟨hresult, hready⟩ := prepareOutput_congr hworkspace o.outputFolder
  simp only [MeetsForeignEncoding, hinput, hresult, targetFolder, outputFolder, ready, hready,
    schemas, hworkspace]

/-- The session that a command runs in. It differs in its log alone. -/
def opened (s : Session) (o : Options) : Session :=
  { s with verbose := o.verbose }.note .debug .command
    ("Working from root directory: " ++ s.workspace.homePath)

theorem meetsForeignEncoding_opened :
    (s.opened o).MeetsForeignEncoding o foreign ↔ s.MeetsForeignEncoding o foreign :=
  meetsForeignEncoding_congr (t := s.opened o) rfl rfl

/-- The exit code comes from a run in the opened session. -/
theorem execute_result (s : Session) (o : Options) : (s.execute o).1 =
    match ((s.opened o).run o).1 with
    | .ok () => .ok 0
    | .error e => if e.isLogged then .ok 1 else .error e := by
  unfold execute
  simp only [← opened.eq_def]
  split
  · next after hrun => rw [hrun]
  · next e after hrun =>
    rw [hrun]
    simp only
    split <;> rfl

theorem execute_of_foreign (h : s.MeetsForeignEncoding o foreign) :
    (s.execute o).1 = .error (.load foreign.loadError) := by
  rw [execute_result, run_of_foreign (meetsForeignEncoding_opened.mpr h)]
  simp only [foreign.isLogged_loadError, Bool.false_eq_true, ↓reduceIte]

theorem execute_cases (s : Session) (o : Options) :
    (s.execute o).1 = .ok 0 ∨ (s.execute o).1 = .ok 1 ∨
      ∃ foreign, s.MeetsForeignEncoding o foreign := by
  rw [execute_result]
  cases hrun : ((s.opened o).run o).1 with
  | ok done => exact .inl rfl
  | error e =>
    cases hlogged : e.isLogged with
    | true => exact .inr (.inl (by simp only [hlogged, ↓reduceIte]))
    | false =>
      obtain ⟨foreign, hmeets⟩ := foreign_of_run hrun hlogged
      exact .inr (.inr ⟨foreign, meetsForeignEncoding_opened.mp hmeets⟩)

theorem command_result {arguments : List String} (h : Options.ofArguments arguments = .ok o) :
    (s.command arguments).1 = (s.execute o).1.mapError .failed := by
  unfold command
  rw [h]
  simp only
  split
  · next e after hexecute => rw [hexecute]; rfl
  · next code after hexecute => rw [hexecute]; rfl

/-- Loading a document in a foreign encoding fails with an error that the command does not log.
Nothing else keeps loading from a schema or an error of its own, and nothing else keeps an accepted
command line from the exit code 0 or 1. -/
theorem unlogged_iff_foreign (s : Session) {arguments : List String}
    (h : Options.ofArguments arguments = .ok o) :
    (∀ bytes, ((∃ schema, Schema.ofBytes bytes = .ok schema) ∨
        ∃ e, Schema.ofBytes bytes = .error (.schema e)) ↔ foreignEncoding? bytes = none) ∧
    (∀ bytes foreign, foreignEncoding? bytes = some foreign →
      Schema.ofBytes bytes = .error foreign.loadError) ∧
    (((s.command arguments).1 = .ok 0 ∨ (s.command arguments).1 = .ok 1) ↔
      ∀ foreign, ¬ s.MeetsForeignEncoding o foreign) ∧
    ∀ foreign, s.MeetsForeignEncoding o foreign →
      (s.command arguments).1 = .error (.failed (.load foreign.loadError)) := by
  have hforeign (foreign) (hmeets : s.MeetsForeignEncoding o foreign) :
      (s.command arguments).1 = .error (.failed (.load foreign.loadError)) := by
    rw [command_result h, execute_of_foreign hmeets]
    rfl
  refine ⟨Schema.ofBytes_ok_or_schema_iff, fun _ _ => Schema.ofBytes_of_foreign, ⟨?_, ?_⟩, hforeign⟩
  · rintro hcode foreign hmeets
    rw [hforeign foreign hmeets] at hcode
    rcases hcode with hcode | hcode <;> cases hcode
  · intro hnone
    rw [command_result h]
    rcases s.execute_cases o with hok | hlogged | ⟨foreign, hmeets⟩
    · exact .inl (by rw [hok]; rfl)
    · exact .inr (by rw [hlogged]; rfl)
    · exact absurd hmeets (hnone foreign)

/-- A sound interface description in all but its encoding. -/
def bogusDocument : List UInt8 :=
  "<?xml version=\"1.0\" encoding=\"bogus\"?><interfaces/>".toList.map fun c =>
    c.toNat.toUInt8

def bogus : Session := Session.start ⟨⟨[]⟩, []⟩ bogusDocument .notInstalled

theorem foreignEncoding?_bogus :
    foreignEncoding? bogusDocument = some (.unknown "bogus") := by
  decide +kernel

theorem ofArguments_nil : Options.ofArguments [] = .ok Options.default := by
  decide +kernel

theorem meetsForeignEncoding_bogus :
    bogus.MeetsForeignEncoding Options.default (.unknown "bogus") :=
  foreignEncoding?_bogus

/-- The command ends without an exit code. -/
theorem bogus_unlogged : (bogus.command []).1 =
    .error (.failed (.load (.unknownEncoding "bogus"))) :=
  (unlogged_iff_foreign bogus ofArguments_nil).2.2.2 _ meetsForeignEncoding_bogus

/-- Neither does loading fail with errors of the schema alone, nor does every accepted command line
end in an exit code. -/
theorem not_only_schema_errors :
    (¬ ∀ bytes, (∃ schema, Schema.ofBytes bytes = .ok schema) ∨
      ∃ e, Schema.ofBytes bytes = .error (.schema e)) ∧
    ¬ ∀ (s : Session) (arguments : List String) (o : Options),
      Options.ofArguments arguments = .ok o →
        (s.command arguments).1 = .ok 0 ∨ (s.command arguments).1 = .ok 1 := by
  constructor
  · intro hall
    have hnone := (Schema.ofBytes_ok_or_schema_iff bogusDocument).mp (hall bogusDocument)
    cases foreignEncoding?_bogus.symm.trans hnone
  · intro hall
    have hcode := hall bogus [] Options.default ofArguments_nil
    rw [command_result ofArguments_nil, execute_of_foreign meetsForeignEncoding_bogus] at hcode
    rcases hcode with hcode | hcode <;> cases hcode

end Session

end DeclGen
