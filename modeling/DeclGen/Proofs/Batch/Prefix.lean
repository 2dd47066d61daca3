import DeclGen.Proofs.Batch.Outputs

/-!
What a run leaves behind, wherever it stops. Each schema file is compiled and written in one step
that either changes one declaration file or nothing, so a run that fails leaves what the steps
before the failure have written.
-/

namespace DeclGen

namespace Workspace

variable {w w' : Workspace} {folder path : String} {paths : List String} {place : Location}

/-- Compiles a schema file as it is now, and writes its whole source to its declaration file. -/
def writeSource (w : Workspace) (folder path : String) : Except RunError Workspace :=
  match w.compiled path with
  | .error e => .error e
  | .ok source => (w.write (outputPath path folder) source.toUTF8.toList).mapError .file

def writeSources (w : Workspace) (folder : String) (paths : List String) :
    Except RunError Workspace :=
  paths.foldlM (fun w path => w.writeSource folder path) w

/-- The same files stand at the same places, whatever folders there are. -/
def SameFiles (w w' : Workspace) : Prop := ∀ place bytes,
  w'.tree.node? place = some (.file bytes) ↔ w.tree.node? place = some (.file bytes)

theorem writeSource_eq_ok : w.writeSource folder path = .ok w' ↔ ∃ source,
    w.compiled path = .ok source ∧
      w.write (outputPath path folder) source.toUTF8.toList = .ok w' := by
  unfold writeSource
  cases w.compiled path with
  | error e => simp
  | ok source =>
    simp only [Except.ok.injEq, exists_eq_left']
    cases w.write (outputPath path folder) source.toUTF8.toList with
    | error e => simp only [Except.mapError, reduceCtorEq]
    | ok after => simp only [Except.mapError, Except.ok.injEq]

theorem writeSources_nil (w : Workspace) (folder : String) : w.writeSources folder [] = .ok w := rfl

theorem writeSources_cons_eq_ok : w.writeSources folder (path :: paths) = .ok w' ↔
    ∃ after, w.writeSource folder path = .ok after ∧ after.writeSources folder paths = .ok w' := by
  unfold writeSources
  rw [List.foldlM_cons]
  cases w.writeSource folder path with
  | error e => simp [bind, Except.bind]
  | ok after => simp [bind, Except.bind]

/-- Either all sources are written, or there is a first one that is not. -/
theorem writeSources_cases (w : Workspace) (folder : String) (paths : List String) :
    (∃ w', w.writeSources folder paths = .ok w') ∨
      ∃ before path behind w' e, paths = before ++ path :: behind ∧
        w.writeSources folder before = .ok w' ∧ w'.writeSource folder path = .error e := by
  induction paths generalizing w with
  | nil => exact .inl ⟨w, writeSources_nil w folder⟩
  | cons first rest ih =>
    cases hfirst : w.writeSource folder first with
    | error e => exact .inr ⟨[], first, rest, w, e, rfl, writeSources_nil w folder, hfirst⟩
    | ok after =>
      rcases ih after with ⟨w', hall⟩ | ⟨before, path, behind, w', e, rfl, hbefore, hfail⟩
      · exact .inl ⟨w', writeSources_cons_eq_ok.mpr ⟨after, hfirst, hall⟩⟩
      · exact .inr ⟨first :: before, path, behind, w', e, rfl,
          writeSources_cons_eq_ok.mpr ⟨after, hfirst, hbefore⟩, hfail⟩

theorem grown_writeSource (h : w.writeSource folder path = .ok w') :
    Grown (fun _ => True) w w' := by
  obtain ⟨source, _, hwrite⟩ := writeSource_eq_ok.mp h
  exact grown_write hwrite trivial

theorem grown_writeSources (h : w.writeSources folder paths = .ok w') :
    Grown (fun _ => True) w w' := by
  induction paths generalizing w with
  | nil =>
    cases h
    exact .refl _
  | cons first rest ih =>
    obtain ⟨after, hfirst, hrest⟩ := writeSources_cons_eq_ok.mp h
    exact (grown_writeSource hfirst).trans (ih hrest)

/-- Writing the source of a schema changes nothing but its declaration file. -/
theorem node?_writeSource (h : w.writeSource folder path = .ok w')
    (hne : w.place (outputPath path folder) ≠ .ok place) :
    w'.tree.node? place = w.tree.node? place := by
  obtain ⟨source, _, hwrite⟩ := writeSource_eq_ok.mp h
  obtain ⟨target, htarget, _, hnode, rfl⟩ := write_eq_ok.mp hwrite
  have hroot : target ≠ [] := by
    rintro rfl
    exact hnode (FileTree.node?_root w.tree)
  rw [FileTree.node?_put w.tree place _ hroot, if_neg]
  rintro rfl
  exact hne htarget

theorem node?_writeSources (h : w.writeSources folder paths = .ok w')
    (hne : ∀ path ∈ paths, w'.place (outputPath path folder) ≠ .ok place) :
    w'.tree.node? place = w.tree.node? place := by
  induction paths generalizing w with
  | nil =>
    cases h
    rfl
  | cons first rest ih =>
    obtain ⟨after, hfirst, hrest⟩ := writeSources_cons_eq_ok.mp h
    have hstart : w.place (outputPath first folder) ≠ .ok place := fun hplace =>
      hne first List.mem_cons_self ((grown_writeSources h).place_eq hplace)
    rw [ih hrest fun path hmem => hne path (List.mem_cons_of_mem _ hmem),
      node?_writeSource hfirst hstart]

/-- Sources can only be written to a folder that is there. -/
theorem isFolder_of_writeSource (hfolder : folder ≠ "") (h : w.writeSource folder path = .ok w') :
    w.isFolder folder = true := by
  obtain ⟨source, _, hwrite⟩ := writeSource_eq_ok.mp h
  obtain ⟨target, htarget, _⟩ := write_eq_ok.mp hwrite
  obtain ⟨above, habove, _⟩ := (place_outputPath hfolder).mp htarget
  exact isFolder_iff.mpr ⟨above, habove⟩

end Workspace

namespace Session

variable {s : Session} {w : Workspace} {folder path : String}

/-- The generation of one file succeeds with its source written, or fails with nothing written. In
both cases the type checker is not started. -/
theorem generate_cases (s : Session) (folder path : String) :
    (∃ source s', s.generate (some path) (some (outputPath path folder)) generatorName =
        (.ok source, s') ∧
      s.workspace.writeSource folder path = .ok s'.workspace ∧ s'.checks = s.checks) ∨
    ∃ e s', s.generate (some path) (some (outputPath path folder)) generatorName =
        (.error e, s') ∧
      s.workspace.writeSource folder path = .error e ∧ s'.workspace = s.workspace ∧
        s'.checks = s.checks := by
  unfold generate Workspace.writeSource Workspace.compiled
  simp only [readDocument]
  cases s.workspace.read path with
  | error e => exact .inr ⟨_, s, rfl, rfl, rfl, rfl⟩
  | ok bytes =>
    simp only
    cases Schema.ofBytes bytes with
    | error e => exact .inr ⟨_, s, rfl, rfl, rfl, rfl⟩
    | ok schema =>
      simp only [deliver, noteAll, Except.mapError, Except.map]
      cases s.workspace.write (outputPath path folder)
          (schema.compile generatorName).toUTF8.toList with
      | error e => exact .inr ⟨_, _, rfl, rfl, rfl, rfl⟩
      | ok after => exact .inl ⟨_, _, rfl, rfl, rfl⟩

/-- While sources are written, the generation goes on from what is written. -/
theorem generateEach_append {before : List String} (behind : List String)
    (h : s.workspace.writeSources folder before = .ok w) :
    ∃ s' : Session,
      s.generateEach folder (before ++ behind) = s'.generateEach folder behind ∧
        s'.workspace = w ∧ s'.checks = s.checks := by
  induction before generalizing s with
  | nil =>
    cases h
    exact ⟨s, rfl, rfl, rfl⟩
  | cons first rest ih =>
    obtain ⟨after, hfirst, hrest⟩ := Workspace.writeSources_cons_eq_ok.mp h
    rw [List.cons_append, generateEach]
    rcases generate_cases s folder first with
      ⟨source, s', hgenerate, hwrite, hchecks⟩ | ⟨e, s', _, hwrite, _⟩
    · cases hwrite.symm.trans hfirst
      obtain ⟨s'', heach, hworkspace, hchecks'⟩ := ih hrest
      rw [hgenerate]
      exact ⟨s'', heach, hworkspace, hchecks'.trans hchecks⟩
    · cases hwrite.symm.trans hfirst

theorem generateEach_of_ok {paths : List String}
    (h : s.workspace.writeSources folder paths = .ok w) :
    ∃ s', s.generateEach folder paths = (.ok (), s') ∧ s'.workspace = w := by
  obtain ⟨s', heach, hworkspace, _⟩ := generateEach_append [] h
  rw [List.append_nil] at heach
  exact ⟨s', heach, hworkspace⟩

theorem generateEach_of_error {before : List String} {e : RunError} (behind : List String)
    (h : s.workspace.writeSources folder before = .ok w)
    (hfail : w.writeSource folder path = .error e) :
    ∃ s', s.generateEach folder (before ++ path :: behind) = (.error e, s') ∧
      s'.workspace = w ∧ s'.checks = s.checks := by
  obtain ⟨reached, heach, rfl, hchecks⟩ := generateEach_append (path :: behind) h
  rw [heach, generateEach]
  rcases generate_cases reached folder path with
    ⟨_, s', _, hwrite, _⟩ | ⟨e', s', hgenerate, hwrite, hworkspace, hchecks'⟩
  · cases hwrite.symm.trans hfail
  · cases hwrite.symm.trans hfail
    rw [hgenerate]
    exact ⟨s', rfl, hworkspace, hchecks'.trans hchecks⟩

variable {o : Options}

/-- The folder that the declaration files of a run go to, or none if each goes beside its schema. -/
def targetFolder (s : Session) (o : Options) : String :=
  if o.outputFolder = "" then "" else s.outputFolder o

/-- The folders that a run may have to make: its output folder and those above it. -/
def neededFolders (s : Session) (o : Options) : List String :=
  if o.outputFolder = "" then [] else Path.ancestors (s.outputFolder o)

/-- The workspace in which a run starts to generate. -/
def ready (s : Session) (o : Options) : Workspace :=
  (s.prepareOutput o.outputFolder).2.workspace

theorem foldersAdded_ready (s : Session) (o : Options) :
    Workspace.FoldersAdded (s.neededFolders o) s.workspace (s.ready o) := by
  unfold ready neededFolders prepareOutput
  split
  · exact .refl [] s.workspace
  · have hadded := s.workspace.foldersAdded_makeFolders (s.outputFolder o)
    rw [outputFolder] at hadded
    simp only
    split
    · next e w hmade =>
      rw [hmade] at hadded
      exact hadded
    · next w hmade =>
      rw [hmade] at hadded
      exact hadded

theorem checks_prepareOutput (s : Session) (folder : String) :
    (s.prepareOutput folder).2.checks = s.checks := by
  unfold prepareOutput
  split
  · rfl
  · simp only
    split <;> rfl

theorem prepareOutput_eq {result : Except FileError String}
    (h : (s.prepareOutput o.outputFolder).1 = result) :
    s.prepareOutput o.outputFolder = (result, (s.prepareOutput o.outputFolder).2) :=
  Prod.ext h rfl

theorem eq_targetFolder_of_prepareOutput
    (h : (s.prepareOutput o.outputFolder).1 = .ok folder) : folder = s.targetFolder o := by
  unfold targetFolder
  by_cases hnone : o.outputFolder = ""
  · rw [prepareOutput, if_pos hnone] at h
    rw [if_pos hnone]
    exact (Except.ok.inj h).symm
  · rw [if_neg hnone]
    exact (prepareOutput_eq_ok hnone (prepareOutput_eq h)).1

theorem isFolder_ready (hfolder : o.outputFolder ≠ "")
    (h : (s.prepareOutput o.outputFolder).1 = .ok folder) :
    (s.ready o).isFolder (s.outputFolder o) = true ∨ ∃ above,
      Path.parent? (s.outputFolder o) = some (above, ".") ∧
        (s.ready o).isFolder above = false := by
  unfold ready
  rw [prepareOutput, if_neg hfolder, ← outputFolder.eq_def] at h ⊢
  simp only at h ⊢
  split at h
  · cases h
  · next w hmade =>
    have hthere := Workspace.isFolder_makeFolders (congrArg Prod.fst hmade)
    rw [hmade] at hthere
    exact hthere

theorem schemas_of_no_paths (h : o.paths = []) : s.schemas o = [] := by
  simp [schemas, Workspace.collect, h, sortedPaths]

theorem run_eq_runOn (hsome : s.schemas o ≠ []) : s.run o = s.runOn o (s.schemas o) := by
  have hpaths : o.paths ≠ [] := fun h => hsome (schemas_of_no_paths h)
  rw [run, if_neg (by simpa using hpaths), if_neg (by simpa using hsome)]

theorem workspace_generate_stream {s' : Session} {generator : String}
    {result : Except RunError String} (h : s.generate none none generator = (result, s')) :
    s'.workspace = s.workspace := by
  unfold generate at h
  simp only [readDocument] at h
  cases hload : Schema.ofBytes s.input with
  | error e =>
    rw [hload] at h
    cases h
    rfl
  | ok schema =>
    rw [hload] at h
    cases h
    rfl

theorem workspace_runStream (s : Session) (o : Options) :
    (s.runStream o).2.workspace = s.workspace := by
  unfold runStream
  simp only
  split
  · next e after hgenerate =>
    simp only [workspace_generate_stream hgenerate]
    split <;> split <;> rfl
  · next source after hgenerate =>
    simp only [workspace_generate_stream hgenerate]
    split <;> split <;> rfl

/-- Without schema files a run changes nothing. -/
theorem workspace_run_of_nil (h : s.schemas o = []) : (s.run o).2.workspace = s.workspace := by
  unfold run
  split
  · exact workspace_runStream s o
  · rw [if_pos (by simpa using h)]
    rfl

theorem run_of_refused {e : FileError} (hsome : s.schemas o ≠ [])
    (h : (s.prepareOutput o.outputFolder).1 = .error e) :
    s.run o = (.error (.file e), (s.prepareOutput o.outputFolder).2) := by
  rw [run_eq_runOn hsome, runOn, prepareOutput_eq h]

/-- What has written all sources can only fail in the type checker. -/
theorem runOn_result_of_generated {ready finished : Session} {schemas : List String}
    (hprepare : s.prepareOutput o.outputFolder = (.ok folder, ready))
    (heach : ready.generateEach folder schemas = (.ok (), finished)) :
    (s.runOn o schemas).1 = .ok () ∨ ∃ e, (s.runOn o schemas).1 = .error (.check e) := by
  rw [runOn, hprepare]
  simp only [heach]
  split
  · split
    · next e after hvalidate => exact .inr ⟨e, rfl⟩
    · exact .inl rfl
  · exact .inl rfl

/-- If the sources of all schema files can be written, a run has written them, whatever the type
checker finds. -/
theorem run_of_ok (hsome : s.schemas o ≠ [])
    (hprepare : (s.prepareOutput o.outputFolder).1 = .ok folder)
    (h : (s.ready o).writeSources folder (s.schemas o) = .ok w) :
    (s.run o).2.workspace = w ∧
      ((s.run o).1 = .ok () ∨ ∃ e, (s.run o).1 = .error (.check e)) := by
  obtain ⟨finished, heach, hworkspace⟩ := generateEach_of_ok h
  have hready := prepareOutput_eq hprepare
  rw [run_eq_runOn hsome]
  exact ⟨(workspace_runOn hready heach).trans hworkspace, runOn_result_of_generated hready heach⟩

/-- A run ends with the first schema file whose source cannot be written. -/
theorem run_of_error {before behind : List String} {e : RunError}
    (hprepare : (s.prepareOutput o.outputFolder).1 = .ok folder)
    (hschemas : s.schemas o = before ++ path :: behind)
    (hbefore : (s.ready o).writeSources folder before = .ok w)
    (hfail : w.writeSource folder path = .error e) :
    (s.run o).1 = .error e ∧ (s.run o).2.workspace = w ∧ (s.run o).2.checks = s.checks := by
  have hsome : s.schemas o ≠ [] := by
    rw [hschemas]
    simp
  obtain ⟨stopped, heach, hworkspace, hchecks⟩ := generateEach_of_error behind hbefore hfail
  rw [run_eq_runOn hsome, hschemas, runOn, prepareOutput_eq hprepare]
  simp only [heach, true_and]
  exact ⟨hworkspace, hchecks.trans (checks_prepareOutput s o.outputFolder)⟩

/-- A run on schema files fails to make its output folder, writes all sources, or writes those
before the first that cannot be written. -/
theorem run_cases (hsome : s.schemas o ≠ []) :
    (∃ e, (s.prepareOutput o.outputFolder).1 = .error e) ∨
    (s.prepareOutput o.outputFolder).1 = .ok (s.targetFolder o) ∧
      ∃ before behind w, s.schemas o = before ++ behind ∧
        (s.ready o).writeSources (s.targetFolder o) before = .ok w ∧
        (s.run o).2.workspace = w ∧ (behind ≠ [] → (s.run o).2.checks = s.checks ∧
          ∃ e, (s.run o).1 = .error e) := by
  cases hprepare : (s.prepareOutput o.outputFolder).1 with
  | error e => exact .inl ⟨e, rfl⟩
  | ok folder =>
    obtain rfl := eq_targetFolder_of_prepareOutput hprepare
    refine .inr ⟨rfl, ?_⟩
    rcases (s.ready o).writeSources_cases (s.targetFolder o) (s.schemas o) with
      ⟨w, hall⟩ | ⟨before, path, behind, w, e, hschemas, hbefore, hfail⟩
    · exact ⟨_, [], w, (List.append_nil _).symm, hall, (run_of_ok hsome hprepare hall).1,
        fun h => absurd rfl h⟩
    · obtain ⟨hresult, hworkspace, hchecks⟩ := run_of_error hprepare hschemas hbefore hfail
      exact ⟨before, path :: behind, w, hschemas, hbefore, hworkspace,
        fun _ => ⟨hchecks, e, hresult⟩⟩

/-- What a run leaves behind, wherever it stops. -/
structure LeavesCleanPrefix (s : Session) (o : Options) : Prop where
  /-- Without schema files nothing is changed, and no folder is made. -/
  nothing : s.schemas o = [] → (s.run o).2.workspace = s.workspace
  /-- Before it generates, a run adds at most its output folder and the folders above it. -/
  folders : Workspace.FoldersAdded (s.neededFolders o) s.workspace (s.ready o)
  /-- After that the output folder is there. There is one exception: a path that ends in a dot asks
  for no folder of its own, and what stands before the dot may be no folder. -/
  made : o.outputFolder ≠ "" → (s.prepareOutput o.outputFolder).1 = .ok (s.targetFolder o) →
    (s.ready o).isFolder (s.outputFolder o) = true ∨ ∃ above,
      Path.parent? (s.outputFolder o) = some (above, ".") ∧ (s.ready o).isFolder above = false
  /-- If the output folder cannot be made, no file is changed. -/
  refused : s.schemas o ≠ [] → ∀ e, (s.prepareOutput o.outputFolder).1 = .error e →
    (s.run o).1 = .error (.file e) ∧ (s.run o).2.workspace = s.ready o ∧
      (s.run o).2.checks = s.checks ∧ s.workspace.SameFiles (s.run o).2.workspace
  /-- In that exception the first source cannot be written, so no file is changed either. -/
  absent : s.schemas o ≠ [] → o.outputFolder ≠ "" →
    (s.ready o).isFolder (s.outputFolder o) = false →
      s.workspace.SameFiles (s.run o).2.workspace ∧ (s.run o).2.checks = s.checks ∧
        ∃ e, (s.run o).1 = .error e
  /-- The first schema file that cannot be read, parsed or written ends the run. The sources before
  it are written, and neither its own file nor a later one is touched. -/
  stopped : (s.prepareOutput o.outputFolder).1 = .ok (s.targetFolder o) →
    ∀ before path behind w e, s.schemas o = before ++ path :: behind →
      (s.ready o).writeSources (s.targetFolder o) before = .ok w →
      w.writeSource (s.targetFolder o) path = .error e →
        (s.run o).1 = .error e ∧ (s.run o).2.workspace = w ∧ (s.run o).2.checks = s.checks
  /-- If no schema file fails, all sources are written. -/
  finished : s.schemas o ≠ [] → (s.prepareOutput o.outputFolder).1 = .ok (s.targetFolder o) →
    ∀ w, (s.ready o).writeSources (s.targetFolder o) (s.schemas o) = .ok w →
      (s.run o).2.workspace = w
  /-- A file that is no declaration file of a collected schema stays as it is. -/
  elsewhere : ∀ place, (∀ path ∈ s.schemas o, (s.run o).2.workspace.place
      (outputPath path (s.targetFolder o)) ≠ .ok place) → ∀ bytes,
    (s.run o).2.workspace.tree.node? place = some (.file bytes) ↔
      s.workspace.tree.node? place = some (.file bytes)

/-- Every run leaves a clean prefix, wherever it stops. -/
theorem run_stops_cleanly (s : Session) (o : Options) : s.LeavesCleanPrefix o := by
  have hfolders := foldersAdded_ready s o
  refine ⟨workspace_run_of_nil, hfolders, isFolder_ready, ?_, ?_, ?_, ?_, ?_⟩
  · intro hsome e hrefused
    rw [run_of_refused hsome hrefused]
    exact ⟨rfl, rfl, checks_prepareOutput s o.outputFolder, fun _ _ => hfolders.file_iff⟩
  · intro hsome hfolder habsent
    rcases run_cases hsome with ⟨e, hrefused⟩ | ⟨_, before, behind, w, hschemas, hbefore, hrun⟩
    · rw [run_of_refused hsome hrefused]
      exact ⟨fun _ _ => hfolders.file_iff, checks_prepareOutput s o.outputFolder, _, rfl⟩
    · -- The first source would need the folder, so none is written.
      obtain rfl : before = [] := by
        cases before with
        | nil => rfl
        | cons first rest =>
          obtain ⟨after, hfirst, _⟩ := Workspace.writeSources_cons_eq_ok.mp hbefore
          rw [targetFolder, if_neg hfolder] at hfirst
          have hthere := Workspace.isFolder_of_writeSource (s.outputFolder_ne_empty o) hfirst
          rw [habsent] at hthere
          cases hthere
      obtain ⟨hworkspace, hstopped⟩ := hrun
      cases hbefore
      rw [hworkspace]
      rw [List.nil_append] at hschemas
      exact ⟨fun _ _ => hfolders.file_iff, hstopped (hschemas ▸ hsome)⟩
  · intro hprepare before path behind w e hschemas hbefore hfail
    exact run_of_error hprepare hschemas hbefore hfail
  · intro hsome hprepare w hall
    exact (run_of_ok hsome hprepare hall).1
  · intro place hplace bytes
    by_cases hsome : s.schemas o = []
    · rw [workspace_run_of_nil hsome]
    · rcases run_cases hsome with ⟨e, hrefused⟩ | ⟨_, before, behind, w, hschemas, hbefore, hrun⟩
      · rw [run_of_refused hsome hrefused]
        exact hfolders.file_iff
      · rw [hrun.1] at hplace ⊢
        have hmem : before ⊆ s.schemas o := hschemas ▸ List.subset_append_left before behind
        rw [Workspace.node?_writeSources hbefore fun path hpath => hplace path (hmem hpath)]
        exact hfolders.file_iff

/-- A folder with three schemas, of which the second is no document. -/
def broken : Session :=
  let bytes (text : String) : List UInt8 := text.toList.map fun c => c.toNat.toUInt8
  Session.start ⟨⟨[
    (["d"], .folder),
    (["d", "a.xml"], .file (bytes "<interfaces/>")),
    (["d", "b.xml"], .file (bytes "x")),
    (["d", "c.xml"], .file (bytes "<interfaces/>"))]⟩, []⟩
    [] (.finished 0 "")

def brokenOptions : Options :=
  { Options.default with paths := ["d"], outputFolder := "out", check := true }

theorem schemas_broken :
    broken.schemas brokenOptions = ["/d/a.xml", "/d/b.xml", "/d/c.xml"] := by
  decide +kernel

/-- The run leaves what the first schema has written, and starts no check. -/
theorem broken_stops_at_second : ∃ w e,
    (broken.ready brokenOptions).writeSources "/out" ["/d/a.xml"] = .ok w ∧
    w.writeSource "/out" "/d/b.xml" = .error e ∧
    (broken.run brokenOptions).1 = .error e ∧
    (broken.run brokenOptions).2.workspace = w ∧ (broken.run brokenOptions).2.checks = [] := by
  have htarget : broken.targetFolder brokenOptions = "/out" := by decide +kernel
  have hprepare : (broken.prepareOutput brokenOptions.outputFolder).1 =
      .ok (broken.targetFolder brokenOptions) := by
    decide +kernel
  have hfirst : ((broken.ready brokenOptions).writeSources "/out" ["/d/a.xml"]).isOk = true := by
    decide +kernel
  have hsecond : ((broken.ready brokenOptions).writeSources "/out" ["/d/a.xml"] >>=
      (·.writeSource "/out" "/d/b.xml")).isOk = false := by
    decide +kernel
  cases hw : (broken.ready brokenOptions).writeSources "/out" ["/d/a.xml"] with
  | error e =>
    rw [hw] at hfirst
    cases hfirst
  | ok w =>
    rw [hw] at hsecond
    change (w.writeSource "/out" "/d/b.xml").isOk = false at hsecond
    cases he : w.writeSource "/out" "/d/b.xml" with
    | ok after =>
      rw [he] at hsecond
      cases hsecond
    | error e =>
      have hstopped := (run_stops_cleanly broken brokenOptions).stopped hprepare
        ["/d/a.xml"] "/d/b.xml" ["/d/c.xml"] w e schemas_broken
      rw [htarget] at hstopped
      exact ⟨w, e, rfl, he, hstopped hw he⟩

end Session

end DeclGen
