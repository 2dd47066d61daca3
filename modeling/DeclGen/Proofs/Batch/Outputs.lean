import DeclGen.Proofs.Batch.Generate
import DeclGen.Proofs.Files.Collection
import DeclGen.Proofs.Files.Naming

/-!
What a run leaves in its output folder. The schema files are generated one behind the other, so of
those that share a declaration file the last one decides what it holds.
-/

namespace DeclGen

/-- The schema files whose declarations go to the same file as those of one path. -/
def sharing (schemas : List String) (folder path : String) : List String :=
  schemas.filter fun other => outputPath other folder = outputPath path folder

/-- The last schema file whose declarations go to the same file as those of one path. -/
def lastSharing (schemas : List String) (folder path : String) : String :=
  (sharing schemas folder path).getLast?.getD path

/-- A file holds exactly the source that a schema file compiled to at an earlier time. -/
def HoldsSource (before after : Workspace) (path target : String) : Prop :=
  ∃ source, before.compiled path = .ok source ∧ after.read target = .ok source.toUTF8.toList

theorem sharing_cons_of_ne {schemas : List String} {folder path first : String}
    (h : outputPath first folder ≠ outputPath path folder) :
    sharing (first :: schemas) folder path = sharing schemas folder path := by
  rw [sharing, List.filter_cons_of_neg (by simpa using h), sharing]

theorem sharing_cons_of_eq {schemas : List String} {folder path first : String}
    (h : outputPath first folder = outputPath path folder) :
    sharing (first :: schemas) folder path = first :: sharing schemas folder path := by
  rw [sharing, List.filter_cons_of_pos (by simpa using h), sharing]

/-- A schema in front changes the last one that shares a file only if it is the only one. -/
theorem getLast?_sharing_cons {schemas : List String} {folder path : String} (first : String)
    (hne : sharing schemas folder path ≠ []) :
    (sharing (first :: schemas) folder path).getLast? =
      (sharing schemas folder path).getLast? := by
  by_cases hsame : outputPath first folder = outputPath path folder
  · rw [sharing_cons_of_eq hsame]
    cases hsharing : sharing schemas folder path with
    | nil => exact absurd hsharing hne
    | cons next others => rw [List.getLast?_cons_cons]
  · rw [sharing_cons_of_ne hsame]

theorem mem_sharing_self {schemas : List String} {path : String} (folder : String)
    (h : path ∈ schemas) : path ∈ sharing schemas folder path :=
  List.mem_filter.mpr ⟨h, by simp⟩

theorem getLast?_sharing {schemas : List String} {path : String} (folder : String)
    (h : path ∈ schemas) :
    (sharing schemas folder path).getLast? = some (lastSharing schemas folder path) := by
  cases hlast : (sharing schemas folder path).getLast? with
  | none =>
    have hself := mem_sharing_self folder h
    rw [List.getLast?_eq_none_iff.mp hlast] at hself
    exact absurd hself List.not_mem_nil
  | some last => rw [lastSharing, hlast, Option.getD_some]

theorem lastSharing_mem {schemas : List String} {path : String} (folder : String)
    (h : path ∈ schemas) : lastSharing schemas folder path ∈ schemas ∧
      outputPath (lastSharing schemas folder path) folder = outputPath path folder := by
  have hlast := List.mem_of_getLast? (getLast?_sharing folder h)
  simpa using List.mem_filter.mp hlast

namespace Session

variable {s s' : Session} {w : Workspace} {folder path : String} {schemas : List String}

/-- A declaration file that belongs to none of the schemas stays as it is. -/
theorem read_generateEach (hne : folder ≠ "") (hnone : sharing schemas folder path = [])
    (h : s.generateEach folder schemas = (.ok (), s')) :
    s'.workspace.read (outputPath path folder) = s.workspace.read (outputPath path folder) := by
  induction schemas generalizing s with
  | nil =>
    cases h
    rfl
  | cons first rest ih =>
    obtain ⟨source, after, hfirst, hrest⟩ := generateEach_cons_eq_ok h
    obtain ⟨_, hwrite⟩ := generate_eq_ok hfirst
    have hother : outputPath first folder ≠ outputPath path folder := by
      intro hsame
      rw [sharing_cons_of_eq hsame] at hnone
      cases hnone
    rw [sharing_cons_of_ne hother] at hnone
    rw [ih hnone hrest, Workspace.read_write_outputPath hne hother.symm hwrite]

/-- Of the schemas that share a declaration file the last one decides what it holds. -/
theorem holdsSource_generateEach {last : String} (hne : folder ≠ "")
    (hpresent : ∀ path ∈ schemas, w.isPresent path = true)
    (hgrown : Workspace.Grown BeginsAsSource w s.workspace)
    (hlast : (sharing schemas folder path).getLast? = some last)
    (h : s.generateEach folder schemas = (.ok (), s')) :
    HoldsSource w s'.workspace last (outputPath path folder) := by
  induction schemas generalizing s with
  | nil => cases hlast
  | cons first rest ih =>
    obtain ⟨source, after, hfirst, hrest⟩ := generateEach_cons_eq_ok h
    obtain ⟨hcompiled, hwrite⟩ := generate_eq_ok hfirst
    -- Either no later schema shares the file, which then stays as it is, or a later one is last.
    by_cases hnone : sharing rest folder path = []
    · have hsame : outputPath first folder = outputPath path folder := by
        by_contra hother
        rw [sharing_cons_of_ne hother, hnone] at hlast
        cases hlast
      rw [sharing_cons_of_eq hsame, hnone] at hlast
      cases hlast
      refine ⟨source, hgrown.compiled_eq (hpresent _ List.mem_cons_self) hcompiled, ?_⟩
      rw [read_generateEach hne hnone hrest, ← hsame]
      exact Workspace.read_write hwrite
    · have hstep := Workspace.grown_write hwrite (Workspace.beginsAsSource_of_compiled hcompiled)
      rw [getLast?_sharing_cons first hnone] at hlast
      exact ih (fun path hmem => hpresent path (List.mem_cons_of_mem _ hmem))
        (hgrown.trans hstep) hlast hrest

variable {o : Options}

/-- Preparing the output tells the path of the output folder, and at most adds folders. -/
theorem prepareOutput_eq_ok {target : String} (hfolder : o.outputFolder ≠ "")
    (h : s.prepareOutput o.outputFolder = (.ok target, s')) :
    target = Path.join s.workspace.homePath o.outputFolder ∧
      ∀ written, Workspace.Grown written s.workspace s'.workspace := by
  rw [prepareOutput, if_neg hfolder] at h
  simp only at h
  split at h
  · cases h
  · next after hmade =>
    cases h
    refine ⟨rfl, fun written => ?_⟩
    have hgrown := Workspace.grown_makeFolders written s.workspace
      (Path.join s.workspace.homePath o.outputFolder)
    rw [hmade] at hgrown
    exact hgrown

theorem workspace_validate (s : Session) (paths : List String) :
    (s.validate paths).2.workspace = s.workspace := by
  unfold validate
  split
  · rfl
  · cases hchecker : s.checker with
    | notInstalled => simp [note, hchecker]
    | broken reason => simp [note, hchecker]
    | finished status report =>
      by_cases hstatus : status = 0
      · simp [note, hchecker, hstatus]
      · simp [note, hchecker, hstatus]

/-- Behind the generation a run leaves the tree alone. -/
theorem workspace_runOn {ready finished : Session} (hprepare : s.prepareOutput o.outputFolder =
    (.ok folder, ready)) (heach : ready.generateEach folder schemas = (.ok (), finished)) :
    (s.runOn o schemas).2.workspace = finished.workspace := by
  rw [runOn, hprepare]
  simp only [heach]
  cases o.check with
  | false => rfl
  | true =>
    have hkept := finished.workspace_validate (schemas.map (outputPath · folder))
    simp only [↓reduceIte]
    split
    · next e after hvalidate =>
      rw [hvalidate] at hkept
      exact hkept
    · next after hvalidate =>
      rw [hvalidate] at hkept
      exact hkept

/-- The output folder of a run, from the root. -/
def outputFolder (s : Session) (o : Options) : String :=
  Path.join s.workspace.homePath o.outputFolder

/-- A run into an output folder that fails in no schema generates them one behind the other. -/
theorem run_generates (hpaths : o.paths ≠ []) (hfolder : o.outputFolder ≠ "")
    (hsome : s.schemas o ≠ []) (hrun : ∀ e, (s.run o).1 = .error e → ∃ c, e = .check c) :
    ∃ ready finished : Session, Workspace.Grown BeginsAsSource s.workspace ready.workspace ∧
      ready.generateEach (s.outputFolder o) (s.schemas o) = (.ok (), finished) ∧
      (s.run o).2.workspace = finished.workspace := by
  have hrunOn : s.run o = s.runOn o (s.schemas o) := by
    rw [run, if_neg (by simpa using hpaths), if_neg (by simpa using hsome)]
  rw [hrunOn, runOn] at hrun
  rw [hrunOn]
  cases hprepare : s.prepareOutput o.outputFolder with
  | mk result ready =>
    rw [hprepare] at hrun
    cases result with
    | error e =>
      obtain ⟨c, hc⟩ := hrun _ rfl
      cases hc
    | ok folder =>
      obtain ⟨rfl, hgrown⟩ := prepareOutput_eq_ok hfolder hprepare
      cases heach : ready.generateEach (s.outputFolder o) (s.schemas o) with
      | mk outcome finished =>
        cases outcome with
        | error e =>
          simp only [← outputFolder.eq_def, heach] at hrun
          obtain ⟨c, rfl⟩ := hrun _ rfl
          have hcheck := ready.generateEach_ne_check (s.outputFolder o) (s.schemas o) c
          rw [heach] at hcheck
          exact absurd rfl hcheck
        | ok done => exact ⟨ready, finished, hgrown _, heach, workspace_runOn hprepare heach⟩

theorem outputFolder_ne_empty (s : Session) (o : Options) : s.outputFolder o ≠ "" := by
  apply Path.join_ne_empty
  intro h
  have hlength := congrArg String.length h
  rw [Workspace.homePath, String.length_append] at hlength
  exact absurd hlength (by simp)

/-- At the end each declaration file holds the source of the last schema that shares it. -/
theorem holdsSource_run (hw : s.workspace.tree.WellFormed) (hpaths : o.paths ≠ [])
    (hfolder : o.outputFolder ≠ "")
    (hrun : ∀ e, (s.run o).1 = .error e → ∃ c, e = .check c) (hmem : path ∈ s.schemas o) :
    HoldsSource s.workspace (s.run o).2.workspace
      (lastSharing (s.schemas o) (s.outputFolder o) path) (outputPath path (s.outputFolder o)) := by
  obtain ⟨ready, finished, hgrown, heach, hend⟩ :=
    run_generates hpaths hfolder (List.ne_nil_of_mem hmem) hrun
  rw [hend]
  exact holdsSource_generateEach (s.outputFolder_ne_empty o)
    (fun path hpath => Workspace.isPresent_of_mem_collect hw hpath) hgrown
    (getLast?_sharing _ hmem) heach

/-- In an output folder the last of the schemas that share a declaration file wins. It holds the
source of that schema as it was at the start; so each schema keeps its own source exactly if all
that share a file compile to one source. -/
theorem last_sharing_schema_wins (s : Session) (o : Options)
    (hw : s.workspace.tree.WellFormed) (hpaths : o.paths ≠ []) (hfolder : o.outputFolder ≠ "")
    (hrun : ∀ e, (s.run o).1 = .error e → ∃ c, e = .check c) :
    (∀ path ∈ s.schemas o, HoldsSource s.workspace (s.run o).2.workspace
      (lastSharing (s.schemas o) (s.outputFolder o) path) (outputPath path (s.outputFolder o))) ∧
    ((∀ path ∈ s.schemas o, HoldsSource s.workspace (s.run o).2.workspace path
        (outputPath path (s.outputFolder o))) ↔
      ∀ p ∈ s.schemas o, ∀ q ∈ s.schemas o,
        outputPath p (s.outputFolder o) = outputPath q (s.outputFolder o) →
          s.workspace.compiled p = s.workspace.compiled q) := by
  refine ⟨fun path hmem => holdsSource_run hw hpaths hfolder hrun hmem, ?_, ?_⟩
  · intro hkept p hp q hq hsame
    obtain ⟨source, hcompiled, hread⟩ := hkept p hp
    obtain ⟨source', hcompiled', hread'⟩ := hkept q hq
    rw [hsame, hread'] at hread
    rw [hcompiled, hcompiled', utf8_injective (Except.ok.inj hread)]
  · intro hequal path hmem
    obtain ⟨hlast, hsame⟩ := lastSharing_mem (s.outputFolder o) hmem
    obtain ⟨source, hcompiled, hread⟩ := holdsSource_run hw hpaths hfolder hrun hmem
    exact ⟨source, (hequal path hmem _ hlast hsame.symm).trans hcompiled, hread⟩

/-- Two schemas of one name in two folders. They compile to different sources. -/
def twins : Session :=
  let bytes (text : String) : List UInt8 := text.toList.map fun c => c.toNat.toUInt8
  Session.start ⟨⟨[
    (["a"], .folder),
    (["a", "x.xml"], .file (bytes "<interfaces/>")),
    (["b"], .folder),
    (["b", "x.xml"], .file (bytes "<interfaces><interface name=\"B\"/></interfaces>"))]⟩, []⟩
    [] .notInstalled

def twinOptions : Options := { Options.default with paths := ["a", "b"], outputFolder := "out" }

theorem wellFormed_twins : twins.workspace.tree.WellFormed := by
  decide

theorem run_twins : ∀ e, (twins.run twinOptions).1 = .error e → ∃ c, e = .check c := by
  have hok : (twins.run twinOptions).1.isOk = true := by decide +kernel
  intro e h
  rw [h] at hok
  cases hok

theorem schemas_twins : twins.schemas twinOptions = ["/a/x.xml", "/b/x.xml"] := by
  decide +kernel

theorem lastSharing_twins : lastSharing (twins.schemas twinOptions) (twins.outputFolder twinOptions)
    "/a/x.xml" = "/b/x.xml" := by
  decide +kernel

theorem outputPath_twins :
    outputPath "/a/x.xml" (twins.outputFolder twinOptions) = "/out/x.d.ts" := by
  decide +kernel

theorem compiled_twins_ne :
    twins.workspace.compiled "/a/x.xml" ≠ twins.workspace.compiled "/b/x.xml" := by
  intro h
  have hsources := congrArg Except.toOption h
  revert hsources
  decide +kernel

/-- The file that the twins share holds the source of the second one. -/
theorem second_twin_wins : "/a/x.xml" ∈ twins.schemas twinOptions ∧
    HoldsSource twins.workspace (twins.run twinOptions).2.workspace "/b/x.xml" "/out/x.d.ts" := by
  have hmem : "/a/x.xml" ∈ twins.schemas twinOptions := by simp [schemas_twins]
  have h := (last_sharing_schema_wins twins twinOptions wellFormed_twins (by decide) (by decide)
    run_twins).1 _ hmem
  rw [lastSharing_twins, outputPath_twins] at h
  exact ⟨hmem, h⟩

/-- Not every schema keeps its own source: that of the first twin is lost. -/
theorem source_of_first_twin_lost : ¬ ∀ (s : Session) (o : Options),
    s.workspace.tree.WellFormed → o.paths ≠ [] → o.outputFolder ≠ "" →
    (∀ e, (s.run o).1 = .error e → ∃ c, e = .check c) →
    ∀ path ∈ s.schemas o, HoldsSource s.workspace (s.run o).2.workspace path
      (outputPath path (s.outputFolder o)) := by
  intro h
  have hmem : "/a/x.xml" ∈ twins.schemas twinOptions := by simp [schemas_twins]
  obtain ⟨source, hcompiled, hread⟩ :=
    h twins twinOptions wellFormed_twins (by decide) (by decide) run_twins _ hmem
  obtain ⟨source', hcompiled', hread'⟩ :=
    holdsSource_run wellFormed_twins (by decide) (by decide) run_twins hmem
  have hsame := utf8_injective (Except.ok.inj (hread.symm.trans hread'))
  rw [lastSharing_twins, ← hsame, ← hcompiled] at hcompiled'
  exact compiled_twins_ne hcompiled'.symm

end Session

end DeclGen
