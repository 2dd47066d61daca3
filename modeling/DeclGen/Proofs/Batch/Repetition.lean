import DeclGen.Proofs.Batch.Success
import DeclGen.Proofs.Files.Folders
import DeclGen.Proofs.Files.Stability

/-!
A command given twice. On folders a run changes declaration files only, so a second one finds the
schemas that the first one found, unchanged, and writes once more what is there already. It ends as
the first one did, wherever that stopped.
-/

namespace DeclGen

namespace Workspace

variable {r r' v w w' : Workspace} {folder path : String} {paths : List String}
  {place : Location}

/-- Writing the source of a schema changes nothing but a declaration file. -/
theorem declared_writeSource (folders : List String) (h : w.writeSource folder path = .ok w') :
    Declared folders w w' := by
  obtain ⟨source, _, hwrite⟩ := writeSource_eq_ok.mp h
  obtain ⟨target, htarget, _, hnode, rfl⟩ := write_eq_ok.mp hwrite
  have hroot : target ≠ [] := by
    rintro rfl
    exact hnode (FileTree.node?_root w.tree)
  refine ⟨rfl, fun place => ?_⟩
  rw [FileTree.node?_put w.tree place _ hroot]
  split
  · next hsame =>
    subst hsame
    exact .inr (.inr ⟨isDeclarationPlace_of_place htarget, hnode, _, rfl⟩)
  · exact .inl rfl

theorem declared_writeSources (folders : List String)
    (h : w.writeSources folder paths = .ok w') :
    Declared folders w w' := by
  induction paths generalizing w with
  | nil =>
    cases h
    exact .refl folders _
  | cons first rest ih =>
    obtain ⟨after, hfirst, hrest⟩ := writeSources_cons_eq_ok.mp h
    exact (declared_writeSource folders hfirst).trans (ih hrest)

theorem wellFormed_writeSources (hw : w.tree.WellFormed)
    (h : w.writeSources folder paths = .ok w') : w'.tree.WellFormed := by
  induction paths generalizing w with
  | nil =>
    cases h
    exact hw
  | cons first rest ih =>
    obtain ⟨after, hfirst, hrest⟩ := writeSources_cons_eq_ok.mp h
    obtain ⟨source, _, hwrite⟩ := writeSource_eq_ok.mp hfirst
    exact ih (wellFormed_write hw hwrite) hrest

theorem compiled_of_find_eq (h : w'.find path = w.find path) :
    w'.compiled path = w.compiled path := by
  rw [compiled, compiled, read, read, h]

/-- A source that was written can be written again later, to the file that it was written to. -/
theorem writeSource_later (h : r.writeSource folder path = .ok r')
    (hgrown : Grown (fun _ => True) r' v) (hsame : r.SameSchemaFiles v)
    (hschema : r.LeadsToSchema path) :
    ∃ target bytes, target ≠ [] ∧ r' = { r with tree := r.tree.put target (.file bytes) } ∧
      (∃ old, v.tree.node? target = some (.file old)) ∧
      v.writeSource folder path = .ok { v with tree := v.tree.put target (.file bytes) } := by
  obtain ⟨source, hcompiled, hwrite⟩ := writeSource_eq_ok.mp h
  obtain ⟨target, htarget, hslash, hnode, rfl⟩ := write_eq_ok.mp hwrite
  have hroot : target ≠ [] := by
    rintro rfl
    exact hnode (FileTree.node?_root r.tree)
  have hlater : Grown (fun _ => True) r v := (grown_write hwrite trivial).trans hgrown
  have hfile : ∃ old, v.tree.node? target = some (.file old) := by
    rcases hgrown.tree.file (FileTree.node?_put_self r.tree _ hroot) with hkept | ⟨new, _, hnew⟩
    · exact ⟨_, hkept⟩
    · exact ⟨new, hnew⟩
  refine ⟨target, _, hroot, rfl, hfile, writeSource_eq_ok.mpr ⟨source, ?_, ?_⟩⟩
  · rw [compiled_of_find_eq (hschema.find_eq hlater hsame), hcompiled]
  · obtain ⟨old, hold⟩ := hfile
    exact write_eq_ok.mpr ⟨target, hlater.place_eq htarget, hslash, by simp [hold], rfl⟩

/-- Sources that were written can be written again later. At each place there is then what there was
behind the first time, or the first time has changed nothing there and neither does the second. -/
theorem writeSources_later (h : r.writeSources folder paths = .ok w)
    (hgrown : Grown (fun _ => True) w v) (hsame : r.SameSchemaFiles v)
    (hschemas : ∀ path ∈ paths, r.LeadsToSchema path) :
    ∃ v', v.writeSources folder paths = .ok v' ∧ v'.home = v.home ∧
      v'.tree.entries.map (·.1) = v.tree.entries.map (·.1) ∧
      ∀ place, v'.tree.node? place = w.tree.node? place ∨
        w.tree.node? place = r.tree.node? place ∧ v'.tree.node? place = v.tree.node? place := by
  induction paths generalizing r v with
  | nil =>
    cases h
    exact ⟨v, writeSources_nil v folder, rfl, rfl, fun _ => .inr ⟨rfl, rfl⟩⟩
  | cons first rest ih =>
    obtain ⟨r', hfirst, hrest⟩ := writeSources_cons_eq_ok.mp h
    obtain ⟨target, bytes, hroot, hr', ⟨old, hold⟩, hagain⟩ := writeSource_later hfirst
      ((grown_writeSources hrest).trans hgrown) hsame (hschemas first List.mem_cons_self)
    have hstep := declared_writeSource [] hfirst
    have hstep' := declared_writeSource [] hagain
    obtain ⟨v', hwritten, hhome, hplaces, hnodes⟩ := ih hrest
      (hgrown.trans hstep'.grown)
      (hstep.sameSchemaFiles.symm.trans (hsame.trans hstep'.sameSchemaFiles))
      fun path hmem => (hschemas path (List.mem_cons_of_mem _ hmem)).later hstep.grown
        hstep.sameSchemaFiles
    refine ⟨v', writeSources_cons_eq_ok.mpr ⟨_, hagain, hwritten⟩, hhome, ?_, fun place => ?_⟩
    · rw [hplaces]
      exact FileTree.places_put_of_node? hroot hold
    · rcases hnodes place with hsecond | ⟨hfirst', hsecond⟩
      · exact .inl hsecond
      · -- Both times the first source went to one place, and nothing behind it goes there.
        rw [hr', FileTree.node?_put r.tree place _ hroot] at hfirst'
        rw [FileTree.node?_put v.tree place _ hroot] at hsecond
        by_cases hplace : place = target
        · rw [if_pos hplace] at hfirst' hsecond
          exact .inl (hsecond.trans hfirst'.symm)
        · rw [if_neg hplace] at hfirst' hsecond
          exact .inr ⟨hfirst', hsecond⟩

/-- What is written a second time is there already. -/
theorem writeSources_again (hw : w.tree.WellFormed) (h : r.writeSources folder paths = .ok w)
    (hschemas : ∀ path ∈ paths, r.LeadsToSchema path) :
    w.writeSources folder paths = .ok w := by
  obtain ⟨v', hwritten, hhome, hplaces, hnodes⟩ := writeSources_later h (.refl w)
    (declared_writeSources [] h).sameSchemaFiles hschemas
  have htree : v'.tree = w.tree := hw.eq_of_node? hplaces fun place =>
    (hnodes place).elim id And.right
  have hsame : v' = w := by
    cases v'
    cases w
    cases hhome
    cases htree
    rfl
  rw [hwritten, hsame]

end Workspace

namespace Session

variable {s t : Session} {o : Options} {w : Workspace}

/-- A run has a folder to write to: its output folder is there, or each source goes beside its
schema. -/
def HasFolder (s : Session) (o : Options) : Prop :=
  o.outputFolder = "" ∨ (s.ready o).isFolder (s.outputFolder o) = true

theorem prepareOutput_of_ne (h : o.outputFolder ≠ "") :
    (s.prepareOutput o.outputFolder).1 =
        (s.workspace.makeFolders (s.outputFolder o)).1.map (fun _ => s.outputFolder o) ∧
      s.ready o = (s.workspace.makeFolders (s.outputFolder o)).2 := by
  unfold ready prepareOutput
  rw [if_neg h, ← outputFolder.eq_def]
  simp only
  split
  · next e w hmade =>
    rw [hmade]
    exact ⟨rfl, rfl⟩
  · next w hmade =>
    rw [hmade]
    exact ⟨rfl, rfl⟩

theorem wellFormed_ready (hw : s.workspace.tree.WellFormed) (o : Options) :
    (s.ready o).tree.WellFormed := by
  by_cases hnone : o.outputFolder = ""
  · rw [ready, prepareOutput, if_pos hnone]
    exact hw
  · rw [(prepareOutput_of_ne hnone).2]
    exact Workspace.wellFormed_makeFolders hw _

theorem targetFolder_congr (h : t.workspace.home = s.workspace.home) :
    t.targetFolder o = s.targetFolder o ∧ t.outputFolder o = s.outputFolder o := by
  have hfolder : t.outputFolder o = s.outputFolder o := by
    rw [outputFolder, outputFolder, Workspace.homePath, Workspace.homePath, h]
  exact ⟨by rw [targetFolder, targetFolder, hfolder], hfolder⟩

/-- Where there is an output folder, it is prepared with nothing done. -/
theorem prepareOutput_of_isFolder
    (h : o.outputFolder = "" ∨ s.workspace.isFolder (s.outputFolder o) = true) :
    (s.prepareOutput o.outputFolder).1 = .ok (s.targetFolder o) ∧ s.ready o = s.workspace := by
  by_cases hnone : o.outputFolder = ""
  · rw [ready, prepareOutput, if_pos hnone, targetFolder, if_pos hnone]
    exact ⟨rfl, rfl⟩
  · obtain ⟨hresult, hready⟩ := prepareOutput_of_ne (s := s) hnone
    rw [Workspace.makeFolders_of_isFolder (h.resolve_left hnone)] at hresult hready
    rw [targetFolder, if_neg hnone]
    exact ⟨hresult, hready⟩

/-- Where an attempt has left no output folder, another one fails with nothing done. -/
theorem prepareOutput_of_not_hasFolder (h : ¬ s.HasFolder o) (ht : t.workspace = s.ready o) :
    (∃ e, (t.prepareOutput o.outputFolder).1 = .error e) ∧ t.ready o = t.workspace := by
  obtain ⟨hnone, habsent⟩ := not_or.mp h
  rw [Bool.not_eq_true] at habsent
  have hhome : t.workspace.home = s.workspace.home := ht ▸ (foldersAdded_ready s o).home
  obtain ⟨hresult, hready⟩ := prepareOutput_of_ne (s := t) hnone
  rw [(prepareOutput_of_ne hnone).2] at habsent ht
  obtain ⟨e, hstuck⟩ := (s.workspace.makeFolders_again (s.outputFolder o)).2 habsent
  rw [(targetFolder_congr hhome).2, ht, hstuck] at hresult hready
  exact ⟨⟨e, hresult⟩, hready.trans ht.symm⟩

theorem not_hasFolder_of_refused {e : FileError}
    (h : (s.prepareOutput o.outputFolder).1 = .error e) : ¬ s.HasFolder o := by
  rintro (hnone | hthere)
  · rw [prepareOutput, if_pos hnone] at h
    cases h
  · by_cases hnone : o.outputFolder = ""
    · rw [prepareOutput, if_pos hnone] at h
      cases h
    · obtain ⟨hresult, hready⟩ := prepareOutput_of_ne (s := s) hnone
      rw [hresult] at h
      rw [hready] at hthere
      cases hmade : (s.workspace.makeFolders (s.outputFolder o)).1 with
      | ok done =>
        rw [hmade] at h
        cases h
      | error e' =>
        cases ((s.workspace.makeFolders_again (s.outputFolder o)).1 e' hmade).symm.trans hthere

theorem declared_run (s : Session) (o : Options) :
    Workspace.Declared (s.neededFolders o) s.workspace (s.run o).2.workspace := by
  have hfolders := (foldersAdded_ready s o).declared
  by_cases hsome : s.schemas o = []
  · rw [workspace_run_of_nil hsome]
    exact .refl _ _
  · rcases run_cases hsome with ⟨e, hrefused⟩ | ⟨_, before, behind, w, _, hbefore, hworkspace, _⟩
    · rw [run_of_refused hsome hrefused]
      exact hfolders
    · rw [hworkspace]
      exact hfolders.trans (Workspace.declared_writeSources _ hbefore)

theorem wellFormed_run (hw : s.workspace.tree.WellFormed) (o : Options) :
    (s.run o).2.workspace.tree.WellFormed := by
  by_cases hsome : s.schemas o = []
  · rwa [workspace_run_of_nil hsome]
  · rcases run_cases hsome with ⟨e, hrefused⟩ | ⟨_, before, behind, w, _, hbefore, hworkspace, _⟩
    · rw [run_of_refused hsome hrefused]
      exact wellFormed_ready hw o
    · rw [hworkspace]
      exact Workspace.wellFormed_writeSources (wellFormed_ready hw o) hbefore

theorem isAbsolute_homePath (w : Workspace) : Path.isAbsolute w.homePath = true :=
  Path.isAbsolute_append _ (by decide)

/-- Every path that a run is given names a folder. -/
def OnFolders (s : Session) (o : Options) : Prop :=
  ∀ path ∈ o.paths, s.workspace.isFolder (Path.join s.workspace.homePath path) = true

/-- What is collected out of folders is collected again behind a run. -/
theorem schemas_again (hw : s.workspace.tree.WellFormed) (hfolders : s.OnFolders o)
    (ht : t.workspace = (s.run o).2.workspace) : t.schemas o = s.schemas o := by
  have hdeclared := s.declared_run o
  rw [schemas, schemas, ht, Workspace.homePath, hdeclared.home]
  exact Workspace.collect_eq hw (wellFormed_run hw o) hdeclared.grown hdeclared.sameSchemaFiles
    (isAbsolute_homePath s.workspace) hfolders

theorem leadsToSchema_of_mem_schemas {path : String} (hw : s.workspace.tree.WellFormed)
    (hfolders : s.OnFolders o) (h : path ∈ s.schemas o) : s.workspace.LeadsToSchema path :=
  Workspace.leadsToSchema_of_mem_collect hw hfolders h

/-- Every schema is compiled from what it held at the start, whatever has been written before. -/
theorem compiled_of_mem_schemas {path : String} {before : List String}
    (hw : s.workspace.tree.WellFormed) (hfolders : s.OnFolders o)
    (hbefore : (s.ready o).writeSources (s.targetFolder o) before = .ok w)
    (h : path ∈ s.schemas o) : w.compiled path = s.workspace.compiled path := by
  have hdeclared := (foldersAdded_ready s o).declared.trans
    (Workspace.declared_writeSources _ hbefore)
  exact Workspace.compiled_of_find_eq ((leadsToSchema_of_mem_schemas hw hfolders h).find_eq
    hdeclared.grown hdeclared.sameSchemaFiles)

/-- A session on the tree that a run has left, with the same input and the same type checker. -/
structure Follows (s : Session) (o : Options) (t : Session) : Prop where
  workspace : t.workspace = (s.run o).2.workspace
  input : t.input = s.input
  checker : t.checker = s.checker

theorem run_again_of_nil (h : s.schemas o = []) (ht : s.Follows o t)
    (hagain : t.schemas o = s.schemas o) :
    (t.run o).1 = (s.run o).1 ∧ (t.run o).2.workspace = t.workspace := by
  rw [h] at hagain
  refine ⟨?_, workspace_run_of_nil hagain⟩
  by_cases hpaths : o.paths = []
  · have hstream : ∀ u : Session, u.run o = u.runStream o := fun u => by
      rw [run, if_pos (by simpa using hpaths)]
    rw [hstream, hstream, runStream_result, runStream_result, ht.input]
  · have hdone : ∀ u : Session, u.schemas o = [] → (u.run o).1 = .ok () := fun u hu => by
      rw [run, if_neg (by simpa using hpaths), if_pos (by simpa using hu)]
    rw [hdone t hagain, hdone s h]

/-- With a folder to write to, a second run starts to write where the first one has ended, and what
it writes is there already. -/
theorem writeSources_run_again {before behind : List String} (hw : s.workspace.tree.WellFormed)
    (hfolders : s.OnFolders o) (hfolder : s.HasFolder o)
    (hschemas : s.schemas o = before ++ behind)
    (hbefore : (s.ready o).writeSources (s.targetFolder o) before = .ok t.workspace) :
    (t.prepareOutput o.outputFolder).1 = .ok (t.targetFolder o) ∧
      t.targetFolder o = s.targetFolder o ∧
      (t.ready o).writeSources (t.targetFolder o) before = .ok t.workspace := by
  have hready := (foldersAdded_ready s o).declared
  have hwritten := Workspace.declared_writeSources (s.neededFolders o) hbefore
  obtain ⟨htarget, houtput⟩ := targetFolder_congr (s := s) (t := t) (o := o)
    (hready.trans hwritten).home
  have hthere : o.outputFolder = "" ∨ t.workspace.isFolder (t.outputFolder o) = true := by
    rw [houtput]
    exact hfolder.imp_right hwritten.grown.isFolder
  obtain ⟨hprepare, hstart⟩ := prepareOutput_of_isFolder hthere
  refine ⟨hprepare, htarget, ?_⟩
  rw [hstart, htarget]
  refine Workspace.writeSources_again
    (Workspace.wellFormed_writeSources (wellFormed_ready hw o) hbefore) hbefore fun path hpath => ?_
  have hmem : path ∈ s.schemas o := hschemas ▸ List.mem_append_left behind hpath
  exact (leadsToSchema_of_mem_schemas hw hfolders hmem).later hready.grown hready.sameSchemaFiles

/-- A run with a folder to write to ends the second time as the first time. -/
theorem run_again_of_hasFolder (hw : s.workspace.tree.WellFormed) (hfolders : s.OnFolders o)
    (hsome : s.schemas o ≠ []) (hfolder : s.HasFolder o) (ht : s.Follows o t) :
    (t.run o).1 = (s.run o).1 ∧ (t.run o).2.workspace = t.workspace := by
  have hagain := schemas_again hw hfolders ht.workspace
  cases hprepare : (s.prepareOutput o.outputFolder).1 with
  | error e => exact absurd hfolder (not_hasFolder_of_refused hprepare)
  | ok folder =>
    obtain rfl := eq_targetFolder_of_prepareOutput hprepare
    rcases (s.ready o).writeSources_cases (s.targetFolder o) (s.schemas o) with
      ⟨w, hall⟩ | ⟨before, path, behind, w, e, hschemas, hbefore, hfail⟩
    · obtain ⟨hworkspace, hresult, _⟩ := run_of_writesAll hsome ⟨hprepare, hall⟩
      obtain rfl : t.workspace = w := ht.workspace.trans hworkspace
      obtain ⟨hprepare', _, hall'⟩ :=
        writeSources_run_again hw hfolders hfolder (List.append_nil _).symm hall
      rw [← hagain] at hsome hall'
      obtain ⟨hworkspace', hresult', _⟩ := run_of_writesAll hsome ⟨hprepare', hall'⟩
      rw [hresult, hresult', ht.checker]
      exact ⟨rfl, hworkspace'⟩
    · obtain ⟨hresult, hworkspace, _⟩ := run_of_error hprepare hschemas hbefore hfail
      obtain rfl : t.workspace = w := ht.workspace.trans hworkspace
      obtain ⟨hprepare', htarget, hbefore'⟩ :=
        writeSources_run_again hw hfolders hfolder hschemas hbefore
      rw [← htarget] at hfail
      obtain ⟨hresult', hworkspace', _⟩ :=
        run_of_error hprepare' (hagain.trans hschemas) hbefore' hfail
      exact ⟨hresult'.trans hresult.symm, hworkspace'⟩

/-- Without a folder to write to, a run fails and writes nothing. -/
theorem run_of_not_hasFolder (hsome : s.schemas o ≠ []) (h : ¬ s.HasFolder o) :
    (∃ e, (s.run o).1 = .error e) ∧ (s.run o).2.workspace = s.ready o := by
  obtain ⟨hnone, habsent⟩ := not_or.mp h
  rcases run_cases hsome with ⟨e, hrefused⟩ | ⟨_, before, behind, w, hschemas, hbefore, hrun⟩
  · rw [run_of_refused hsome hrefused]
    exact ⟨⟨_, rfl⟩, rfl⟩
  · cases before with
    | nil =>
      cases hbefore
      rw [List.nil_append] at hschemas
      exact ⟨(hrun.2 (hschemas ▸ hsome)).2, hrun.1⟩
    | cons first rest =>
      -- The first source would need the folder.
      obtain ⟨after, hfirst, _⟩ := Workspace.writeSources_cons_eq_ok.mp hbefore
      rw [targetFolder, if_neg hnone] at hfirst
      exact absurd (Workspace.isFolder_of_writeSource (s.outputFolder_ne_empty o) hfirst) habsent

theorem run_again_of_not_hasFolder (hsome : s.schemas o ≠ []) (h : ¬ s.HasFolder o)
    (ht : s.Follows o t) (hagain : t.schemas o = s.schemas o) :
    (∃ e, (t.run o).1 = .error (.file e)) ∧ (t.run o).2.workspace = t.workspace := by
  obtain ⟨_, hworkspace⟩ := run_of_not_hasFolder hsome h
  obtain ⟨⟨e, hrefused⟩, hready⟩ :=
    prepareOutput_of_not_hasFolder h (ht.workspace.trans hworkspace)
  rw [← hagain] at hsome
  rw [run_of_refused hsome hrefused]
  exact ⟨⟨e, rfl⟩, hready⟩

/-- A second run leaves the tree as it is. -/
theorem workspace_run_again (hw : s.workspace.tree.WellFormed) (hfolders : s.OnFolders o)
    (ht : s.Follows o t) : (t.run o).2.workspace = t.workspace := by
  have hagain := schemas_again hw hfolders ht.workspace
  by_cases hsome : s.schemas o = []
  · exact (run_again_of_nil hsome ht hagain).2
  · by_cases hfolder : s.HasFolder o
    · exact (run_again_of_hasFolder hw hfolders hsome hfolder ht).2
    · exact (run_again_of_not_hasFolder hsome hfolder ht hagain).2

variable {foreign : ForeignEncoding}

/-- A run on schema files comes to a document in a foreign encoding, and would have had no folder to
write its source to. -/
def MeetsForeignFirst (s : Session) (o : Options) (foreign : ForeignEncoding) : Prop :=
  o.paths ≠ [] ∧ ¬ s.HasFolder o ∧ s.MeetsForeignEncoding o foreign

theorem hasFolder_opened : (s.opened o).HasFolder o ↔ s.HasFolder o := by
  have hready := (prepareOutput_congr (t := s.opened o) (s := s) rfl o.outputFolder).2
  rw [HasFolder, HasFolder, ready, ready, hready]
  rfl

theorem schemas_ne_nil_of_meets (h : s.MeetsForeignFirst o foreign) : s.schemas o ≠ [] := by
  obtain ⟨hpaths, _, hmeets⟩ := h
  rw [MeetsForeignEncoding, if_neg hpaths] at hmeets
  obtain ⟨_, before, path, behind, _, _, hschemas, _⟩ := hmeets
  simp [hschemas]

/-- Only the path of an output folder that ends in a dot lets a run come that far. -/
theorem parent?_of_meets (h : s.MeetsForeignFirst o foreign) :
    ∃ above, Path.parent? (s.outputFolder o) = some (above, ".") := by
  obtain ⟨hpaths, hfolder, hmeets⟩ := h
  rw [MeetsForeignEncoding, if_neg hpaths] at hmeets
  obtain ⟨hnone, habsent⟩ := not_or.mp hfolder
  rcases isFolder_ready hnone hmeets.1 with hthere | ⟨above, hparent, _⟩
  · exact absurd hthere habsent
  · exact ⟨above, hparent⟩

theorem execute_of_file {e : FileError} (h : ((t.opened o).run o).1 = .error (.file e)) :
    (t.execute o).1 = .ok 1 := by
  rw [execute_result, h]
  rfl

/-- The one case in which a second command ends otherwise: the first one lets the error of a foreign
encoding through, the second one fails to make the output folder before that. -/
theorem execute_again_of_meets (hw : s.workspace.tree.WellFormed) (hfolders : s.OnFolders o)
    (ht : (s.opened o).Follows o (t.opened o)) (h : s.MeetsForeignFirst o foreign) :
    (s.execute o).1 = .error (.load foreign.loadError) ∧ (t.execute o).1 = .ok 1 := by
  have hagain := schemas_again (s := s.opened o) hw hfolders ht.workspace
  have hsome : s.schemas o ≠ [] := schemas_ne_nil_of_meets h
  obtain ⟨⟨e, hrefused⟩, _⟩ := run_again_of_not_hasFolder (s := s.opened o) hsome
    (mt hasFolder_opened.mp h.2.1) ht hagain
  exact ⟨execute_of_foreign h.2.2, execute_of_file hrefused⟩

theorem execute_again (hw : s.workspace.tree.WellFormed) (hfolders : s.OnFolders o)
    (ht : (s.opened o).Follows o (t.opened o)) (h : ∀ foreign, ¬ s.MeetsForeignFirst o foreign) :
    (t.execute o).1 = (s.execute o).1 := by
  have hagain := schemas_again (s := s.opened o) hw hfolders ht.workspace
  have hsame : ((t.opened o).run o).1 = ((s.opened o).run o).1 →
      (t.execute o).1 = (s.execute o).1 := fun hrun => by
    rw [execute_result, execute_result, hrun]
  by_cases hsome : (s.opened o).schemas o = []
  · exact hsame (run_again_of_nil hsome ht hagain).1
  · by_cases hfolder : (s.opened o).HasFolder o
    · exact hsame (run_again_of_hasFolder (s := s.opened o) hw hfolders hsome hfolder ht).1
    · -- Both fail, the second to make the output folder, and both are logged.
      obtain ⟨⟨e, hrefused⟩, _⟩ := run_again_of_not_hasFolder hsome hfolder ht hagain
      obtain ⟨⟨e', hfail⟩, _⟩ := run_of_not_hasFolder hsome hfolder
      rw [execute_of_file hrefused, execute_result, hfail]
      cases hlogged : e'.isLogged with
      | true => simp only [hlogged, ↓reduceIte]
      | false =>
        obtain ⟨foreign, hmeets⟩ := foreign_of_run hfail hlogged
        have hpaths : o.paths ≠ [] := fun hnone => hsome (schemas_of_no_paths hnone)
        exact absurd ⟨hpaths, mt hasFolder_opened.mpr hfolder,
          meetsForeignEncoding_opened.mp hmeets⟩ (h foreign)

/-- A session that starts where a command has ended follows its run. -/
theorem follows_opened {arguments : List String} (h : Options.ofArguments arguments = .ok o)
    (hworkspace : t.workspace = (s.command arguments).2.workspace) (hinput : t.input = s.input)
    (hchecker : t.checker = s.checker) : (s.opened o).Follows o (t.opened o) := by
  refine ⟨?_, hinput, hchecker⟩
  rw [← (s.execute_after o).1, ← command_snd h]
  exact hworkspace

theorem command_again_of_meets {arguments : List String}
    (h : Options.ofArguments arguments = .ok o) (hw : s.workspace.tree.WellFormed)
    (hfolders : s.OnFolders o) (ht : (s.opened o).Follows o (t.opened o))
    (hmeets : s.MeetsForeignFirst o foreign) :
    (s.command arguments).1 = .error (.failed (.load foreign.loadError)) ∧
      (t.command arguments).1 = .ok 1 := by
  obtain ⟨hfirst, hsecond⟩ := execute_again_of_meets hw hfolders ht hmeets
  rw [command_result h, command_result h, hfirst, hsecond]
  exact ⟨rfl, rfl⟩

/-- On folders a command repeats itself. It changes declaration files only, besides the folders
that it needs, and compiles every schema from what that held at the start. A second one collects the
same schemas, leaves the tree as it is, and ends as the first one did, with one exception: where a
foreign encoding was met and there is no folder to write to, which takes an output folder whose path
ends in a dot, the first one lets that error through and the second one fails with the exit code
1. -/
theorem repeated_command (s : Session) {arguments : List String}
    (h : Options.ofArguments arguments = .ok o) (hw : s.workspace.tree.WellFormed)
    (hfolders : s.OnFolders o) :
    let after := (s.command arguments).2.workspace
    Workspace.Declared (s.neededFolders o) s.workspace after ∧
    s.workspace.SameSchemaFiles after ∧
    (∀ before w, (s.ready o).writeSources (s.targetFolder o) before = .ok w →
      ∀ path ∈ s.schemas o, w.compiled path = s.workspace.compiled path) ∧
    ∀ again : Session, again.workspace = after → again.input = s.input →
      again.checker = s.checker →
        again.schemas o = s.schemas o ∧
        (again.command arguments).2.workspace = after ∧
        ((again.command arguments).1 = (s.command arguments).1 ↔
          ∀ foreign, ¬ s.MeetsForeignFirst o foreign) ∧
        ∀ foreign, s.MeetsForeignFirst o foreign →
          (s.command arguments).1 = .error (.failed (.load foreign.loadError)) ∧
            (again.command arguments).1 = .ok 1 ∧
            ∃ above, Path.parent? (s.outputFolder o) = some (above, ".") := by
  intro after
  have hafter : after = ((s.opened o).run o).2.workspace := by
    rw [← (s.execute_after o).1, ← command_snd h]
  have hdeclared : Workspace.Declared (s.neededFolders o) s.workspace after := by
    rw [hafter]
    exact (s.opened o).declared_run o
  refine ⟨hdeclared, hdeclared.sameSchemaFiles,
    fun before w hbefore path hpath => compiled_of_mem_schemas hw hfolders hbefore hpath,
    fun again hworkspace hinput hchecker => ?_⟩
  have hfollows := follows_opened h hworkspace hinput hchecker
  refine ⟨schemas_again (s := s.opened o) hw hfolders hfollows.workspace, ?_, ⟨?_, ?_⟩,
    fun foreign hforeign => ?_⟩
  · rw [command_snd h, (again.execute_after o).1]
    exact (workspace_run_again (s := s.opened o) hw hfolders hfollows).trans hworkspace
  · intro hsame foreign hforeign
    obtain ⟨hfirst, hsecond⟩ := command_again_of_meets h hw hfolders hfollows hforeign
    cases hfirst.symm.trans (hsame.symm.trans hsecond)
  · intro hnone
    rw [command_result h, command_result h, execute_again hw hfolders hfollows hnone]
  · obtain ⟨hfirst, hsecond⟩ := command_again_of_meets h hw hfolders hfollows hforeign
    exact ⟨hfirst, hsecond, parent?_of_meets hforeign⟩

theorem ofArguments_broken :
    Options.ofArguments ["-p", "d", "-o", "out", "--check"] = .ok brokenOptions := by
  decide +kernel

/-- The command that stops at its second schema does so again, and leaves the tree alone. -/
theorem broken_repeated :
    let arguments := ["-p", "d", "-o", "out", "--check"]
    let again := { broken with workspace := (broken.command arguments).2.workspace }
    (again.command arguments).1 = (broken.command arguments).1 ∧
      (again.command arguments).2.workspace = again.workspace := by
  intro arguments again
  have hfolders : broken.OnFolders brokenOptions := by
    unfold OnFolders
    decide +kernel
  have hfolder : broken.HasFolder brokenOptions := .inr (by decide +kernel)
  obtain ⟨_, _, _, hrepeated⟩ := repeated_command broken ofArguments_broken (by decide) hfolders
  obtain ⟨_, hworkspace, hsame, _⟩ := hrepeated again rfl rfl rfl
  exact ⟨hsame.mpr fun foreign hmeets => hmeets.2.1 hfolder, hworkspace⟩

/-- A folder with a schema in an encoding that is not known, and a file. -/
def detour : Session :=
  Session.start ⟨⟨[
    (["f"], .file []),
    (["s"], .folder),
    (["s", "a.xml"], .file bogusDocument)]⟩, []⟩
    [] .notInstalled

/-- The output folder is asked for in the file, on a way through a folder that is missing. -/
def detourOptions : Options :=
  { Options.default with paths := ["s"], outputFolder := "new/../f/." }

theorem ofArguments_detour : Options.ofArguments ["-p", "s", "-o", "new/../f/."] =
    .ok detourOptions := by
  decide +kernel

theorem onFolders_detour : detour.OnFolders detourOptions := by
  unfold OnFolders
  decide +kernel

theorem meetsForeignFirst_detour : detour.MeetsForeignFirst detourOptions (.unknown "bogus") := by
  have hschemas : detour.schemas detourOptions = [] ++ "/s/a.xml" :: [] := by decide +kernel
  have hprepare : (detour.prepareOutput detourOptions.outputFolder).1 =
      .ok (detour.targetFolder detourOptions) := by
    decide +kernel
  have habsent : ¬ detour.HasFolder detourOptions := by
    unfold HasFolder
    decide +kernel
  have hread : (detour.ready detourOptions).read "/s/a.xml" = .ok bogusDocument := by
    decide +kernel
  refine ⟨by decide, habsent, ?_⟩
  rw [MeetsForeignEncoding, if_neg (by decide)]
  exact ⟨hprepare, [], "/s/a.xml", [], _, bogusDocument, hschemas,
    Workspace.writeSources_nil _ _, hread, foreignEncoding?_bogus⟩

/-- Not every command on folders ends the second time as the first time. -/
theorem repeated_command_ends_otherwise : ¬ ∀ (s : Session) (arguments : List String) (o : Options),
    Options.ofArguments arguments = .ok o → s.workspace.tree.WellFormed → s.OnFolders o →
      ∀ again : Session, again.workspace = (s.command arguments).2.workspace →
        again.input = s.input → again.checker = s.checker →
          (again.command arguments).1 = (s.command arguments).1 := by
  intro hall
  have hwell : detour.workspace.tree.WellFormed := by decide
  have hnext (after : Workspace) : ∃ again : Session, again.workspace = after ∧
      again.input = detour.input ∧ again.checker = detour.checker :=
    ⟨{ detour with workspace := after }, rfl, rfl, rfl⟩
  obtain ⟨again, hworkspace, hinput, hchecker⟩ :=
    hnext (detour.command ["-p", "s", "-o", "new/../f/."]).2.workspace
  obtain ⟨hfirst, hsecond⟩ := command_again_of_meets ofArguments_detour hwell onFolders_detour
    (follows_opened ofArguments_detour hworkspace hinput hchecker) meetsForeignFirst_detour
  have hsame := hall detour _ detourOptions ofArguments_detour hwell onFolders_detour again
    hworkspace hinput hchecker
  cases hfirst.symm.trans (hsame.symm.trans hsecond)

end Session

end DeclGen
