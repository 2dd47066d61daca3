import DeclGen.Batch.Run
import DeclGen.Proofs.Files.Workspace
import DeclGen.Proofs.Schema.Source

/-!
The generation of one declaration file. It reads a schema file, writes its complete source, and
touches nothing else. What it writes is never a schema, so it compiles schemas as they were at the
start.
-/

namespace DeclGen

/-- The source that a run generates from a schema file. -/
def Workspace.compiled (w : Workspace) (path : String) : Except RunError String :=
  match w.read path with
  | .error e => .error (.file e)
  | .ok bytes => ((Schema.ofBytes bytes).mapError .load).map (·.compile generatorName)

namespace Workspace

variable {w w' : Workspace} {path source : String}

theorem compiled_eq_ok : w.compiled path = .ok source ↔ ∃ bytes schema,
    w.read path = .ok bytes ∧ Schema.ofBytes bytes = .ok schema ∧
      source = schema.compile generatorName := by
  unfold compiled
  constructor
  · intro h
    cases hread : w.read path with
    | error e =>
      rw [hread] at h
      cases h
    | ok bytes =>
      cases hload : Schema.ofBytes bytes with
      | error e =>
        simp only [hread, hload] at h
        cases h
      | ok schema =>
        simp only [hread, hload] at h
        cases h
        exact ⟨bytes, schema, rfl, hload, rfl⟩
  · rintro ⟨bytes, schema, hread, hload, rfl⟩
    simp only [hread, hload]
    rfl

theorem beginsAsSource_of_compiled (h : w.compiled path = .ok source) :
    BeginsAsSource source.toUTF8.toList := by
  obtain ⟨_, schema, _, _, rfl⟩ := compiled_eq_ok.mp h
  exact beginsAsSource_compile schema generatorName

/-- While only sources are written, a schema that compiles does so as it did at the start. -/
theorem Grown.compiled_eq (h : Grown BeginsAsSource w w') (hpresent : w.isPresent path = true)
    (hcompiled : w'.compiled path = .ok source) : w.compiled path = .ok source := by
  obtain ⟨bytes, schema, hread, hload, hsource⟩ := compiled_eq_ok.mp hcompiled
  rcases h.read_or_written hpresent hread with hsame | hwritten
  · exact compiled_eq_ok.mpr ⟨bytes, schema, hsame, hload, hsource⟩
  · rw [hwritten.ofBytes_eq] at hload
    cases hload

end Workspace

namespace Session

variable {s s' : Session} {path target source : String}

theorem deliver_eq_ok (h : s.deliver source (some target) = (.ok (), s')) :
    s.workspace.write target source.toUTF8.toList = .ok s'.workspace := by
  unfold deliver at h
  simp only at h
  split at h
  · cases h
  · next w hw =>
    cases h
    exact hw

/-- A success has written the source that the schema file compiles to. -/
theorem generate_eq_ok (h : s.generate (some path) (some target) generatorName = (.ok source, s')) :
    s.workspace.compiled path = .ok source ∧
      s.workspace.write target source.toUTF8.toList = .ok s'.workspace := by
  unfold generate at h
  simp only [readDocument] at h
  split at h
  · cases h
  · next bytes hread =>
    split at h
    · cases h
    · next schema hload =>
      split at h
      · cases h
      · next after hdeliver =>
        cases h
        have hwrite := deliver_eq_ok hdeliver
        exact ⟨Workspace.compiled_eq_ok.mpr ⟨bytes, schema, hread, hload, rfl⟩, hwrite⟩

/-- Generation never fails with what the type checker finds. -/
theorem generate_ne_check (s : Session) (schemaPath targetPath : Option String)
    (generator : String) (e : CheckError) :
    (s.generate schemaPath targetPath generator).1 ≠ .error (.check e) := by
  unfold generate
  split
  · simp
  · split
    · simp
    · simp only
      split <;> simp

theorem generateEach_ne_check (s : Session) (folder : String) (schemas : List String)
    (e : CheckError) : (s.generateEach folder schemas).1 ≠ .error (.check e) := by
  induction schemas generalizing s with
  | nil => simp [generateEach]
  | cons path rest ih =>
    unfold generateEach
    split
    · next failure after hgenerate =>
      have hne := s.generate_ne_check (some path) (some (outputPath path folder)) generatorName e
      rw [hgenerate] at hne
      simpa using hne
    · exact ih _

/-- A successful generation of several files begins with that of the first. -/
theorem generateEach_cons_eq_ok {folder : String} {rest : List String}
    (h : s.generateEach folder (path :: rest) = (.ok (), s')) : ∃ source after,
      s.generate (some path) (some (outputPath path folder)) generatorName = (.ok source, after) ∧
        after.generateEach folder rest = (.ok (), s') := by
  rw [generateEach] at h
  split at h
  · cases h
  · next source after hgenerate => exact ⟨source, after, hgenerate, h⟩

end Session

end DeclGen
