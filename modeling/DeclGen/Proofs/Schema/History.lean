import Mathlib.Data.List.Induction
import DeclGen.Proofs.Schema.Generation
import DeclGen.Schema.WriterStep

/-!
The register of a writer after any steps. It is cleared when everything is written, and otherwise
only grows, so it holds the functions that were written since it was last cleared; what a writer has
done before never shows in what it writes as a whole.
-/

namespace DeclGen

namespace Registry

variable {groups : List (MessageKind × List RegistryEntry)}

/-- The kinds that have a group, in the order of the groups. -/
def kinds (r : Registry) : List MessageKind := r.groups.map (·.1)

theorem map_fst_insertEntry (kind : MessageKind) (entry : RegistryEntry) :
    (insertEntry kind entry groups).map (·.1) =
      if kind ∈ groups.map (·.1) then groups.map (·.1) else groups.map (·.1) ++ [kind] := by
  induction groups with
  | nil => rfl
  | cons g rest ih =>
    obtain ⟨k, entries⟩ := g
    unfold insertEntry
    by_cases hk : k = kind
    · simp [hk]
    · simp only [hk, ↓reduceIte, List.map_cons, ih, List.mem_cons, Ne.symm hk, false_or,
        List.cons_append]
      split <;> rfl

theorem kinds_add (r : Registry) (kind : MessageKind) (entry : RegistryEntry) :
    (r.add kind entry).kinds = if kind ∈ r.kinds then r.kinds else r.kinds ++ [kind] :=
  map_fst_insertEntry kind entry

theorem nodup_kinds_add {r : Registry} (h : r.kinds.Nodup) (kind : MessageKind)
    (entry : RegistryEntry) : (r.add kind entry).kinds.Nodup := by
  rw [kinds_add]
  split
  · exact h
  · next hnew =>
    exact (List.perm_append_singleton kind r.kinds).nodup_iff.mpr (List.nodup_cons.mpr ⟨hnew, h⟩)

private theorem eq_map_lookup (h : (groups.map (·.1)).Nodup) :
    groups = (groups.map (·.1)).map fun k => (k, (groups.lookup k).getD []) := by
  induction groups with
  | nil => rfl
  | cons g rest ih =>
    obtain ⟨k, entries⟩ := g
    rw [List.map_cons, List.nodup_cons] at h
    rw [List.map_cons, List.map_cons, List.lookup_cons_self, Option.getD_some]
    refine congrArg ((k, entries) :: ·) ((ih h.2).trans (List.map_congr_left fun j hj => ?_))
    have hne : j ≠ k := fun heq => h.1 (heq ▸ hj)
    rw [List.lookup_cons, beq_false_of_ne hne]

/-- A register with one group a kind is told by its kinds and their entries. -/
theorem groups_eq {r : Registry} (h : r.kinds.Nodup) :
    r.groups = r.kinds.map fun k => (k, r.entries k) :=
  eq_map_lookup h

theorem addAll_concat (r : Registry) (added : List (MessageKind × RegistryEntry))
    (last : MessageKind × RegistryEntry) :
    r.addAll (added ++ [last]) = (r.addAll added).add last.1 last.2 := by
  rw [addAll_append]
  rfl

/-- From an empty register, the groups stand in the order in which their kinds first come. -/
theorem kinds_empty_addAll (added : List (MessageKind × RegistryEntry)) :
    (empty.addAll added).kinds = (added.map (·.1)).eraseDups := by
  induction added using List.reverseRecOn with
  | nil => rfl
  | append_singleton added last ih =>
    rw [addAll_concat, kinds_add, ih, List.map_append, List.eraseDups_append]
    by_cases hold : last.1 ∈ added.map (·.1)
    · rw [if_pos (List.mem_eraseDups.mpr hold)]
      simp [List.removeAll, hold]
    · rw [if_neg (mt List.mem_eraseDups.mp hold)]
      simp [List.removeAll, hold, List.eraseDups_cons]

theorem nodup_kinds_empty_addAll (added : List (MessageKind × RegistryEntry)) :
    (empty.addAll added).kinds.Nodup := by
  induction added using List.reverseRecOn with
  | nil => exact List.nodup_nil
  | append_singleton added last ih =>
    rw [addAll_concat]
    exact nodup_kinds_add ih last.1 last.2

end Registry

namespace WriterStep

/-- The functions that a step writes, each with the name of its interface. -/
def functions (schema : Schema) : WriterStep → List (Function × String)
  | .function f interfaceName => [(f, interfaceName)]
  | .interface i => i.functions.map (·, i.name)
  | .all => schema.interfaces.flatMap fun i => i.functions.map (·, i.name)
  | _ => []

/-- The steps that write functions. -/
def registers : WriterStep → Bool
  | .function .. | .interface _ | .all => true
  | _ => false

end WriterStep

/-- What functions add to the register. -/
def registrations (functions : List (Function × String)) : List (MessageKind × RegistryEntry) :=
  functions.map fun (f, interfaceName) => (f.kind, f.entry interfaceName)

/-- The steps since the register was last cleared: those from the last one that writes all. -/
def sinceCleared : List WriterStep → List WriterStep
  | [] => []
  | step :: rest => if .all ∈ rest then sinceCleared rest else step :: rest

theorem sinceCleared_concat (steps : List WriterStep) (last : WriterStep) :
    sinceCleared (steps ++ [last]) =
      if last = .all then [.all] else sinceCleared steps ++ [last] := by
  induction steps with
  | nil =>
    by_cases hlast : last = .all
    · simp [sinceCleared, hlast]
    · simp [sinceCleared, hlast]
  | cons step rest ih =>
    rw [List.cons_append, sinceCleared, ih, sinceCleared]
    by_cases hlast : last = .all
    · simp [hlast]
    · by_cases hrest : WriterStep.all ∈ rest
      · simp [hlast, hrest]
      · simp [hlast, hrest, Ne.symm hlast]

/-- The functions that were written since the register was last cleared, in the order of writing. -/
def writtenSinceCleared (schema : Schema) (steps : List WriterStep) : List (Function × String) :=
  (sinceCleared steps).flatMap (·.functions schema)

theorem writtenSinceCleared_concat (schema : Schema) (steps : List WriterStep) (last : WriterStep) :
    writtenSinceCleared schema (steps ++ [last]) =
      (if last = .all then [] else writtenSinceCleared schema steps) ++ last.functions schema := by
  rw [writtenSinceCleared, sinceCleared_concat]
  by_cases hlast : last = .all
  · simp [hlast]
  · simp [hlast, writtenSinceCleared]

theorem registrations_functions_interface (i : Interface) :
    registrations (i.functions.map (·, i.name)) = i.registrations := by
  rw [registrations, List.map_map]
  rfl

theorem registrations_functions_all (schema : Schema) :
    registrations (WriterStep.all.functions schema) =
      schema.interfaces.flatMap Interface.registrations := by
  rw [WriterStep.functions, registrations, List.map_flatMap]
  exact congrArg (schema.interfaces.flatMap ·) (funext registrations_functions_interface)

theorem registrations_append (fs gs : List (Function × String)) :
    registrations (fs ++ gs) = registrations fs ++ registrations gs :=
  List.map_append

namespace Writer

/-- A step adds the functions that it writes to the register, which the writing of everything clears
first. -/
theorem perform_snd (w : Writer) (step : WriterStep) :
    (w.perform step).2 = ⟨w.schema, (if step = .all then Registry.empty else w.registry).addAll
      (registrations (step.functions w.schema))⟩ := by
  cases step with
  | interface i =>
    rw [WriterStep.functions, registrations_functions_interface]
    exact congrArg Prod.snd (writeInterface_eq w i)
  | all =>
    rw [registrations_functions_all]
    exact congrArg Prod.snd (writeAll_eq w)
  | _ => rfl

theorem performAll_concat (w : Writer) (steps : List WriterStep) (last : WriterStep) :
    w.performAll (steps ++ [last]) = ((w.performAll steps).perform last).2 := by
  rw [performAll_append]
  rfl

/-- After any steps the register is that of the functions written since it was last cleared. -/
theorem performAll_ofSchema (schema : Schema) (steps : List WriterStep) :
    (ofSchema schema).performAll steps =
      ⟨schema, Registry.empty.addAll (registrations (writtenSinceCleared schema steps))⟩ := by
  induction steps using List.reverseRecOn with
  | nil => rfl
  | append_singleton steps last ih =>
    rw [performAll_concat, ih, perform_snd, writtenSinceCleared_concat]
    by_cases hlast : last = .all
    · simp only [hlast, ↓reduceIte, List.nil_append]
    · simp only [hlast, ↓reduceIte, registrations_append, Registry.addAll_append]

theorem perform_of_not_registers (w : Writer) {step : WriterStep} (h : step.registers = false) :
    (w.perform step).2 = w := by
  cases step with
  | function | interface | all => cases h
  | _ => rfl

/-- Writing everything gives the same from every writer of a model. -/
theorem perform_all (w : Writer) : w.perform .all =
    (.declarations w.schema.declarations, ⟨w.schema, w.schema.registered⟩) := by
  have hwritten : w.writeAll = (ofSchema w.schema).writeAll := by
    rw [writeAll_eq, writeAll_eq]
    rfl
  change (Written.declarations w.writeAll.1, w.writeAll.2) = _
  rw [hwritten]
  exact congrArg (Prod.mk _) (by rw [Schema.registered, writeAll_eq]; rfl)

/-- After any steps of a writer, the entries of each kind are those of the functions of that kind
written since the register was last cleared, in the order of writing. Kinds stand in the order of
their first entry since then, and none stands there without entries. Steps that write no functions
change nothing. Writing everything gives the declarations and the register of a new writer. -/
theorem registry_since_cleared (schema : Schema) (steps : List WriterStep) :
    let w := (ofSchema schema).performAll steps
    let written := writtenSinceCleared schema steps
    (∀ k, w.registry.entries k =
      (written.filter (·.1.kind = k)).map fun f => f.1.entry f.2) ∧
    (w.registry.kinds = (written.map (·.1.kind)).eraseDups ∧
      ∀ g ∈ w.registry.groups, g.2 = w.registry.entries g.1 ∧ g.2 ≠ []) ∧
    (∀ k, w.registry.hasEntries k = true ↔ w.registry.entries k ≠ []) ∧
    w.registry.summary = "MessageTypeRegistry(" ++
      ", ".intercalate ((written.map (·.1.kind)).eraseDups.map fun k =>
        s!"{k.word}={(written.filter (·.1.kind = k)).length}") ++ ")" ∧
    (∀ step, step.registers = false → (w.perform step).2 = w) ∧
    w.perform .all = (.declarations schema.declarations, ⟨schema, schema.registered⟩) := by
  intro w written
  have hw : w = ⟨schema, Registry.empty.addAll (registrations written)⟩ :=
    performAll_ofSchema schema steps
  have hentries (k : MessageKind) : w.registry.entries k =
      (written.filter (·.1.kind = k)).map fun f => f.1.entry f.2 := by
    rw [hw, Registry.entries_empty_addAll, registrations, List.filter_map, List.map_map]
    rfl
  have hkinds : w.registry.kinds = (written.map (·.1.kind)).eraseDups := by
    rw [hw, Registry.kinds_empty_addAll, registrations, List.map_map]
    rfl
  have hgroups : w.registry.groups = w.registry.kinds.map fun k => (k, w.registry.entries k) := by
    refine Registry.groups_eq ?_
    rw [hw]
    exact Registry.nodup_kinds_empty_addAll _
  have hnonempty (k : MessageKind) (hk : k ∈ w.registry.kinds) : w.registry.entries k ≠ [] := by
    rw [hkinds, List.mem_eraseDups] at hk
    obtain ⟨f, hf, rfl⟩ := List.mem_map.mp hk
    rw [hentries]
    exact List.ne_nil_of_mem (List.mem_map_of_mem (List.mem_filter.mpr ⟨hf, decide_eq_true rfl⟩))
  refine ⟨hentries, ⟨hkinds, fun g hg => ?_⟩, fun k => ?_, ?_, fun step hstep => ?_, ?_⟩
  · rw [hgroups] at hg
    obtain ⟨k, hk, rfl⟩ := List.mem_map.mp hg
    exact ⟨rfl, hnonempty k hk⟩
  · simp [Registry.hasEntries]
  · have hcounts : (w.registry.groups.map fun g => s!"{g.1.word}={g.2.length}") =
        (written.map (·.1.kind)).eraseDups.map fun k =>
          s!"{k.word}={(written.filter (·.1.kind = k)).length}" := by
      rw [hgroups, hkinds, List.map_map]
      refine List.map_congr_left fun k _ => ?_
      simp only [Function.comp_apply, hentries, List.length_map]
    exact congrArg (fun counts => "MessageTypeRegistry(" ++ ", ".intercalate counts ++ ")") hcounts
  · exact perform_of_not_registers w hstep
  · rw [hw]
    exact perform_all _

end Writer

end DeclGen
