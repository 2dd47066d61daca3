import DeclGen.Schema.Writer

/-!
The declarations of a model without a writer: one namespace for every interface, and behind them the
lookup records, each a filter of the list of all messages. The writer's register, filled function by
function, holds the same.
-/

namespace DeclGen

namespace Registry

/-- The register after entries are added one after another. -/
def addAll (r : Registry) (added : List (MessageKind × RegistryEntry)) : Registry :=
  added.foldl (fun r e => r.add e.1 e.2) r

theorem addAll_append (r : Registry) (added added' : List (MessageKind × RegistryEntry)) :
    r.addAll (added ++ added') = (r.addAll added).addAll added' :=
  List.foldl_append

/-- The entries of a kind are those it had and, behind them, the added ones of that kind. -/
theorem entries_addAll (r : Registry) (added : List (MessageKind × RegistryEntry))
    (k : MessageKind) :
    (r.addAll added).entries k = r.entries k ++ (added.filter (·.1 = k)).map (·.2) := by
  induction added generalizing r with
  | nil => simp [addAll]
  | cons e rest ih =>
    have hstep := entries_add r e.1 k e.2
    change ((r.add e.1 e.2).addAll rest).entries k = _
    rw [ih, hstep]
    by_cases h : e.1 = k
    · simp [h]
    · simp [h, Ne.symm h]

theorem entries_empty_addAll (added : List (MessageKind × RegistryEntry)) (k : MessageKind) :
    (empty.addAll added).entries k = (added.filter (·.1 = k)).map (·.2) := by
  rw [entries_addAll]
  rfl

end Registry

/-- What an interface adds to the register: one entry for each of its functions. -/
def Interface.registrations (i : Interface) : List (MessageKind × RegistryEntry) :=
  i.functions.map fun f => (f.kind, f.entry i.name)

/-- The body of a namespace: enumerations, structures, and the payloads of functions. -/
def Interface.body (i : Interface) : List Declaration :=
  i.enums.map Enumeration.declaration ++ i.structs.map (fun s => .record s.record) ++
    i.functions.map (fun f => .record f.record)

def Interface.namespace (i : Interface) : Declaration := .space i.name i.body i.description

namespace Writer

theorem writeFunctions_eq (w : Writer) (interfaceName : String) (fs : List Function) :
    w.writeFunctions interfaceName fs = (fs.map Function.record, { w with
      registry := w.registry.addAll (fs.map fun f => (f.kind, f.entry interfaceName)) }) := by
  induction fs generalizing w with
  | nil => rfl
  | cons f fs ih => simp only [writeFunctions, writeFunction, ih, List.map_cons]; rfl

theorem writeInterface_eq (w : Writer) (i : Interface) :
    w.writeInterface i =
      (i.namespace, { w with registry := w.registry.addAll i.registrations }) := by
  simp only [writeInterface, writeFunctions_eq, List.map_map, Interface.namespace,
    Interface.body, Interface.registrations]
  rfl

theorem writeInterfaces_eq (w : Writer) (is : List Interface) :
    w.writeInterfaces is = (is.map Interface.namespace,
      { w with registry := w.registry.addAll (is.flatMap Interface.registrations) }) := by
  induction is generalizing w with
  | nil => rfl
  | cons i is ih =>
    simp only [writeInterfaces, writeInterface_eq, ih, List.map_cons, List.flatMap_cons,
      Registry.addAll_append]

/-- Writing everything starts from an empty register, whatever the writer's register held. -/
theorem writeAll_eq (w : Writer) :
    let registry := Registry.empty.addAll (w.schema.interfaces.flatMap Interface.registrations)
    w.writeAll = (w.schema.interfaces.map Interface.namespace ++
      registry.lookupRecords.map .record, { w with registry := registry }) := by
  simp only [writeAll, writeInterfaces_eq]

end Writer

/-- A function of a model with its place: the number of its interface, and its own number there. -/
structure Message where
  interfaceNumber : Nat
  functionNumber : Nat
  interface : Interface
  function : Function
  deriving DecidableEq, Repr

namespace Message

/-- An earlier interface, or the same interface and an earlier function. -/
def Precedes (m n : Message) : Prop :=
  m.interfaceNumber < n.interfaceNumber ∨
    m.interfaceNumber = n.interfaceNumber ∧ m.functionNumber < n.functionNumber

def kind (m : Message) : MessageKind := m.function.kind

/-- The property of a message in the lookup record of its kind. -/
def property (m : Message) : Property :=
  ⟨m.interface.name ++ "." ++ m.function.name,
    ⟨m.interface.name ++ "." ++ m.function.record.name, false, false⟩, false, []⟩

/-- The number of the payload record in the body of the namespace: it stands behind the
enumerations and the structures. -/
def bodyNumber (m : Message) : Nat :=
  m.interface.enums.length + m.interface.structs.length + m.functionNumber

end Message

namespace Schema

/-- All functions of a model, interface by interface. -/
def messages (s : Schema) : List Message :=
  s.interfaces.zipIdx.flatMap fun (i, m) => i.functions.zipIdx.map fun (f, n) => ⟨m, n, i, f⟩

theorem mem_messages {s : Schema} {m : Message} :
    m ∈ s.messages ↔ s.interfaces[m.interfaceNumber]? = some m.interface ∧
      m.interface.functions[m.functionNumber]? = some m.function := by
  simp only [messages, List.mem_flatMap, List.mem_map, Prod.exists, List.mem_zipIdx_iff_getElem?]
  constructor
  · rintro ⟨i, m, hi, f, n, hf, rfl⟩
    exact ⟨hi, hf⟩
  · rintro ⟨hi, hf⟩
    exact ⟨m.interface, m.interfaceNumber, hi, m.function, m.functionNumber, hf, rfl⟩

private theorem zipIdx_pairwise {α : Type} (xs : List α) :
    xs.zipIdx.Pairwise fun a b => a.2 < b.2 := by
  have h : (xs.zipIdx.map Prod.snd).Pairwise (· < ·) := by
    rw [List.zipIdx_map_snd]
    exact List.pairwise_lt_range'
  exact List.pairwise_map.mp h

/-- Every function stands once among the messages, in interface and then function order. -/
theorem messages_pairwise (s : Schema) : s.messages.Pairwise Message.Precedes := by
  refine List.pairwise_flatMap.mpr ⟨?_, ?_⟩
  · intro i _
    refine List.pairwise_map.mpr ((zipIdx_pairwise i.1.functions).imp ?_)
    intro f g hfg
    exact .inr ⟨rfl, hfg⟩
  · refine (zipIdx_pairwise s.interfaces).imp ?_
    intro i j hij m hm n hn
    obtain ⟨_, _, rfl⟩ := List.mem_map.mp hm
    obtain ⟨_, _, rfl⟩ := List.mem_map.mp hn
    exact .inl hij

private theorem flatMap_zipIdx {α β : Type} (xs : List α) (f : α → List β) :
    (xs.zipIdx.flatMap fun x => f x.1) = xs.flatMap f := by
  rw [← List.flatMap_map Prod.fst f, List.zipIdx_map_fst]

private theorem map_zipIdx {α β : Type} (xs : List α) (f : α → β) :
    (xs.zipIdx.map fun x => f x.1) = xs.map f := by
  rw [← Function.comp_def f Prod.fst, ← List.map_map, List.zipIdx_map_fst]

/-- The messages are what the interfaces register. -/
theorem map_messages (s : Schema) :
    s.messages.map (fun m => (m.kind, m.function.entry m.interface.name)) =
      s.interfaces.flatMap Interface.registrations := by
  simp only [messages, List.map_flatMap, List.map_map, Function.comp_def, Message.kind]
  rw [← flatMap_zipIdx s.interfaces Interface.registrations]
  refine congrArg (s.interfaces.zipIdx.flatMap ·) (funext fun i => ?_)
  exact map_zipIdx i.1.functions fun f => (f.kind, f.entry i.1.name)

/-- The lookup record of a kind: a property for every message of the kind. -/
def lookup (s : Schema) (k : MessageKind) : Record :=
  ⟨k.lookupName, (s.messages.filter (·.kind = k)).map Message.property, []⟩

/-- The lookup records, for the kinds that occur. -/
def lookups (s : Schema) : List Record :=
  ([.notification, .request, .response].filter fun k => s.messages.any (·.kind = k)).map s.lookup

/-- The declarations of a model, from its interfaces and its messages alone. -/
def reference (s : Schema) : List Declaration :=
  s.interfaces.map Interface.namespace ++ s.lookups.map .record

theorem entries_registrations (s : Schema) (k : MessageKind) :
    (Registry.empty.addAll (s.interfaces.flatMap Interface.registrations)).entries k =
      (s.messages.filter (·.kind = k)).map fun m => m.function.entry m.interface.name := by
  rw [Registry.entries_empty_addAll, ← map_messages, List.filter_map, List.map_map]
  rfl

/-- The register yields the same lookup records as the list of messages. -/
theorem lookupRecords_registrations (s : Schema) :
    (Registry.empty.addAll (s.interfaces.flatMap Interface.registrations)).lookupRecords =
      s.lookups := by
  have hrecord (k : MessageKind) :
      (Registry.empty.addAll (s.interfaces.flatMap Interface.registrations)).lookupRecord k =
        s.lookup k := by
    rw [Registry.lookupRecord, entries_registrations, List.map_map]
    rfl
  have hpresent (k : MessageKind) :
      (Registry.empty.addAll (s.interfaces.flatMap Interface.registrations)).hasEntries k =
        s.messages.any (·.kind = k) := by
    rw [Registry.hasEntries, entries_registrations, List.isEmpty_map, Bool.eq_iff_iff]
    simp [List.filter_eq_nil_iff]
  rw [Registry.lookupRecords, funext hrecord, funext hpresent]
  rfl

theorem declarations_eq (s : Schema) : s.declarations = s.reference := by
  rw [declarations, Writer.writeAll_eq, reference]
  exact congrArg (s.interfaces.map Interface.namespace ++ List.map .record ·)
    (lookupRecords_registrations s)

private theorem flatMap_filter_of_nil {α β : Type} (ks : List α) (isKept : α → Bool)
    (f : α → List β) (h : ∀ k, isKept k = false → f k = []) :
    (ks.filter isKept).flatMap f = ks.flatMap f := by
  induction ks with
  | nil => rfl
  | cons k ks ih =>
    cases hk : isKept k with
    | true => simp [hk, ih]
    | false => simp [hk, ih, h k hk]

theorem perm_filter_kinds (ms : List Message) :
    (ms.filter (·.kind = .notification) ++ (ms.filter (·.kind = .request) ++
      ms.filter (·.kind = .response))).Perm ms := by
  induction ms with
  | nil => exact .nil
  | cons m ms ih =>
    cases hm : m.kind with
    | notification => simpa [hm] using ih
    | request => simpa [hm] using List.perm_middle.trans (ih.cons m)
    | response =>
      rw [← List.append_assoc] at ih ⊢
      simpa [hm] using List.perm_middle.trans (ih.cons m)

/-- Each message has one property among all lookup records. -/
theorem perm_lookups (s : Schema) :
    (s.lookups.flatMap (·.properties)).Perm (s.messages.map Message.property) := by
  have habsent (k : MessageKind) (h : s.messages.any (·.kind = k) = false) :
      (s.lookup k).properties = [] := by
    simpa [lookup, List.filter_eq_nil_iff] using h
  rw [lookups, List.flatMap_map, flatMap_filter_of_nil _ _ _ habsent]
  simpa [lookup] using (perm_filter_kinds s.messages).map Message.property

/-- The property of a message stands in the lookup record of its own kind. -/
theorem property_mem_lookup {s : Schema} {m : Message} (h : m ∈ s.messages) :
    s.lookup m.kind ∈ s.lookups ∧ m.property ∈ (s.lookup m.kind).properties := by
  have hany : s.messages.any (·.kind = m.kind) = true :=
    List.any_eq_true.mpr ⟨m, h, decide_eq_true rfl⟩
  constructor
  · refine List.mem_map.mpr ⟨m.kind, List.mem_filter.mpr ⟨?_, hany⟩, rfl⟩
    cases m.kind <;> simp
  · exact List.mem_map.mpr ⟨m, List.mem_filter.mpr ⟨h, decide_eq_true rfl⟩, rfl⟩

/-- The namespace of a message and its payload record there. -/
theorem payload_at {s : Schema} {m : Message} (h : m ∈ s.messages) :
    s.declarations[m.interfaceNumber]? = some m.interface.namespace ∧
      m.interface.body[m.bodyNumber]? = some (.record m.function.record) := by
  obtain ⟨hi, hf⟩ := mem_messages.mp h
  constructor
  · have hlt := (List.getElem?_eq_some_iff.mp hi).1
    rw [declarations_eq, reference, List.getElem?_append_left (by simpa using hlt),
      List.getElem?_map, hi]
    rfl
  · rw [Interface.body, List.getElem?_append_right (by simp [Message.bodyNumber])]
    simp [Message.bodyNumber, hf]

/-- The declarations are the reference. The messages are all functions, each at its own place and in
the order of the places. The property of a message stands in the lookup record of its kind and
refers to the record that stands for it in its namespace; there are no other properties. -/
theorem declarations_eq_reference (s : Schema) :
    s.declarations = s.reference ∧
      (s.messages.Pairwise Message.Precedes ∧ ∀ m, m ∈ s.messages ↔
        s.interfaces[m.interfaceNumber]? = some m.interface ∧
          m.interface.functions[m.functionNumber]? = some m.function) ∧
      (∀ m ∈ s.messages, ∃ name body comments record,
        s.declarations[m.interfaceNumber]? = some (.space name body comments) ∧
          body[m.bodyNumber]? = some (.record record) ∧
          m.property = ⟨name ++ "." ++ m.function.name,
            ⟨name ++ "." ++ record.name, false, false⟩, false, []⟩ ∧
          s.lookup m.kind ∈ s.lookups ∧ m.property ∈ (s.lookup m.kind).properties) ∧
      (s.lookups.flatMap (·.properties)).Perm (s.messages.map Message.property) := by
  refine ⟨declarations_eq s, ⟨messages_pairwise s, fun m => mem_messages⟩, ?_, perm_lookups s⟩
  intro m hm
  obtain ⟨hspace, hrecord⟩ := payload_at hm
  exact ⟨_, _, _, _, hspace, hrecord, rfl, property_mem_lookup hm⟩

end Schema

end DeclGen
