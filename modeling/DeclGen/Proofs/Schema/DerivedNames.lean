import Mathlib.Data.List.Basic
import Mathlib.Data.List.Pairwise
import DeclGen.Proofs.Schema.Generation

/-!
Names that are put together from others. The payload record of a function has the name of the
function with the suffix of its kind, and the key of a message is the name of its interface and that
of its function with a dot between them. Here is exactly when different parts make one name.
-/

namespace DeclGen

/-- A notification that is named as the payload record of a request or a response. -/
structure Function.IsNamedAsPayload (f g : Function) : Prop where
  notification : f.kind = .notification
  suffixed : g.kind ≠ .notification
  name : f.name = g.name ++ g.kind.suffix

section

variable {f g : Function}

theorem Function.recordName_of_notification (h : f.kind = .notification) :
    f.recordName = f.name := by
  rw [recordName, h]
  exact String.append_empty

/-- The suffixes of requests and responses end in different letters. -/
theorem MessageKind.eq_of_append_suffix {k k' : MessageKind} {a b : String}
    (hk : k ≠ .notification) (hk' : k' ≠ .notification) (h : a ++ k.suffix = b ++ k'.suffix) :
    k = k' := by
  have hlast : ∀ {k : MessageKind} (a : String), k ≠ .notification →
      (a ++ k.suffix).toList.getLast? = k.suffix.toList.getLast? := by
    intro k a hk
    rw [String.toList_append, List.getLast?_append_of_ne_nil]
    revert hk
    cases k <;> decide
  have hends : k.suffix.toList.getLast? = k'.suffix.toList.getLast? := by
    rw [← hlast a hk, h, hlast b hk']
  revert hk hk' hends
  cases k <;> cases k' <;> decide

/-- Different functions have one record name only if one is a notification that is named as the
payload record of the other. -/
theorem Function.recordName_eq_iff (hne : (f.name, f.kind) ≠ (g.name, g.kind)) :
    f.recordName = g.recordName ↔ f.IsNamedAsPayload g ∨ g.IsNamedAsPayload f := by
  constructor
  · intro h
    by_cases hf : f.kind = .notification
    · by_cases hg : g.kind = .notification
      · rw [recordName_of_notification hf, recordName_of_notification hg] at h
        exact absurd (by rw [h, hf, hg]) hne
      · rw [recordName_of_notification hf] at h
        exact .inl ⟨hf, hg, h⟩
    · by_cases hg : g.kind = .notification
      · rw [recordName_of_notification hg] at h
        exact .inr ⟨hg, hf, h.symm⟩
      · have hkind := MessageKind.eq_of_append_suffix hf hg h
        rw [recordName, recordName, hkind, String.append_left_inj] at h
        exact absurd (by rw [h, hkind]) hne
  · rintro (⟨hf, _, hname⟩ | ⟨hg, _, hname⟩)
    · rw [recordName_of_notification hf]
      exact hname
    · rw [recordName_of_notification hg]
      exact hname.symm

end

/-- The payload records of an interface, in the order of its functions. -/
def Interface.payloads (i : Interface) : List Record := i.functions.map Function.record

theorem Interface.writeInterface_payloads (i : Interface) (w : Writer) : (w.writeInterface i).1 =
    .space i.name (i.enums.map Enumeration.declaration ++
      i.structs.map (fun s => .record s.record) ++ i.payloads.map .record) i.description := by
  rw [Writer.writeInterface_eq, Interface.namespace, body, payloads, List.map_map]
  rfl

theorem Interface.name_of_payloads {i : Interface} {n : Nat} {f : Function} {r : Record}
    (hf : i.functions[n]? = some f) (hr : i.payloads[n]? = some r) : r.name = f.recordName := by
  rw [payloads, List.getElem?_map, hf] at hr
  cases hr
  rfl

theorem Interface.map_name_payloads (i : Interface) :
    i.payloads.map Record.name = i.functions.map Function.recordName := by
  rw [payloads, List.map_map]
  rfl

/-- No function is listed twice: two of them differ in name or in kind. -/
def Interface.HasDistinctFunctions (i : Interface) : Prop :=
  i.functions.Pairwise fun f g => (f.name, f.kind) ≠ (g.name, g.kind)

instance (i : Interface) : Decidable i.HasDistinctFunctions :=
  inferInstanceAs (Decidable (List.Pairwise _ _))

section

variable {i : Interface}

theorem Interface.HasDistinctFunctions.ne {m n : Nat} {f g : Function}
    (h : i.HasDistinctFunctions) (hne : m ≠ n) (hf : i.functions[m]? = some f)
    (hg : i.functions[n]? = some g) : (f.name, f.kind) ≠ (g.name, g.kind) := by
  obtain ⟨hm, rfl⟩ := List.getElem?_eq_some_iff.mp hf
  obtain ⟨hn, rfl⟩ := List.getElem?_eq_some_iff.mp hg
  rcases Nat.lt_or_gt_of_ne hne with hlt | hlt
  · exact List.pairwise_iff_getElem.mp h m n hm hn hlt
  · exact (List.pairwise_iff_getElem.mp h n m hn hm hlt).symm

/-- A function is named as no payload record if its name, where it is a notification, ends in no
suffix. -/
theorem Function.not_isNamedAsPayload {f : Function} (h : f.kind = .notification → ∀ front,
    f.name ≠ front ++ "$Request" ∧ f.name ≠ front ++ "$Response") (g : Function) :
    ¬ f.IsNamedAsPayload g := by
  rintro ⟨hkind, hsuffixed, hname⟩
  obtain ⟨hrequest, hresponse⟩ := h hkind g.name
  cases hg : g.kind with
  | request => exact hrequest (by rw [hname, hg]; rfl)
  | response => exact hresponse (by rw [hname, hg]; rfl)
  | notification => exact hsuffixed hg

theorem Interface.HasDistinctFunctions.nodup_names (h : i.HasDistinctFunctions)
    (hnone : ∀ f ∈ i.functions, ∀ g, ¬ f.IsNamedAsPayload g) :
    (i.payloads.map Record.name).Nodup := by
  rw [map_name_payloads, List.nodup_iff_pairwise_ne, List.pairwise_map]
  refine h.imp_of_mem fun {f g} hf hg hne => ?_
  rw [Ne, Function.recordName_eq_iff hne, not_or]
  exact ⟨hnone f hf g, hnone g hg f⟩

end

/-- The payload records of an interface stand in its namespace behind the enumerations and the
structures. Where no function is listed twice, two of them have one name if and only if one is that
of a notification that is named as the other. So the records of requests and responses always differ
in name, and all do if no notification is named with a suffix. -/
theorem Interface.payloads_name_eq_iff (i : Interface) (hdistinct : i.HasDistinctFunctions) :
    (∀ w : Writer, (w.writeInterface i).1 = .space i.name (i.enums.map Enumeration.declaration ++
      i.structs.map (fun s => .record s.record) ++ i.payloads.map .record) i.description) ∧
    (∀ (m n : Nat) (f g : Function) (r r' : Record), m ≠ n →
      i.functions[m]? = some f → i.functions[n]? = some g →
      i.payloads[m]? = some r → i.payloads[n]? = some r' →
        (r.name = r'.name ↔ f.IsNamedAsPayload g ∨ g.IsNamedAsPayload f) ∧
          (f.kind ≠ .notification → g.kind ≠ .notification → r.name ≠ r'.name)) ∧
    ((∀ f ∈ i.functions, f.kind = .notification → ∀ front,
        f.name ≠ front ++ "$Request" ∧ f.name ≠ front ++ "$Response") →
      (i.payloads.map Record.name).Nodup) := by
  refine ⟨i.writeInterface_payloads, ?_, fun hunsuffixed => hdistinct.nodup_names fun f hf =>
    f.not_isNamedAsPayload (hunsuffixed f hf)⟩
  intro m n f g r r' hne hf hg hr hr'
  have hsame := Function.recordName_eq_iff (hdistinct.ne hne hf hg)
  rw [name_of_payloads hf hr, name_of_payloads hg hr']
  refine ⟨hsame, fun hfkind hgkind heq => ?_⟩
  rcases hsame.mp heq with hnamed | hnamed
  · exact hfkind hnamed.notification
  · exact hgkind hnamed.notification

/-- A message that goes both ways, and a notification with the name of its request's payload. -/
def alerts : Interface :=
  ⟨"UI", [], [], [⟨"Alert", .request, [], none, []⟩, ⟨"Alert", .response, [], none, []⟩,
    ⟨"Alert$Request", .notification, [], none, []⟩], []⟩

/-- The notification's record is named as that of the request, but not as that of the response. -/
theorem alerts_payloads : alerts.HasDistinctFunctions ∧
    ∃ first second third, alerts.payloads = [first, second, third] ∧
      first.name = third.name ∧ second.name ≠ third.name ∧ first.name ≠ second.name := by
  have hdistinct : alerts.HasDistinctFunctions := by
    decide
  have hpairs := (alerts.payloads_name_eq_iff hdistinct).2.1
  refine ⟨hdistinct, _, _, _, rfl, ?_, ?_, ?_⟩
  · exact (hpairs 0 2 _ _ _ _ (by decide) rfl rfl rfl rfl).1.mpr
      (.inr ⟨rfl, by decide, by decide⟩)
  · intro heq
    rcases (hpairs 1 2 _ _ _ _ (by decide) rfl rfl rfl rfl).1.mp heq with hnamed | hnamed
    · exact absurd hnamed.notification (by decide)
    · exact absurd hnamed.name (by decide)
  · exact (hpairs 0 1 _ _ _ _ (by decide) rfl rfl rfl rfl).2 (by decide) (by decide)

private theorem append_cons_eq_append_cons {α : Type} {x : α} {as bs cs ds : List α} :
    as ++ x :: bs = cs ++ x :: ds ↔ as = cs ∧ bs = ds ∨
      (∃ part, cs = as ++ x :: part ∧ bs = part ++ x :: ds) ∨
      ∃ part, as = cs ++ x :: part ∧ ds = part ++ x :: bs := by
  constructor
  · intro h
    rcases List.append_eq_append_iff.mp h with ⟨more, hcs, hrest⟩ | ⟨more, has, hrest⟩
    · cases more with
      | nil => exact .inl ⟨by simpa using hcs.symm, (List.cons.inj hrest).2⟩
      | cons y part =>
        obtain ⟨rfl, hbs⟩ := List.cons.inj hrest
        exact .inr (.inl ⟨part, hcs, hbs⟩)
    · cases more with
      | nil => exact .inl ⟨by simpa using has, (List.cons.inj hrest).2.symm⟩
      | cons y part =>
        obtain ⟨rfl, hds⟩ := List.cons.inj hrest
        exact .inr (.inr ⟨part, has, hds⟩)
  · rintro (⟨rfl, rfl⟩ | ⟨part, rfl, rfl⟩ | ⟨part, rfl, rfl⟩) <;> simp

theorem toList_dotted (a b : String) : (a ++ "." ++ b).toList = a.toList ++ '.' :: b.toList := by
  simp

/-- Names with a dot between them make one text only if they are the same, or if a part between two
dots belongs to the first name of the one and to the second name of the other. -/
theorem dotted_eq_dotted_iff {a b c d : String} : a ++ "." ++ b = c ++ "." ++ d ↔
    a = c ∧ b = d ∨ (∃ part, c = a ++ "." ++ part ∧ b = part ++ "." ++ d) ∨
      ∃ part, a = c ++ "." ++ part ∧ d = part ++ "." ++ b := by
  have hparts (a b c d : String) :
      (∃ part, c.toList = a.toList ++ '.' :: part ∧ b.toList = part ++ '.' :: d.toList) ↔
        ∃ part, c = a ++ "." ++ part ∧ b = part ++ "." ++ d := by
    constructor
    · rintro ⟨part, hc, hb⟩
      refine ⟨String.ofList part, String.toList_injective ?_, String.toList_injective ?_⟩
      · rw [hc, toList_dotted, String.toList_ofList]
      · rw [hb, toList_dotted, String.toList_ofList]
    · rintro ⟨part, rfl, rfl⟩
      exact ⟨part.toList, toList_dotted a part, toList_dotted part d⟩
  rw [← String.toList_inj, toList_dotted, toList_dotted, append_cons_eq_append_cons, hparts, hparts,
    String.toList_inj, String.toList_inj]

namespace Message

variable {m n : Message}

/-- The name of the other interface goes on where that of the one ends, with a part of the name of
the one function. -/
def Overlaps (m n : Message) : Prop := ∃ part,
  n.interface.name = m.interface.name ++ "." ++ part ∧
    m.function.name = part ++ "." ++ n.function.name

theorem property_name_eq_iff : m.property.name = n.property.name ↔
    m.interface.name = n.interface.name ∧ m.function.name = n.function.name ∨
      m.Overlaps n ∨ n.Overlaps m :=
  dotted_eq_dotted_iff

/-- No message overlaps itself: its interface's name would be longer than it is. -/
theorem not_overlaps_self (m : Message) : ¬ m.Overlaps m := by
  rintro ⟨part, hname, _⟩
  have hlength := congrArg String.length hname
  simp only [String.length_append] at hlength
  have hdot : ".".length = 1 := rfl
  omega

/-- Where messages overlap, the name of one interface holds a dot, and that of one function. -/
theorem Overlaps.dot_mem (h : m.Overlaps n) :
    '.' ∈ n.interface.name.toList ∧ '.' ∈ m.function.name.toList := by
  obtain ⟨part, hinterface, hfunction⟩ := h
  rw [hinterface, hfunction, toList_dotted, toList_dotted]
  exact ⟨List.mem_append_right _ List.mem_cons_self, List.mem_append_right _ List.mem_cons_self⟩

end Message

namespace Schema

variable {s : Schema} {k : MessageKind}

/-- The lookup records are the records outside the namespaces. -/
theorem record_mem_declarations {r : Record} : .record r ∈ s.declarations ↔ r ∈ s.lookups := by
  rw [declarations_eq, reference, List.mem_append, List.mem_map, List.mem_map]
  simp [Interface.namespace]

/-- No message stands twice: two of one kind differ in the name of the interface or in that of the
function. -/
def HasDistinctMessages (s : Schema) : Prop :=
  s.messages.Pairwise fun m n => m.kind = n.kind →
    ¬ (m.interface.name = n.interface.name ∧ m.function.name = n.function.name)

instance (s : Schema) : Decidable s.HasDistinctMessages :=
  inferInstanceAs (Decidable (List.Pairwise _ _))

theorem HasDistinctMessages.nodup_keys_iff (hdistinct : s.HasDistinctMessages) :
    ((s.lookup k).properties.map Property.name).Nodup ↔
      ∀ m ∈ s.messages, ∀ n ∈ s.messages, m.kind = k → n.kind = k → ¬ m.Overlaps n := by
  have hkeys : ((s.lookup k).properties.map Property.name).Nodup ↔ s.messages.Pairwise fun m n =>
      m.kind = k → n.kind = k → m.property.name ≠ n.property.name := by
    rw [lookup, List.map_map, List.nodup_iff_pairwise_ne, List.pairwise_map, List.pairwise_filter]
    simp
  rw [hkeys]
  constructor
  · intro hpairs
    have hforth : s.messages.Pairwise fun m n => m.kind = k → n.kind = k → ¬ m.Overlaps n :=
      hpairs.imp fun hne hm hn hover =>
        hne hm hn (Message.property_name_eq_iff.mpr (.inr (.inl hover)))
    have hback : s.messages.Pairwise fun m n => n.kind = k → m.kind = k → ¬ n.Overlaps m :=
      hpairs.imp fun hne hn hm hover =>
        hne hm hn (Message.property_name_eq_iff.mpr (.inr (.inr hover)))
    intro m hm n hn
    exact hforth.forall_of_forall_of_flip (fun m _ _ _ => m.not_overlaps_self) hback hm hn
  · intro hnone
    refine hdistinct.imp_of_mem fun {m n} hm hn hne hmkind hnkind hsame => ?_
    rcases Message.property_name_eq_iff.mp hsame with hnames | hover | hover
    · exact hne (hmkind.trans hnkind.symm) hnames
    · exact hnone m hm n hn hmkind hnkind hover
    · exact hnone n hn m hm hnkind hmkind hover

/-- Where no message stands twice, the keys of a lookup record differ if and only if no two of its
messages overlap. They do not if none of their interfaces has a dot in its name, or none of their
functions. -/
theorem lookup_keys_distinct_iff (s : Schema) (hdistinct : s.HasDistinctMessages) :
    ∀ r, .record r ∈ s.declarations → ∃ k : MessageKind, r.name = k.lookupName ∧
      ((r.properties.map Property.name).Nodup ↔
        ∀ m ∈ s.messages, ∀ n ∈ s.messages, m.kind = k → n.kind = k → ¬ m.Overlaps n) ∧
      ((∀ m ∈ s.messages, m.kind = k → '.' ∉ m.interface.name.toList) ∨
          (∀ m ∈ s.messages, m.kind = k → '.' ∉ m.function.name.toList) →
        (r.properties.map Property.name).Nodup) := by
  intro r hr
  obtain ⟨k, _, rfl⟩ := List.mem_map.mp (record_mem_declarations.mp hr)
  have hnodup := hdistinct.nodup_keys_iff (k := k)
  refine ⟨k, rfl, hnodup, fun hplain => hnodup.mpr fun m hm n hn hmkind hnkind hover => ?_⟩
  obtain ⟨hinterface, hfunction⟩ := hover.dot_mem
  rcases hplain with hplain | hplain
  · exact hplain n hn hnkind hinterface
  · exact hplain m hm hmkind hfunction

def shorter : Interface :=
  ⟨"A", [], [], [⟨"B.C", .request, [], none, []⟩, ⟨"D", .notification, [], none, []⟩], []⟩

def longer : Interface := ⟨"A.B", [], [], [⟨"C", .request, [], none, []⟩], []⟩

/-- Two requests with one key: the dot behind the name of the one interface is a dot in the name of
the other. -/
def dotted : Schema := ⟨[shorter, longer], none, none⟩

theorem distinct_dotted : dotted.HasDistinctMessages := by
  decide

theorem record_mem_dotted : .record (dotted.lookup .request) ∈ dotted.declarations ∧
    .record (dotted.lookup .notification) ∈ dotted.declarations :=
  ⟨record_mem_declarations.mpr (by decide), record_mem_declarations.mpr (by decide)⟩

/-- The keys of the requests coincide, and that of the notification stands alone. -/
theorem keys_dotted : dotted.HasDistinctMessages ∧
    .record (dotted.lookup .request) ∈ dotted.declarations ∧
    ¬ ((dotted.lookup .request).properties.map Property.name).Nodup ∧
    .record (dotted.lookup .notification) ∈ dotted.declarations ∧
    ((dotted.lookup .notification).properties.map Property.name).Nodup := by
  obtain ⟨hrequests, hnotifications⟩ := record_mem_dotted
  refine ⟨distinct_dotted, hrequests, fun hnodup => ?_, hnotifications, ?_⟩
  · obtain ⟨k, hk, hiff, _⟩ := lookup_keys_distinct_iff dotted distinct_dotted _ hrequests
    obtain rfl : k = .request := by
      revert hk
      cases k <;> decide
    exact hiff.mp hnodup ⟨0, 0, shorter, _⟩ (mem_messages.mpr ⟨rfl, rfl⟩) ⟨1, 0, longer, _⟩
      (mem_messages.mpr ⟨rfl, rfl⟩) rfl rfl ⟨"B", by decide, by decide⟩
  · obtain ⟨k, hk, _, hplain⟩ := lookup_keys_distinct_iff dotted distinct_dotted _ hnotifications
    obtain rfl : k = .notification := by
      revert hk
      cases k <;> decide
    exact hplain (.inl (by decide))

/-- Distinct messages do not always have different keys. -/
theorem lookup_keys_repeated : ¬ ∀ s : Schema, s.HasDistinctMessages →
    ∀ r, .record r ∈ s.declarations → (r.properties.map Property.name).Nodup := by
  intro h
  exact absurd (h dotted distinct_dotted _ record_mem_dotted.1) (by decide)

end Schema

end DeclGen
