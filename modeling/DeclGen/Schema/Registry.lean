import DeclGen.Schema.MessageKind

/-!
The register of generated messages, grouped by kind. Groups stand in the order of their first
entry, entries in the order they were added.
-/

namespace DeclGen

/-- The name of a message on the wire and the type of its payload. -/
structure RegistryEntry where
  wireName : String
  typeReference : String
  deriving DecidableEq, Repr

structure Registry where
  groups : List (MessageKind × List RegistryEntry)
  deriving DecidableEq, Repr

/-- Appends an entry to the group of its kind, or opens that group behind all others. -/
def insertEntry (kind : MessageKind) (entry : RegistryEntry) :
    List (MessageKind × List RegistryEntry) → List (MessageKind × List RegistryEntry)
  | [] => [(kind, [entry])]
  | (k, entries) :: groups =>
    if k = kind then (k, entries ++ [entry]) :: groups
    else (k, entries) :: insertEntry kind entry groups

theorem lookup_insertEntry (kind k : MessageKind) (entry : RegistryEntry)
    (groups : List (MessageKind × List RegistryEntry)) :
    ((insertEntry kind entry groups).lookup k).getD [] =
      if k = kind then (groups.lookup k).getD [] ++ [entry] else (groups.lookup k).getD [] := by
  induction groups with
  | nil =>
    by_cases h : k = kind
    · simp [insertEntry, h]
    · simp [insertEntry, List.lookup_cons, h, beq_false_of_ne h]
  | cons g rest ih =>
    obtain ⟨k', entries⟩ := g
    unfold insertEntry
    split
    · next hk =>
      subst hk
      by_cases h : k = k'
      · simp [h]
      · simp [List.lookup_cons, h, beq_false_of_ne h]
    · next hk =>
      by_cases h : k = k'
      · subst h; simp [hk]
      · simp only [List.lookup_cons, beq_false_of_ne h, ih]

namespace Registry

def empty : Registry := ⟨[]⟩

def add (r : Registry) (kind : MessageKind) (entry : RegistryEntry) : Registry :=
  ⟨insertEntry kind entry r.groups⟩

def entries (r : Registry) (kind : MessageKind) : List RegistryEntry :=
  (r.groups.lookup kind).getD []

/-- An entry is appended to those of its kind, and the other kinds keep theirs. -/
theorem entries_add (r : Registry) (kind k : MessageKind) (entry : RegistryEntry) :
    (r.add kind entry).entries k =
      if k = kind then r.entries k ++ [entry] else r.entries k :=
  lookup_insertEntry kind k entry r.groups

def hasEntries (r : Registry) (kind : MessageKind) : Bool := !(r.entries kind).isEmpty

/-- The number of entries of each kind, for diagnostics. -/
def summary (r : Registry) : String :=
  "MessageTypeRegistry(" ++ ", ".intercalate (r.groups.map fun (kind, entries) =>
    s!"{kind.word}={entries.length}") ++ ")"

end Registry

end DeclGen
