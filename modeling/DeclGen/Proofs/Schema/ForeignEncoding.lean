import DeclGen.Schema.Load

/-!
How loading can fail. A document whose XML declaration names an encoding that is not known, one in
which a character takes several bytes, or one that refuses to read bytes at all, is not read, and
fails with that. Every other failure is a fault of the document itself.
-/

namespace DeclGen

/-- Why a document cannot be read in the encoding that it declares. -/
inductive ForeignEncoding where
  | unknown (name : String)
  | multiByte
  | refusing (encoding : Xml.RefusingEncoding)
  deriving DecidableEq, Repr

namespace ForeignEncoding

def documentError : ForeignEncoding → Xml.DocumentError
  | unknown name => .unknownEncoding name
  | multiByte => .multiByteEncoding
  | refusing encoding => .refusingEncoding encoding

def loadError : ForeignEncoding → LoadError
  | unknown name => .unknownEncoding name
  | multiByte => .multiByteEncoding
  | refusing encoding => .refusingEncoding encoding

theorem ofDocument_documentError (foreign : ForeignEncoding) :
    LoadError.ofDocument foreign.documentError = foreign.loadError := by
  cases foreign <;> rfl

theorem loadError_ne_schema (foreign : ForeignEncoding) (e : SchemaError) :
    foreign.loadError ≠ .schema e := by
  cases foreign <;> exact nofun

end ForeignEncoding

namespace Xml

/-- What keeps a document with a declaration from being read. The declaration itself is read in the
encoding `current`. -/
def XmlDeclaration.foreignEncoding? (d : XmlDeclaration) (current : Encoding) :
    Option ForeignEncoding :=
  match d.encoding with
  | none => none
  | some (name, _) =>
    match NamedEncoding.ofName current name with
    | .unknown => some (.unknown name)
    | .multiByte => some .multiByte
    | .refusing encoding => some (.refusing encoding)
    | .native _ | .page _ | .unfit => none

/-- The XML declaration with which a document begins. -/
def Source.declaration? (source : Source) : Option XmlDeclaration :=
  match scanPrologToken source.input with
  | .token (.declaration body finish) _ => (readXmlDeclaration body finish).toOption
  | _ => none

/-- What keeps a document from being read in the encoding that its XML declaration names. -/
def foreignEncoding? (bytes : List UInt8) : Option ForeignEncoding :=
  match detect bytes with
  | .undecided => none
  | .found encoding mark =>
    (Source.decode encoding bytes (if mark = 0 then 0 else 1)).declaration?.bind
      (·.foreignEncoding? encoding)

/-- A result that fails for a foreign encoding where there is one, and otherwise for a fault of the
document, if at all. -/
def StopsAt {α : Type} (foreign : Option ForeignEncoding) (result : Except DocumentError α) :
    Prop :=
  match foreign with
  | some foreign => result = .error foreign.documentError
  | none => ∀ e, result = .error e → ∃ fault, e = .malformed fault

section

variable {α β : Type} {foreign : Option ForeignEncoding}

theorem stopsAt_mapError (result : Except Fault α) :
    StopsAt none (result.mapError .malformed) := by
  intro e h
  cases result with
  | ok value => cases h
  | error fault =>
    cases h
    exact ⟨fault, rfl⟩

theorem stopsAt_malformed (fault : Fault) :
    StopsAt none (.error (.malformed fault) : Except DocumentError α) :=
  stopsAt_mapError (.error fault)

theorem StopsAt.bind {result : Except DocumentError α} {next : α → Except DocumentError β}
    (h : StopsAt foreign result) (hnext : ∀ value, StopsAt none (next value)) :
    StopsAt foreign (result >>= next) := by
  cases foreign with
  | some foreign =>
    cases h
    rfl
  | none =>
    cases result with
    | ok value => exact hnext value
    | error e =>
      obtain ⟨fault, rfl⟩ := h e rfl
      exact stopsAt_malformed fault

end

theorem stopsAt_nextEncoding? (current : Encoding) (d : XmlDeclaration) :
    StopsAt (d.foreignEncoding? current) (nextEncoding? .honoured current d) := by
  unfold XmlDeclaration.foreignEncoding? nextEncoding?
  cases d.encoding with
  | none => exact stopsAt_mapError (.ok none)
  | some declared =>
    obtain ⟨name, position⟩ := declared
    simp only
    cases NamedEncoding.ofName current name with
    | native encoding =>
      simp only
      split
      · exact stopsAt_malformed _
      · exact stopsAt_mapError (.ok _)
    | page encoding => exact stopsAt_mapError (.ok (some encoding))
    | unfit => exact stopsAt_malformed _
    | multiByte => rfl
    | refusing encoding => rfl
    | unknown => rfl

theorem stopsAt_readEncoded (encoding : Encoding) (mark : Nat) (bytes : List UInt8) :
    StopsAt ((Source.decode encoding bytes (if mark = 0 then 0 else 1)).declaration?.bind
      (·.foreignEncoding? encoding)) (readEncoded .honoured encoding mark bytes) := by
  simp only [readEncoded, Source.declaration?]
  generalize Source.decode encoding bytes (if mark = 0 then 0 else 1) = source
  cases source.input with
  | nil => exact stopsAt_mapError _
  | cons p rest =>
    simp only
    cases scanPrologToken (p :: rest) with
    | root => exact stopsAt_mapError _
    | stop reason => exact stopsAt_mapError _
    | token token left =>
      cases token with
      | declaration body finish =>
        simp only
        cases readXmlDeclaration body finish with
        | error position => exact stopsAt_malformed _
        | ok d =>
          -- Behind the declaration only the body is left, which has nothing but faults.
          refine (stopsAt_nextEncoding? encoding d).bind fun next => ?_
          cases next with
          | none => exact stopsAt_mapError _
          | some next => exact stopsAt_mapError _
      | _ => exact stopsAt_mapError _

/-- A document is not read in a foreign encoding, and fails for nothing but its faults in any
other. -/
theorem stopsAt_readDocument (bytes : List UInt8) :
    StopsAt (foreignEncoding? bytes) (readDocument .honoured bytes) := by
  unfold foreignEncoding? readDocument
  cases detect bytes with
  | undecided => exact stopsAt_malformed _
  | found encoding mark => exact stopsAt_readEncoded encoding mark bytes

end Xml

namespace Schema

open Xml

variable {bytes : List UInt8} {foreign : ForeignEncoding}

theorem ofBytes_of_foreign (h : foreignEncoding? bytes = some foreign) :
    ofBytes bytes = .error foreign.loadError := by
  have hread := stopsAt_readDocument bytes
  rw [h] at hread
  rw [ofBytes, hread, ← foreign.ofDocument_documentError]
  rfl

theorem ofBytes_of_not_foreign (h : foreignEncoding? bytes = none) :
    (∃ schema, ofBytes bytes = .ok schema) ∨ ∃ e, ofBytes bytes = .error (.schema e) := by
  have hread := stopsAt_readDocument bytes
  rw [h] at hread
  unfold ofBytes
  cases hresult : readDocument .honoured bytes with
  | error e =>
    obtain ⟨fault, rfl⟩ := hread e hresult
    exact .inr ⟨.malformed fault, rfl⟩
  | ok tree =>
    simp only [ofDocument]
    cases ofTree tree with
    | ok schema => exact .inl ⟨schema, rfl⟩
    | error e => exact .inr ⟨e, rfl⟩

/-- Loading fails for its own reasons, unless the document is in a foreign encoding. -/
theorem ofBytes_ok_or_schema_iff (bytes : List UInt8) :
    ((∃ schema, ofBytes bytes = .ok schema) ∨ ∃ e, ofBytes bytes = .error (.schema e)) ↔
      foreignEncoding? bytes = none := by
  refine ⟨fun hload => ?_, ofBytes_of_not_foreign⟩
  cases hforeign : foreignEncoding? bytes with
  | none => rfl
  | some foreign =>
    rw [ofBytes_of_foreign hforeign] at hload
    rcases hload with ⟨schema, hok⟩ | ⟨e, herror⟩
    · cases hok
    · exact absurd (Except.error.inj herror) (foreign.loadError_ne_schema e)

end Schema

end DeclGen
