import DeclGen.Declaration.Numbering

/-!
The numbers of enum members in closed form. A member is numbered by the last value that is written
for it or for a member before it, and by its distance from there; where none is written, by its own
place. Numbering fails if and only if a written value is no integer literal, and reports the first
one that is not.
-/

namespace DeclGen

open Text

/-- The text written as the value of the member at a place. -/
def writtenAt (members : List EnumMember) (i : Nat) : Option String :=
  members[i]?.bind EnumMember.value

/-- Of the values written for the members up to place `i`, the one at place `j` is the last. -/
structure IsLastWritten (members : List EnumMember) (i j : Nat) (text : String) : Prop where
  le : j ≤ i
  written : writtenAt members j = some text
  later : ∀ k, j < k → k ≤ i → writtenAt members k = none

/-- No value is written for the members up to place `i`. -/
def NoneWritten (members : List EnumMember) (i : Nat) : Prop :=
  ∀ k ≤ i, writtenAt members k = none

section

variable {m : EnumMember} {ms : List EnumMember} {i j : Nat} {text : String}

theorem isLastWritten_zero : IsLastWritten (m :: ms) 0 j text ↔ j = 0 ∧ m.value = some text := by
  constructor
  · rintro ⟨hle, hwritten, _⟩
    obtain rfl := Nat.le_zero.mp hle
    exact ⟨rfl, hwritten⟩
  · rintro ⟨rfl, hvalue⟩
    exact ⟨Nat.le_refl 0, hvalue, fun k hlt hle => by omega⟩

theorem isLastWritten_succ_zero :
    IsLastWritten (m :: ms) (i + 1) 0 text ↔ m.value = some text ∧ NoneWritten ms i := by
  constructor
  · rintro ⟨_, hvalue, hlater⟩
    exact ⟨hvalue, fun k hk => hlater (k + 1) (by omega) (by omega)⟩
  · rintro ⟨hvalue, hnone⟩
    refine ⟨Nat.zero_le _, hvalue, fun k hlt hle => ?_⟩
    obtain ⟨k, rfl⟩ := Nat.exists_eq_add_of_lt hlt
    exact hnone _ (by omega)

theorem isLastWritten_succ_succ :
    IsLastWritten (m :: ms) (i + 1) (j + 1) text ↔ IsLastWritten ms i j text := by
  constructor
  · rintro ⟨hle, hwritten, hlater⟩
    exact ⟨by omega, hwritten, fun k hlt hle => hlater (k + 1) (by omega) (by omega)⟩
  · rintro ⟨hle, hwritten, hlater⟩
    refine ⟨by omega, hwritten, fun k hlt hle => ?_⟩
    obtain ⟨k, rfl⟩ := Nat.exists_eq_add_of_lt hlt
    exact hlater _ (by omega) (by omega)

theorem noneWritten_zero : NoneWritten (m :: ms) 0 ↔ m.value = none := by
  constructor
  · intro h
    exact h 0 (Nat.le_refl 0)
  · intro hvalue k hk
    obtain rfl := Nat.le_zero.mp hk
    exact hvalue

theorem noneWritten_succ :
    NoneWritten (m :: ms) (i + 1) ↔ m.value = none ∧ NoneWritten ms i := by
  constructor
  · intro h
    exact ⟨h 0 (Nat.zero_le _), fun k hk => h (k + 1) (by omega)⟩
  · rintro ⟨hvalue, hnone⟩ k hk
    cases k with
    | zero => exact hvalue
    | succ k => exact hnone k (by omega)

end

/-- The number of a member, where `next` is its number if no value is written for it. -/
def EnumMember.number (next : Int) (m : EnumMember) : Except LiteralFault Int :=
  match m.value with
  | some text => readInteger text
  | none => .ok next

/-- The number of the member at place `i`, where members are numbered from `next` on as long as no
value is written: the last written value, and the distance from there. -/
def IsNumberFrom (next : Int) (members : List EnumMember) (i : Nat) (number : Int) : Prop :=
  (∃ j text value, IsLastWritten members i j text ∧ readInteger text = .ok value ∧
    number = value + (i - j)) ∨
  NoneWritten members i ∧ number = next + i

section

variable {next value number : Int} {m : EnumMember} {ms : List EnumMember} {i : Nat}
  {text : String}

theorem EnumMember.number_of_written (hvalue : m.value = some text) :
    m.number next = readInteger text := by
  rw [number, hvalue]

theorem EnumMember.number_of_none (hvalue : m.value = none) : m.number next = .ok next := by
  rw [number, hvalue]

theorem isNumberFrom_zero : IsNumberFrom next (m :: ms) 0 number ↔ m.number next = .ok number := by
  cases hvalue : m.value with
  | none =>
    simp [IsNumberFrom, isLastWritten_zero, noneWritten_zero, EnumMember.number_of_none hvalue,
      hvalue, eq_comm]
  | some text =>
    rw [EnumMember.number_of_written hvalue]
    constructor
    · rintro (⟨j, text', value, hlast, hread, rfl⟩ | ⟨hnone, _⟩)
      · obtain ⟨rfl, hvalue'⟩ := isLastWritten_zero.mp hlast
        cases hvalue.symm.trans hvalue'
        simpa using hread
      · cases hvalue.symm.trans (noneWritten_zero.mp hnone)
    · intro hread
      exact .inl ⟨0, text, number, isLastWritten_zero.mpr ⟨rfl, hvalue⟩, hread, by simp⟩

/-- The members behind the first one are numbered from its number on. -/
theorem isNumberFrom_succ (hnumber : m.number next = .ok value) :
    IsNumberFrom next (m :: ms) (i + 1) number ↔ IsNumberFrom (value + 1) ms i number := by
  constructor
  · rintro (⟨j, text, n, hlast, hread, rfl⟩ | ⟨hnone, rfl⟩)
    · cases j with
      | zero =>
        obtain ⟨hvalue, hnone⟩ := isLastWritten_succ_zero.mp hlast
        rw [EnumMember.number_of_written hvalue, hread] at hnumber
        cases hnumber
        exact .inr ⟨hnone, by omega⟩
      | succ j =>
        exact .inl ⟨j, text, n, isLastWritten_succ_succ.mp hlast, hread, by omega⟩
    · obtain ⟨hvalue, hnone⟩ := noneWritten_succ.mp hnone
      rw [EnumMember.number_of_none hvalue] at hnumber
      cases hnumber
      exact .inr ⟨hnone, by omega⟩
  · rintro (⟨j, text, n, hlast, hread, rfl⟩ | ⟨hnone, rfl⟩)
    · exact .inl ⟨j + 1, text, n, isLastWritten_succ_succ.mpr hlast, hread, by omega⟩
    · cases hvalue : m.value with
      | none =>
        rw [EnumMember.number_of_none hvalue] at hnumber
        cases hnumber
        exact .inr ⟨noneWritten_succ.mpr ⟨hvalue, hnone⟩, by omega⟩
      | some text =>
        rw [EnumMember.number_of_written hvalue] at hnumber
        exact .inl ⟨0, text, value, isLastWritten_succ_zero.mpr ⟨hvalue, hnone⟩, hnumber,
          by omega⟩

end

theorem numberFrom_cons (next : Int) (m : EnumMember) (ms : List EnumMember) :
    numberFrom next (m :: ms) = do
      let value ← m.number next
      return value :: (← numberFrom (value + 1) ms) := by
  rw [numberFrom, EnumMember.number]
  cases m.value <;> rfl

section

variable {next value number : Int} {m : EnumMember} {ms : List EnumMember} {values : List Int}
  {fault : LiteralFault}

theorem numberFrom_cons_eq_ok : numberFrom next (m :: ms) = .ok values ↔
    ∃ value rest, m.number next = .ok value ∧ numberFrom (value + 1) ms = .ok rest ∧
      values = value :: rest := by
  rw [numberFrom_cons]
  cases hnumber : m.number next with
  | error fault => simp [bind, Except.bind]
  | ok value =>
    cases hrest : numberFrom (value + 1) ms with
    | error fault => simp [bind, Except.bind, hrest]
    | ok rest => simp [bind, Except.bind, hrest, pure, Except.pure, eq_comm]

theorem numberFrom_cons_eq_error : numberFrom next (m :: ms) = .error fault ↔
    m.number next = .error fault ∨
      ∃ value, m.number next = .ok value ∧ numberFrom (value + 1) ms = .error fault := by
  rw [numberFrom_cons]
  cases hnumber : m.number next with
  | error fault => simp [bind, Except.bind]
  | ok value =>
    cases hrest : numberFrom (value + 1) ms with
    | error fault => simp [bind, Except.bind, hrest]
    | ok rest => simp [bind, Except.bind, hrest, pure, Except.pure]

/-- Numbering gives every member its number, and nothing else. -/
theorem numberFrom_eq_ok : numberFrom next ms = .ok values ↔
    values.length = ms.length ∧
      ∀ i number, values[i]? = some number → IsNumberFrom next ms i number := by
  induction ms generalizing next values with
  | nil =>
    rw [numberFrom, Except.ok.injEq, List.length_nil, List.length_eq_zero_iff]
    constructor
    · rintro rfl
      exact ⟨rfl, fun i number h => by simp at h⟩
    · exact fun h => h.1.symm
  | cons m ms ih =>
    rw [numberFrom_cons_eq_ok]
    constructor
    · rintro ⟨value, rest, hnumber, hrest, rfl⟩
      obtain ⟨hlength, hall⟩ := ih.mp hrest
      refine ⟨by rw [List.length_cons, List.length_cons, hlength], fun i number h => ?_⟩
      cases i with
      | zero =>
        cases h
        exact isNumberFrom_zero.mpr hnumber
      | succ i => exact (isNumberFrom_succ hnumber).mpr (hall i number h)
    · rintro ⟨hlength, hall⟩
      cases values with
      | nil => cases hlength
      | cons value rest =>
        have hnumber := isNumberFrom_zero.mp (hall 0 value rfl)
        refine ⟨value, rest, hnumber, ih.mpr ⟨Nat.succ.inj hlength, fun i number h => ?_⟩, rfl⟩
        exact (isNumberFrom_succ hnumber).mp (hall (i + 1) number h)

/-- The value of a member is an integer literal, if one is written. -/
def EnumMember.IsReadable (m : EnumMember) : Prop :=
  ∀ text, m.value = some text → ∃ value, readInteger text = .ok value

/-- The fault of the first written value that is no integer literal. -/
def IsFirstFault (members : List EnumMember) (fault : LiteralFault) : Prop :=
  ∃ before m after text, members = before ++ m :: after ∧ (∀ b ∈ before, b.IsReadable) ∧
    m.value = some text ∧ readInteger text = .error fault

theorem EnumMember.isReadable_iff (m : EnumMember) (next : Int) :
    m.IsReadable ↔ ∃ value, m.number next = .ok value := by
  rw [IsReadable, number]
  cases m.value with
  | none => simp
  | some text => simp

theorem EnumMember.number_eq_error : m.number next = .error fault ↔
    ∃ text, m.value = some text ∧ readInteger text = .error fault := by
  rw [number]
  cases m.value with
  | none => simp
  | some text => simp

theorem exists_numberFrom_eq_ok :
    (∃ values, numberFrom next ms = .ok values) ↔ ∀ m ∈ ms, m.IsReadable := by
  induction ms generalizing next with
  | nil => simp [numberFrom]
  | cons m ms ih =>
    rw [List.forall_mem_cons, EnumMember.isReadable_iff m next]
    constructor
    · rintro ⟨values, h⟩
      obtain ⟨value, rest, hnumber, hrest, _⟩ := numberFrom_cons_eq_ok.mp h
      exact ⟨⟨value, hnumber⟩, ih.mp ⟨rest, hrest⟩⟩
    · rintro ⟨⟨value, hnumber⟩, hrest⟩
      obtain ⟨rest, hrest⟩ := ih.mpr hrest
      exact ⟨value :: rest, numberFrom_cons_eq_ok.mpr ⟨value, rest, hnumber, hrest, rfl⟩⟩

theorem isFirstFault_cons : IsFirstFault (m :: ms) fault ↔
    (∃ text, m.value = some text ∧ readInteger text = .error fault) ∨
      m.IsReadable ∧ IsFirstFault ms fault := by
  constructor
  · rintro ⟨before, m', after, text, hsplit, hbefore, hvalue, hread⟩
    cases before with
    | nil =>
      obtain ⟨rfl, rfl⟩ := List.cons.inj hsplit
      exact .inl ⟨text, hvalue, hread⟩
    | cons b before =>
      obtain ⟨rfl, rfl⟩ := List.cons.inj hsplit
      obtain ⟨hfirst, hrest⟩ := List.forall_mem_cons.mp hbefore
      exact .inr ⟨hfirst, before, m', after, text, rfl, hrest, hvalue, hread⟩
  · rintro (⟨text, hvalue, hread⟩ | ⟨hfirst, before, m', after, text, rfl, hbefore, hfault⟩)
    · exact ⟨[], m, ms, text, rfl, by simp, hvalue, hread⟩
    · exact ⟨m :: before, m', after, text, rfl, List.forall_mem_cons.mpr ⟨hfirst, hbefore⟩, hfault⟩

/-- Numbering reports the first fault, whatever stands before it and behind it. -/
theorem numberFrom_eq_error : numberFrom next ms = .error fault ↔ IsFirstFault ms fault := by
  induction ms generalizing next with
  | nil => simp [numberFrom, IsFirstFault]
  | cons m ms ih =>
    rw [numberFrom_cons_eq_error, isFirstFault_cons, EnumMember.number_eq_error,
      EnumMember.isReadable_iff m next]
    simp only [ih, exists_and_right]

end

/-- The values of an enum are resolved if and only if every written value is an integer literal.
There is one for every member: the last value written for a member up to it, and the distance from
there, or its own place if none is written. Otherwise the fault of the first written value that is
no integer literal is reported. -/
theorem DiscreteEnum.resolvedValues_from_lastWritten (e : DiscreteEnum) :
    ((∃ values, e.resolvedValues = .ok values) ↔ ∀ m ∈ e.members, m.IsReadable) ∧
    (∀ values, e.resolvedValues = .ok values ↔ values.length = e.members.length ∧
      ∀ i number, values[i]? = some number → IsNumberFrom 0 e.members i number) ∧
    ∀ fault, e.resolvedValues = .error fault ↔ IsFirstFault e.members fault :=
  ⟨exists_numberFrom_eq_ok, fun _ => numberFrom_eq_ok, fun _ => numberFrom_eq_error⟩

/-- Members are numbered from zero, and anew behind each written value. -/
example : (DiscreteEnum.resolvedValues ⟨"Level", [⟨"A", none, []⟩, ⟨"B", none, []⟩,
    ⟨"C", some "0x10", []⟩, ⟨"D", none, []⟩, ⟨"E", some "-1", []⟩, ⟨"F", none, []⟩], []⟩).toOption =
      some [0, 1, 16, 17, -1, 0] := by
  decide +kernel

end DeclGen
