import DeclGen.Xml.CodePage
import DeclGen.Xml.Symbol

/-!
Encodings of documents. The first bytes choose between one-byte and two-byte units; a declared name
may then choose among the encodings of the same width, or a code page.
-/

namespace DeclGen.Xml

inductive Encoding where
  | utf8
  | utf16 (bigEndian : Bool)
  | latin1
  | ascii
  | page (table : CodePage)
  deriving DecidableEq, Repr

def isTail (b : UInt8) : Bool := 0x80 ≤ b && b < 0xC0

def tailBits (b : UInt8) : Nat := b.toNat % 64

/-- Symbols of a document in UTF-8. They end with the first one that is no character. -/
def decodeUtf8 : List UInt8 → List Symbol
  | [] => []
  | a :: rest =>
    if a < 0x80 then
      let c := Char.ofNat a.toNat
      if isAllowed c then Symbol.ofChar .utf8 c :: decodeUtf8 rest else [.invalid false]
    else if 0xC0 ≤ a && a < 0xE0 then
      match rest with
      | b :: rest =>
        if 0xC2 ≤ a && isTail b then
          Symbol.ofChar .utf8 (Char.ofNat (a.toNat % 32 * 64 + tailBits b)) ::
            decodeUtf8 rest
        else [.invalid true]
      | [] => [.cut]
    else if 0xE0 ≤ a && a < 0xF0 then
      match rest with
      | b :: c :: rest =>
        let code := (a.toNat % 16 * 64 + tailBits b) * 64 + tailBits c
        if isTail b && isTail c && 0x800 ≤ code && !(0xD800 ≤ code && code < 0xE000) &&
            code < 0xFFFE then
          Symbol.ofChar .utf8 (Char.ofNat code) :: decodeUtf8 rest
        else [.invalid true]
      | _ => [.cut]
    else if 0xF0 ≤ a && a < 0xF5 then
      match rest with
      | b :: c :: d :: rest =>
        let code := ((a.toNat % 8 * 64 + tailBits b) * 64 + tailBits c) * 64 + tailBits d
        if isTail b && isTail c && isTail d && 0x10000 ≤ code && code < 0x110000 then
          Symbol.ofChar .utf8 (Char.ofNat code) :: decodeUtf8 rest
        else [.invalid true]
      | _ => [.cut]
    else [.invalid false]

/-- The two-byte units of a document. Half a unit at its end is none. -/
def units (bigEndian : Bool) : List UInt8 → List Nat
  | a :: b :: rest =>
    (if bigEndian then a.toNat * 256 + b.toNat else b.toNat * 256 + a.toNat) ::
      units bigEndian rest
  | _ => []

/-- Symbols of two-byte units. A leading surrogate takes the unit behind it, whatever that is. -/
def decodeUnits : List Nat → List Symbol
  | [] => []
  | u :: rest =>
    if 0xD800 ≤ u && u < 0xDC00 then
      match rest with
      | v :: rest =>
        let code := 0x10000 + u % 1024 * 1024 + v % 1024
        Symbol.ofChar .twoByte (Char.ofNat code) :: decodeUnits rest
      | [] => [.cut]
    else if 0xDC00 ≤ u && u < 0xE000 then [.invalid false]
    else Symbol.ofChar .twoByte (Char.ofNat u) :: decodeUnits rest

def CodePage.symbol (table : CodePage) (b : UInt8) : Symbol :=
  match (table.lookup b.toNat).getD (some b.toNat) with
  | some code => Symbol.ofChar .oneByte (Char.ofNat code)
  | none => .invalid false

namespace Encoding

/-- The number of bytes in a unit. -/
def width : Encoding → Nat
  | utf16 _ => 2
  | _ => 1

def decode : Encoding → List UInt8 → List Symbol
  | utf8, bytes => decodeUtf8 bytes
  | utf16 bigEndian, bytes => decodeUnits (units bigEndian bytes)
  | latin1, bytes => bytes.map fun b => Symbol.ofChar .latin (Char.ofNat b.toNat)
  | ascii, bytes => bytes.map fun b =>
    if b < 0x80 then Symbol.ofChar .oneByte (Char.ofNat b.toNat) else .invalid false
  | page table, bytes => bytes.map (CodePage.symbol table)

/-- Half a unit is left at the end of a document. -/
def isTorn (e : Encoding) (bytes : List UInt8) : Bool := bytes.length % e.width != 0

end Encoding

inductive Detection where
  /-- Too few bytes to tell. -/
  | undecided
  /-- An encoding, and the number of bytes of the byte order mark. -/
  | found (encoding : Encoding) (mark : Nat)
  deriving DecidableEq, Repr

def detect : List UInt8 → Detection
  | [] => .found .utf8 0
  | [a] => if [0x00, 0x3C, 0xEF, 0xFE, 0xFF].contains a then .undecided else .found .utf8 0
  | a :: b :: rest =>
    if a = 0xFE ∧ b = 0xFF then .found (.utf16 true) 2
    else if a = 0xFF ∧ b = 0xFE then .found (.utf16 false) 2
    else if a = 0xEF ∧ b = 0xBB then
      match rest with
      | [] => .undecided
      | c :: _ => .found .utf8 (if c = 0xBF then 3 else 0)
    else if a = 0 then .found (.utf16 true) 0
    else if b = 0 then .found (.utf16 false) 0
    else .found .utf8 0

/-- What a declared name of an encoding stands for. -/
inductive NamedEncoding where
  | native (encoding : Encoding)
  | page (encoding : Encoding)
  /-- A code page that markup cannot be read in. -/
  | unfit
  | multiByte
  | refusing (encoding : RefusingEncoding)
  | unknown
  deriving DecidableEq, Repr

/-- A name in lower case, with one underscore for each run of other characters than letters,
digits and periods. -/
def plainName (name : String) : String :=
  let folded := name.toList.map fun c => if c.isAlphanum || c == '.' then c.toLower else '_'
  let parts := (folded.splitOn '_').filter (· ≠ [])
  "_".intercalate (parts.map String.ofList)

/-- The encoding of a name that chooses no encoding of its own right. -/
def NamedEncoding.registered (name : String) : NamedEncoding :=
  let plain := plainName name
  if sevenBitNames.has plain then .page .ascii
  else
    match namedPages.find? (·.names.has plain) with
    | some named => .page (.page named.page)
    | none =>
      if unfitNames.has plain then .unfit
      else if multiByteNames.has plain then .multiByte
      else
        match RefusingEncoding.ofName? plain with
        | some encoding => .refusing encoding
        | none => .unknown

/-- The encoding of a declared name in a document that is read with the encoding `current`. -/
def NamedEncoding.ofName (current : Encoding) (name : String) : NamedEncoding :=
  let upper := name.toUpper
  if upper = "UTF-16" then .native (if current.width = 2 then current else .utf16 true)
  else if upper = "UTF-16BE" then .native (.utf16 true)
  else if upper = "UTF-16LE" then .native (.utf16 false)
  else if upper = "UTF-8" then .native .utf8
  else if upper = "ISO-8859-1" then .native .latin1
  else if upper = "US-ASCII" then .native .ascii
  else registered name

end DeclGen.Xml
