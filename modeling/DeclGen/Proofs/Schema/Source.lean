import DeclGen.Schema.Load
import DeclGen.Schema.Writer

/-!
Sources as bytes. Different sources have different bytes, and no source is an interface description:
it begins with a slash, with which no document can begin.
-/

namespace DeclGen

open Xml

private theorem toList_loop (bytes : ByteArray) (i : Nat) (before : List UInt8) :
    ByteArray.toList.loop bytes i before = before.reverse ++ bytes.data.toList.drop i := by
  fun_induction ByteArray.toList.loop bytes i before with
  | case1 i before h ih =>
    have hi : i < bytes.data.toList.length := by simpa using h
    have hget : bytes.get! i = bytes.data.toList[i] := by
      rw [Array.getElem_toList]
      exact getElem!_pos bytes.data i (by simpa using h)
    rw [ih, hget, List.reverse_cons, List.append_assoc, List.singleton_append,
      List.drop_eq_getElem_cons hi]
  | case2 i before h =>
    have hi : bytes.data.toList.length ≤ i := by simpa using h
    rw [List.drop_eq_nil_of_le hi, List.append_nil]

theorem bytes_toList (bytes : ByteArray) : bytes.toList = bytes.data.toList :=
  toList_loop bytes 0 []

/-- The bytes of texts one behind the other. -/
theorem utf8_append (s t : String) :
    (s ++ t).toUTF8.toList = s.toUTF8.toList ++ t.toUTF8.toList := by
  simp [String.toUTF8, bytes_toList]

/-- The bytes tell the text. -/
theorem utf8_injective {s t : String} (h : s.toUTF8.toList = t.toUTF8.toList) : s = t := by
  rw [bytes_toList, bytes_toList] at h
  exact String.toByteArray_inj.mp (ByteArray.ext (Array.toList_inj.mp h))

/-- A slash begins no token outside the root element. -/
theorem scanPrologToken_slash (position : Position) (rest : Input) :
    scanPrologToken (⟨.char '/' .none false, position⟩ :: rest) = .stop (.invalid position) := rfl

theorem readBody_of_slash (start : Prolog) (position : Position) (finish : Finish)
    (rest : Input) : readBody start ⟨⟨.char '/' .none false, position⟩ :: rest, finish⟩ =
      .error ⟨.invalidToken, position⟩ := rfl

/-- Bytes that begin with two slashes are no document. -/
theorem readDocument_of_slashes (rest : List UInt8) :
    readDocument .honoured (0x2F :: 0x2F :: rest) =
      .error (.malformed ⟨.invalidToken, ⟨1, 0⟩⟩) := by
  have hdetect : detect (0x2F :: 0x2F :: rest) = .found .utf8 0 := rfl
  have hslash : Symbol.ofChar .utf8 (Char.ofNat (0x2F : UInt8).toNat) =
      .char '/' .none false := by decide
  have hallowed : isAllowed (Char.ofNat (0x2F : UInt8).toNat) = true := by decide
  have hdecode : decodeUtf8 (0x2F :: 0x2F :: rest) =
      .char '/' .none false :: decodeUtf8 (0x2F :: rest) := by
    rw [decodeUtf8, if_pos (by decide), ← hslash]
    exact if_pos hallowed
  rw [readDocument, hdetect]
  simp only [readEncoded, Source.decode, Encoding.decode, hdecode, placeFrom, ↓reduceIte,
    List.drop_zero, scanPrologToken_slash, readBody_of_slash]
  rfl

/-- Bytes that begin as every source does. -/
def BeginsAsSource (bytes : List UInt8) : Prop := [0x2F, 0x2F] <+: bytes

theorem beginsAsSource_compile (schema : Schema) (generator : String) :
    BeginsAsSource (schema.compile generator).toUTF8.toList := by
  have hmarker : [0x2F, 0x2F] <+: (generatedMarker generator).toUTF8.toList := by
    have htext : "// Automatically generated by " = "//" ++ " Automatically generated by " := by
      decide
    have hslashes : "//".toUTF8.toList = [0x2F, 0x2F] := by
      rw [bytes_toList]
      rfl
    unfold generatedMarker
    rw [htext, String.append_assoc, String.append_assoc, utf8_append, hslashes]
    exact List.prefix_append _ _
  have hlines : "\n".intercalate (sourceLines schema.declarations generator) =
      generatedMarker generator ++ "\n" ++
        "\n".intercalate (lintDirective :: printedLines schema.declarations) :=
    String.intercalate_cons_cons
  rw [Schema.compile, sourceText, hlines, utf8_append, utf8_append, utf8_append, List.append_assoc,
    List.append_assoc]
  exact hmarker.trans (List.prefix_append _ _)

/-- No source is read as an interface description. -/
theorem BeginsAsSource.ofBytes_eq {bytes : List UInt8} (h : BeginsAsSource bytes) :
    Schema.ofBytes bytes = .error (.schema (.malformed ⟨.invalidToken, ⟨1, 0⟩⟩)) := by
  obtain ⟨rest, rfl⟩ := h
  rw [Schema.ofBytes, List.cons_append, List.cons_append, List.nil_append, readDocument_of_slashes]
  rfl

end DeclGen
