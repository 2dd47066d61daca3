/-!
Code pages: encodings in which a byte stands for one character at most, whatever is around it. They
are chosen by a declared name, like the encodings below that cannot be read in this way.
-/

namespace DeclGen.Xml

/-- A code page lists the bytes that do not stand for the character of their own number; a byte
without a character has none. -/
abbrev CodePage := List (Nat × Option Nat)

/-- The code page in which the bytes from `first` on stand for the given characters, and for none
where a question mark is given. -/
def CodePage.above (first : Nat) (characters : String) : CodePage :=
  (characters.toList.zipIdx first).map fun (c, byte) =>
    (byte, if c = '?' then none else some c.toNat)

/-- The names of an encoding. The periods of a name are taken for underscores in an alias only. -/
structure EncodingNames where
  main : List String
  aliases : List String
  deriving DecidableEq, Repr

def EncodingNames.has (names : EncodingNames) (name : String) : Bool :=
  let undotted := String.ofList (name.toList.map fun c => if c = '.' then '_' else c)
  names.main.contains name || names.aliases.contains name || names.aliases.contains undotted

/-- Encodings in which only the bytes below 0x80 stand for a character of their own. -/
def sevenBitNames : EncodingNames :=
  ⟨["ascii", "iso2022_jp", "iso2022_jp_1", "iso2022_jp_2", "iso2022_jp_2004", "iso2022_jp_3",
  "iso2022_jp_ext", "utf_8", "utf_8_sig"], ["ansi_x3.4_1968", "ansi_x3.4_1986", "ansi_x3_4_1968",
  "cp367", "cp65001", "csascii", "csiso2022jp", "ibm367", "iso2022jp", "iso2022jp_1", "iso2022jp_2",
  "iso2022jp_2004", "iso2022jp_3", "iso2022jp_ext", "iso646_us", "iso_2022_jp", "iso_2022_jp_1",
  "iso_2022_jp_2", "iso_2022_jp_2004", "iso_2022_jp_3", "iso_2022_jp_ext", "iso_646.irv_1991",
  "iso_ir_6", "u8", "us", "us_ascii", "utf", "utf8", "utf8_ucs2", "utf8_ucs4"]⟩

/-- A code page and its names. -/
structure NamedPage where
  names : EncodingNames
  page : CodePage
  deriving DecidableEq, Repr

def namedPages : List NamedPage := [
  ⟨⟨["charmap", "latin_1", "raw_unicode_escape", "unicode_escape"], ["cp819", "csisolatin1",
    "ibm819", "iso8859", "iso8859_1", "iso_8859_1", "iso_8859_1_1987", "iso_ir_100", "l1", "latin",
    "latin1"]⟩, []⟩,
  ⟨⟨["cp437"], ["cspc8codepage437", "ibm437"]⟩,
    .above 0x80 ("ÇüéâäàåçêëèïîìÄÅÉæÆôöòûùÿÖÜ¢£¥₧ƒáíóúñÑªº¿⌐¬½¼¡«»░▒▓│┤╡╢╖╕╣║╗╝╜╛┐└┴┬├─┼╞╟╚╔╩╦╠═" ++
      "╬╧╨╤╥╙╘╒╓╫╪┘┌█▄▌▐▀αßΓπΣσµτΦΘΩδ∞φε∩≡±≥≤⌠⌡÷≈°∙·√ⁿ²■\u00a0")⟩,
  ⟨⟨["cp720"], []⟩,
    .above 0x80 ("\u0080\u0081éâ\u0084à\u0086çêëèïî\u008d\u008e\u008f\u0090\u0651\u0652ô¤\u0640û" ++
      "ù\u0621\u0622\u0623\u0624£\u0625\u0626\u0627\u0628\u0629\u062a\u062b\u062c\u062d\u062e" ++
      "\u062f\u0630\u0631\u0632\u0633\u0634\u0635«»░▒▓│┤╡╢╖╕╣║╗╝╜╛┐└┴┬├─┼╞╟╚╔╩╦╠═╬╧╨╤╥╙╘╒╓╫╪┘┌█▄" ++
      "▌▐▀\u0636\u0637\u0638\u0639\u063a\u0641µ\u0642\u0643\u0644\u0645\u0646\u0647\u0648\u0649" ++
      "\u064a≡\u064b\u064c\u064d\u064e\u064f\u0650≈°∙·√ⁿ²■\u00a0")⟩,
  ⟨⟨["cp737"], []⟩,
    .above 0x80 ("ΑΒΓΔΕΖΗΘΙΚΛΜΝΞΟΠΡΣΤΥΦΧΨΩαβγδεζηθικλμνξοπρσςτυφχψ░▒▓│┤╡╢╖╕╣║╗╝╜╛┐└┴┬├─┼╞╟╚╔╩╦╠═" ++
      "╬╧╨╤╥╙╘╒╓╫╪┘┌█▄▌▐▀ωάέήϊίόύϋώΆΈΉΊΌΎΏ±≥≤ΪΫ÷≈°∙·√ⁿ²■\u00a0")⟩,
  ⟨⟨["cp775"], ["cspc775baltic", "ibm775"]⟩,
    .above 0x80 ("ĆüéāäģåćłēŖŗīŹÄÅÉæÆōöĢ¢ŚśÖÜø£Ø×¤ĀĪóŻżź”¦©®¬½¼Ł«»░▒▓│┤ĄČĘĖ╣║╗╝ĮŠ┐└┴┬├─┼ŲŪ╚╔╩╦╠═" ++
      "╬Žąčęėįšųūž┘┌█▄▌▐▀ÓßŌŃõÕµńĶķĻļņĒŅ’\u00ad±“¾¶§÷„°∙·¹³²■\u00a0")⟩,
  ⟨⟨["cp850"], ["cspc850multilingual", "ibm850"]⟩,
    .above 0x80 ("ÇüéâäàåçêëèïîìÄÅÉæÆôöòûùÿÖÜø£Ø×ƒáíóúñÑªº¿®¬½¼¡«»░▒▓│┤ÁÂÀ©╣║╗╝¢¥┐└┴┬├─┼ãÃ╚╔╩╦╠═" ++
      "╬¤ðÐÊËÈıÍÎÏ┘┌█▄¦Ì▀ÓßÔÒõÕµþÞÚÛÙýÝ¯´\u00ad±‗¾¶§÷¸°¨·¹³²■\u00a0")⟩,
  ⟨⟨["cp852"], ["cspcp852", "ibm852"]⟩,
    .above 0x80 ("ÇüéâäůćçłëŐőîŹÄĆÉĹĺôöĽľŚśÖÜŤťŁ×čáíóúĄąŽžĘę¬źČş«»░▒▓│┤ÁÂĚŞ╣║╗╝Żż┐└┴┬├─┼Ăă╚╔╩╦╠═" ++
      "╬¤đĐĎËďŇÍÎě┘┌█▄ŢŮ▀ÓßÔŃńňŠšŔÚŕŰýÝţ´\u00ad˝˛ˇ˘§÷¸°¨˙űŘř■\u00a0")⟩,
  ⟨⟨["cp855"], ["csibm855", "ibm855"]⟩,
    .above 0x80 ("ђЂѓЃёЁєЄѕЅіІїЇјЈљЉњЊћЋќЌўЎџЏюЮъЪаАбБцЦдДеЕфФгГ«»░▒▓│┤хХиИ╣║╗╝йЙ┐└┴┬├─┼кК╚╔╩╦╠═" ++
      "╬¤лЛмМнНоОп┘┌█▄Пя▀ЯрРсСтТуУжЖвВьЬ№\u00adыЫзЗшШэЭщЩчЧ§■\u00a0")⟩,
  ⟨⟨["cp856"], []⟩,
    .above 0x80 ("\u05d0\u05d1\u05d2\u05d3\u05d4\u05d5\u05d6\u05d7\u05d8\u05d9\u05da\u05db\u05dc" ++
      "\u05dd\u05de\u05df\u05e0\u05e1\u05e2\u05e3\u05e4\u05e5\u05e6\u05e7\u05e8\u05e9\u05ea?£?×?" ++
      "?????????®¬½¼?«»░▒▓│┤???©╣║╗╝¢¥┐└┴┬├─┼??╚╔╩╦╠═╬¤?????????┘┌█▄¦?▀??????µ???????¯´\u00ad±‗¾" ++
      "¶§÷¸°¨·¹³²■\u00a0")⟩,
  ⟨⟨["cp857"], ["csibm857", "ibm857"]⟩,
    .above 0x80 ("ÇüéâäàåçêëèïîıÄÅÉæÆôöòûùİÖÜø£ØŞşáíóúñÑĞğ¿®¬½¼¡«»░▒▓│┤ÁÂÀ©╣║╗╝¢¥┐└┴┬├─┼ãÃ╚╔╩╦╠═" ++
      "╬¤ºªÊËÈ?ÍÎÏ┘┌█▄¦Ì▀ÓßÔÒõÕµ?×ÚÛÙìÿ¯´\u00ad±?¾¶§÷¸°¨·¹³²■\u00a0")⟩,
  ⟨⟨["cp858"], ["csibm858", "ibm858"]⟩,
    .above 0x80 ("ÇüéâäàåçêëèïîìÄÅÉæÆôöòûùÿÖÜø£Ø×ƒáíóúñÑªº¿®¬½¼¡«»░▒▓│┤ÁÂÀ©╣║╗╝¢¥┐└┴┬├─┼ãÃ╚╔╩╦╠═" ++
      "╬¤ðÐÊËÈ€ÍÎÏ┘┌█▄¦Ì▀ÓßÔÒõÕµþÞÚÛÙýÝ¯´\u00ad±‗¾¶§÷¸°¨·¹³²■\u00a0")⟩,
  ⟨⟨["cp860"], ["csibm860", "ibm860"]⟩,
    .above 0x80 ("ÇüéâãàÁçêÊèÍÔìÃÂÉÀÈôõòÚùÌÕÜ¢£Ù₧ÓáíóúñÑªº¿Ò¬½¼¡«»░▒▓│┤╡╢╖╕╣║╗╝╜╛┐└┴┬├─┼╞╟╚╔╩╦╠═" ++
      "╬╧╨╤╥╙╘╒╓╫╪┘┌█▄▌▐▀αßΓπΣσµτΦΘΩδ∞φε∩≡±≥≤⌠⌡÷≈°∙·√ⁿ²■\u00a0")⟩,
  ⟨⟨["cp861"], ["cp_is", "csibm861", "ibm861"]⟩,
    .above 0x80 ("ÇüéâäàåçêëèÐðÞÄÅÉæÆôöþûÝýÖÜø£Ø₧ƒáíóúÁÍÓÚ¿⌐¬½¼¡«»░▒▓│┤╡╢╖╕╣║╗╝╜╛┐└┴┬├─┼╞╟╚╔╩╦╠═" ++
      "╬╧╨╤╥╙╘╒╓╫╪┘┌█▄▌▐▀αßΓπΣσµτΦΘΩδ∞φε∩≡±≥≤⌠⌡÷≈°∙·√ⁿ²■\u00a0")⟩,
  ⟨⟨["cp862"], ["cspc862latinhebrew", "ibm862"]⟩,
    .above 0x80 ("\u05d0\u05d1\u05d2\u05d3\u05d4\u05d5\u05d6\u05d7\u05d8\u05d9\u05da\u05db\u05dc" ++
      "\u05dd\u05de\u05df\u05e0\u05e1\u05e2\u05e3\u05e4\u05e5\u05e6\u05e7\u05e8\u05e9\u05ea¢£¥₧ƒ" ++
      "áíóúñÑªº¿⌐¬½¼¡«»░▒▓│┤╡╢╖╕╣║╗╝╜╛┐└┴┬├─┼╞╟╚╔╩╦╠═╬╧╨╤╥╙╘╒╓╫╪┘┌█▄▌▐▀αßΓπΣσµτΦΘΩδ∞φε∩≡±≥≤⌠⌡÷≈°" ++
      "∙·√ⁿ²■\u00a0")⟩,
  ⟨⟨["cp863"], ["csibm863", "ibm863"]⟩,
    .above 0x80 ("ÇüéâÂà¶çêëèïî‗À§ÉÈÊôËÏûù¤ÔÜ¢£ÙÛƒ¦´óú¨¸³¯Î⌐¬½¼¾«»░▒▓│┤╡╢╖╕╣║╗╝╜╛┐└┴┬├─┼╞╟╚╔╩╦╠═" ++
      "╬╧╨╤╥╙╘╒╓╫╪┘┌█▄▌▐▀αßΓπΣσµτΦΘΩδ∞φε∩≡±≥≤⌠⌡÷≈°∙·√ⁿ²■\u00a0")⟩,
  ⟨⟨["cp865"], ["csibm865", "ibm865"]⟩,
    .above 0x80 ("ÇüéâäàåçêëèïîìÄÅÉæÆôöòûùÿÖÜø£Ø₧ƒáíóúñÑªº¿⌐¬½¼¡«¤░▒▓│┤╡╢╖╕╣║╗╝╜╛┐└┴┬├─┼╞╟╚╔╩╦╠═" ++
      "╬╧╨╤╥╙╘╒╓╫╪┘┌█▄▌▐▀αßΓπΣσµτΦΘΩδ∞φε∩≡±≥≤⌠⌡÷≈°∙·√ⁿ²■\u00a0")⟩,
  ⟨⟨["cp866"], ["csibm866", "ibm866"]⟩,
    .above 0x80 ("АБВГДЕЖЗИЙКЛМНОПРСТУФХЦЧШЩЪЫЬЭЮЯабвгдежзийклмноп░▒▓│┤╡╢╖╕╣║╗╝╜╛┐└┴┬├─┼╞╟╚╔╩╦╠═" ++
      "╬╧╨╤╥╙╘╒╓╫╪┘┌█▄▌▐▀рстуфхцчшщъыьэюяЁёЄєЇїЎў°∙·√№¤■\u00a0")⟩,
  ⟨⟨["cp869"], ["cp_gr", "csibm869", "ibm869"]⟩,
    .above 0x80 ("??????Ά?·¬¦‘’Έ―ΉΊΪΌ??ΎΫ©Ώ²³ά£έήίϊΐόύΑΒΓΔΕΖΗ½ΘΙ«»░▒▓│┤ΚΛΜΝ╣║╗╝ΞΟ┐└┴┬├─┼ΠΡ╚╔╩╦╠═" ++
      "╬ΣΤΥΦΧΨΩαβγ┘┌█▄δε▀ζηθικλμνξοπρσςτ΄\u00ad±υφχ§ψ΅°¨ωϋΰώ■\u00a0")⟩,
  ⟨⟨["cp874"], []⟩,
    .above 0x80 ("€????…???????????‘’“”•–—????????\u00a0กขฃคฅฆงจฉชซฌญฎฏฐฑฒณดตถทธนบปผฝพฟภมยรฤลฦวศ" ++
      "ษสหฬอฮฯะ\u0e31าำ\u0e34\u0e35\u0e36\u0e37\u0e38\u0e39\u0e3a????฿เแโใไๅๆ\u0e47\u0e48\u0e49" ++
      "\u0e4a\u0e4b\u0e4c\u0e4d\u0e4e๏๐๑๒๓๔๕๖๗๘๙๚๛????")⟩,
  ⟨⟨["cp1006"], []⟩,
    .above 0xA0 ("\u00a0۰۱۲۳۴۵۶۷۸۹،\u061b\u00ad\u061f\ufe81\ufe8d\ufe8e\ufe8e\ufe8f\ufe91\ufb56" ++
      "\ufb58\ufe93\ufe95\ufe97\ufb66\ufb68\ufe99\ufe9b\ufe9d\ufe9f\ufb7a\ufb7c\ufea1\ufea3" ++
      "\ufea5\ufea7\ufea9\ufb84\ufeab\ufead\ufb8c\ufeaf\ufb8a\ufeb1\ufeb3\ufeb5\ufeb7\ufeb9" ++
      "\ufebb\ufebd\ufebf\ufec1\ufec5\ufec9\ufeca\ufecb\ufecc\ufecd\ufece\ufecf\ufed0\ufed1" ++
      "\ufed3\ufed5\ufed7\ufed9\ufedb\ufb92\ufb94\ufedd\ufedf\ufee0\ufee1\ufee3\ufb9e\ufee5" ++
      "\ufee7\ufe85\ufeed\ufba6\ufba8\ufba9\ufbaa\ufe80\ufe89\ufe8a\ufe8b\ufef1\ufef2\ufef3" ++
      "\ufbb0\ufbae\ufe7c\ufe7d")⟩,
  ⟨⟨["cp1125"], ["cp866u", "ibm1125", "ruscii"]⟩,
    .above 0x80 ("АБВГДЕЖЗИЙКЛМНОПРСТУФХЦЧШЩЪЫЬЭЮЯабвгдежзийклмноп░▒▓│┤╡╢╖╕╣║╗╝╜╛┐└┴┬├─┼╞╟╚╔╩╦╠═" ++
      "╬╧╨╤╥╙╘╒╓╫╪┘┌█▄▌▐▀рстуфхцчшщъыьэюяЁёҐґЄєІіЇї·√№¤■\u00a0")⟩,
  ⟨⟨["cp1250"], ["windows_1250"]⟩,
    .above 0x80 ("€?‚?„…†‡?‰Š‹ŚŤŽŹ?‘’“”•–—?™š›śťžź\u00a0ˇ˘Ł¤Ą¦§¨©Ş«¬\u00ad®Ż°±˛ł´µ¶·¸ąş»Ľ˝ľżŔÁÂĂ" ++
      "ÄĹĆÇČÉĘËĚÍÎĎĐŃŇÓÔŐÖ×ŘŮÚŰÜÝŢßŕáâăäĺćçčéęëěíîďđńňóôőö÷řůúűüýţ˙")⟩,
  ⟨⟨["cp1251"], ["windows_1251"]⟩,
    .above 0x80 ("ЂЃ‚ѓ„…†‡€‰Љ‹ЊЌЋЏђ‘’“”•–—?™љ›њќћџ\u00a0ЎўЈ¤Ґ¦§Ё©Є«¬\u00ad®Ї°±Ііґµ¶·ё№є»јЅѕїАБВГ" ++
      "ДЕЖЗИЙКЛМНОПРСТУФХЦЧШЩЪЫЬЭЮЯабвгдежзийклмнопрстуфхцчшщъыьэюя")⟩,
  ⟨⟨["cp1252"], ["windows_1252"]⟩,
    .above 0x80 "€?‚ƒ„…†‡ˆ‰Š‹Œ?Ž??‘’“”•–—˜™š›œ?žŸ"⟩,
  ⟨⟨["cp1253"], ["windows_1253"]⟩,
    .above 0x80 ("€?‚ƒ„…†‡?‰?‹?????‘’“”•–—?™?›????\u00a0΅Ά£¤¥¦§¨©?«¬\u00ad®―°±²³΄µ¶·ΈΉΊ»Ό½ΎΏΐΑΒΓ" ++
      "ΔΕΖΗΘΙΚΛΜΝΞΟΠΡ?ΣΤΥΦΧΨΩΪΫάέήίΰαβγδεζηθικλμνξοπρςστυφχψωϊϋόύώ?")⟩,
  ⟨⟨["cp1254"], ["windows_1254"]⟩,
    .above 0x80 ("€?‚ƒ„…†‡ˆ‰Š‹Œ????‘’“”•–—˜™š›œ??Ÿ\u00a0¡¢£¤¥¦§¨©ª«¬\u00ad®¯°±²³´µ¶·¸¹º»¼½¾¿ÀÁÂÃ" ++
      "ÄÅÆÇÈÉÊËÌÍÎÏĞÑÒÓÔÕÖ×ØÙÚÛÜİŞßàáâãäåæçèéêëìíîïğñòóôõö÷øùúûüış")⟩,
  ⟨⟨["cp1255"], ["windows_1255"]⟩,
    .above 0x80 ("€?‚ƒ„…†‡ˆ‰?‹?????‘’“”•–—˜™?›????\u00a0¡¢£₪¥¦§¨©×«¬\u00ad®¯°±²³´µ¶·¸¹÷»¼½¾¿" ++
      "\u05b0\u05b1\u05b2\u05b3\u05b4\u05b5\u05b6\u05b7\u05b8\u05b9?\u05bb\u05bc\u05bd\u05be" ++
      "\u05bf\u05c0\u05c1\u05c2\u05c3\u05f0\u05f1\u05f2\u05f3\u05f4???????\u05d0\u05d1\u05d2" ++
      "\u05d3\u05d4\u05d5\u05d6\u05d7\u05d8\u05d9\u05da\u05db\u05dc\u05dd\u05de\u05df\u05e0" ++
      "\u05e1\u05e2\u05e3\u05e4\u05e5\u05e6\u05e7\u05e8\u05e9\u05ea??\u200e\u200f?")⟩,
  ⟨⟨["cp1256"], ["windows_1256"]⟩,
    .above 0x80 ("€\u067e‚ƒ„…†‡ˆ‰\u0679‹Œ\u0686\u0698\u0688\u06af‘’“”•–—\u06a9™\u0691›œ\u200c" ++
      "\u200d\u06ba\u00a0،¢£¤¥¦§¨©\u06be«¬\u00ad®¯°±²³´µ¶·¸¹\u061b»¼½¾\u061f\u06c1\u0621\u0622" ++
      "\u0623\u0624\u0625\u0626\u0627\u0628\u0629\u062a\u062b\u062c\u062d\u062e\u062f\u0630" ++
      "\u0631\u0632\u0633\u0634\u0635\u0636×\u0637\u0638\u0639\u063a\u0640\u0641\u0642\u0643à" ++
      "\u0644â\u0645\u0646\u0647\u0648çèéêë\u0649\u064aîï\u064b\u064c\u064d\u064eô\u064f\u0650÷" ++
      "\u0651ù\u0652ûü\u200e\u200f\u06d2")⟩,
  ⟨⟨["cp1257"], ["windows_1257"]⟩,
    .above 0x80 ("€?‚?„…†‡?‰?‹?¨ˇ¸?‘’“”•–—?™?›?¯˛?\u00a0?¢£¤?¦§Ø©Ŗ«¬\u00ad®Æ°±²³´µ¶·ø¹ŗ»¼½¾æĄĮĀĆ" ++
      "ÄÅĘĒČÉŹĖĢĶĪĻŠŃŅÓŌÕÖ×ŲŁŚŪÜŻŽßąįāćäåęēčéźėģķīļšńņóōõö÷ųłśūüżž˙")⟩,
  ⟨⟨["cp1258"], ["windows_1258"]⟩,
    .above 0x80 ("€?‚ƒ„…†‡ˆ‰?‹Œ????‘’“”•–—˜™?›œ??Ÿ\u00a0¡¢£¤¥¦§¨©ª«¬\u00ad®¯°±²³´µ¶·¸¹º»¼½¾¿ÀÁÂĂ" ++
      "ÄÅÆÇÈÉÊË\u0300ÍÎÏĐÑ\u0309ÓÔƠÖ×ØÙÚÛÜƯ\u0303ßàáâăäåæçèéêë\u0301íîïđñ\u0323óôơö÷øùúûüư₫")⟩,
  ⟨⟨["hp_roman8"], ["cp1051", "ibm1051", "r8", "roman8"]⟩,
    .above 0xA0 ("\u00a0ÀÂÈÊËÎÏ´ˋˆ¨˜ÙÛ₤¯Ýý°ÇçÑñ¡¿¤£¥§ƒ¢âêôûáéóúàèòùäëöüÅîØÆåíøæÄìÖÜÉïßÔÁÃãÐðÍÌÓÒ" ++
      "ÕõŠšÚŸÿÞþ·µ¶¾—¼½ªº«■»±?")⟩,
  ⟨⟨["hz"], ["hz_gb", "hz_gb_2312", "hzgb"]⟩,
    (0x7E, none) :: CodePage.above 0x80 (String.ofList (List.replicate 128 '?'))⟩,
  ⟨⟨["iso8859_2"], ["csisolatin2", "iso_8859_2", "iso_8859_2_1987", "iso_ir_101", "l2", "latin2"]⟩,
    .above 0xA0 ("\u00a0Ą˘Ł¤ĽŚ§¨ŠŞŤŹ\u00adŽŻ°ą˛ł´ľśˇ¸šşťź˝žżŔÁÂĂÄĹĆÇČÉĘËĚÍÎĎĐŃŇÓÔŐÖ×ŘŮÚŰÜÝŢßŕáâă" ++
      "äĺćçčéęëěíîďđńňóôőö÷řůúűüýţ˙")⟩,
  ⟨⟨["iso8859_3"], ["csisolatin3", "iso_8859_3", "iso_8859_3_1988", "iso_ir_109", "l3", "latin3"]⟩,
    .above 0xA0 ("\u00a0Ħ˘£¤?Ĥ§¨İŞĞĴ\u00ad?Ż°ħ²³´µĥ·¸ışğĵ½?żÀÁÂ?ÄĊĈÇÈÉÊËÌÍÎÏ?ÑÒÓÔĠÖ×ĜÙÚÛÜŬŜßàáâ?" ++
      "äċĉçèéêëìíîï?ñòóôġö÷ĝùúûüŭŝ˙")⟩,
  ⟨⟨["iso8859_4"], ["csisolatin4", "iso_8859_4", "iso_8859_4_1988", "iso_ir_110", "l4", "latin4"]⟩,
    .above 0xA0 ("\u00a0ĄĸŖ¤ĨĻ§¨ŠĒĢŦ\u00adŽ¯°ą˛ŗ´ĩļˇ¸šēģŧŊžŋĀÁÂÃÄÅÆĮČÉĘËĖÍÎĪĐŅŌĶÔÕÖ×ØŲÚÛÜŨŪßāáâã" ++
      "äåæįčéęëėíîīđņōķôõö÷øųúûüũū˙")⟩,
  ⟨⟨["iso8859_5"], ["csisolatincyrillic", "cyrillic", "iso_8859_5", "iso_8859_5_1988",
    "iso_ir_144"]⟩,
    .above 0xA0 ("\u00a0ЁЂЃЄЅІЇЈЉЊЋЌ\u00adЎЏАБВГДЕЖЗИЙКЛМНОПРСТУФХЦЧШЩЪЫЬЭЮЯабвгдежзийклмнопрсту" ++
      "фхцчшщъыьэюя№ёђѓєѕіїјљњћќ§ўџ")⟩,
  ⟨⟨["iso8859_6"], ["arabic", "asmo_708", "csisolatinarabic", "ecma_114", "iso_8859_6",
    "iso_8859_6_1987", "iso_ir_127"]⟩,
    .above 0xA0 ("\u00a0???¤???????،\u00ad?????????????\u061b???\u061f?\u0621\u0622\u0623\u0624" ++
      "\u0625\u0626\u0627\u0628\u0629\u062a\u062b\u062c\u062d\u062e\u062f\u0630\u0631\u0632" ++
      "\u0633\u0634\u0635\u0636\u0637\u0638\u0639\u063a?????\u0640\u0641\u0642\u0643\u0644\u0645" ++
      "\u0646\u0647\u0648\u0649\u064a\u064b\u064c\u064d\u064e\u064f\u0650\u0651\u0652???????????" ++
      "??")⟩,
  ⟨⟨["iso8859_7"], ["csisolatingreek", "ecma_118", "elot_928", "greek", "greek8", "iso_8859_7",
    "iso_8859_7_1987", "iso_ir_126"]⟩,
    .above 0xA0 ("\u00a0‘’£€₯¦§¨©ͺ«¬\u00ad?―°±²³΄΅Ά·ΈΉΊ»Ό½ΎΏΐΑΒΓΔΕΖΗΘΙΚΛΜΝΞΟΠΡ?ΣΤΥΦΧΨΩΪΫάέήίΰαβγ" ++
      "δεζηθικλμνξοπρςστυφχψωϊϋόύώ?")⟩,
  ⟨⟨["iso8859_8"], ["csisolatinhebrew", "hebrew", "iso_8859_8", "iso_8859_8_1988", "iso_ir_138"]⟩,
    .above 0xA0 ("\u00a0?¢£¤¥¦§¨©×«¬\u00ad®¯°±²³´µ¶·¸¹÷»¼½¾????????????????????????????????‗" ++
      "\u05d0\u05d1\u05d2\u05d3\u05d4\u05d5\u05d6\u05d7\u05d8\u05d9\u05da\u05db\u05dc\u05dd" ++
      "\u05de\u05df\u05e0\u05e1\u05e2\u05e3\u05e4\u05e5\u05e6\u05e7\u05e8\u05e9\u05ea??\u200e" ++
      "\u200f?")⟩,
  ⟨⟨["iso8859_9"], ["csisolatin5", "iso_8859_9", "iso_8859_9_1989", "iso_ir_148", "l5", "latin5"]⟩,
    .above 0xD0 "ĞÑÒÓÔÕÖ×ØÙÚÛÜİŞßàáâãäåæçèéêëìíîïğñòóôõö÷øùúûüış"⟩,
  ⟨⟨["iso8859_10"], ["csisolatin6", "iso_8859_10", "iso_8859_10_1992", "iso_ir_157", "l6",
    "latin6"]⟩,
    .above 0xA0 ("\u00a0ĄĒĢĪĨĶ§ĻĐŠŦŽ\u00adŪŊ°ąēģīĩķ·ļđšŧž―ūŋĀÁÂÃÄÅÆĮČÉĘËĖÍÎÏÐŅŌÓÔÕÖŨØŲÚÛÜÝÞßāáâã" ++
      "äåæįčéęëėíîïðņōóôõöũøųúûüýþĸ")⟩,
  ⟨⟨["iso8859_11"], ["iso_8859_11", "iso_8859_11_2001", "thai"]⟩,
    .above 0xA0 ("\u00a0กขฃคฅฆงจฉชซฌญฎฏฐฑฒณดตถทธนบปผฝพฟภมยรฤลฦวศษสหฬอฮฯะ\u0e31าำ\u0e34\u0e35" ++
      "\u0e36\u0e37\u0e38\u0e39\u0e3a????฿เแโใไๅๆ\u0e47\u0e48\u0e49\u0e4a\u0e4b\u0e4c\u0e4d" ++
      "\u0e4e๏๐๑๒๓๔๕๖๗๘๙๚๛????")⟩,
  ⟨⟨["iso8859_13"], ["iso_8859_13", "l7", "latin7"]⟩,
    .above 0xA0 ("\u00a0”¢£¤„¦§Ø©Ŗ«¬\u00ad®Æ°±²³“µ¶·ø¹ŗ»¼½¾æĄĮĀĆÄÅĘĒČÉŹĖĢĶĪĻŠŃŅÓŌÕÖ×ŲŁŚŪÜŻŽßąįāć" ++
      "äåęēčéźėģķīļšńņóōõö÷ųłśūüżž’")⟩,
  ⟨⟨["iso8859_14"], ["iso_8859_14", "iso_8859_14_1998", "iso_celtic", "iso_ir_199", "l8",
    "latin8"]⟩,
    .above 0xA0 ("\u00a0Ḃḃ£ĊċḊ§Ẁ©ẂḋỲ\u00ad®ŸḞḟĠġṀṁ¶ṖẁṗẃṠỳẄẅṡÀÁÂÃÄÅÆÇÈÉÊËÌÍÎÏŴÑÒÓÔÕÖṪØÙÚÛÜÝŶßàáâã" ++
      "äåæçèéêëìíîïŵñòóôõöṫøùúûüýŷ")⟩,
  ⟨⟨["iso8859_15"], ["iso_8859_15", "l9", "latin9"]⟩,
    .above 0xA0 "\u00a0¡¢£€¥Š§š©ª«¬\u00ad®¯°±²³Žµ¶·ž¹º»ŒœŸ"⟩,
  ⟨⟨["iso8859_16"], ["iso_8859_16", "iso_8859_16_2001", "iso_ir_226", "l10", "latin10"]⟩,
    .above 0xA0 ("\u00a0ĄąŁ€„Š§š©Ș«Ź\u00adźŻ°±ČłŽ”¶·žčș»ŒœŸżÀÁÂĂÄĆÆÇÈÉÊËÌÍÎÏĐŃÒÓÔŐÖŚŰÙÚÛÜĘȚßàáâă" ++
      "äćæçèéêëìíîïđńòóôőöśűùúûüęț")⟩,
  ⟨⟨["koi8_r"], ["cskoi8r"]⟩,
    .above 0x80 ("─│┌┐└┘├┤┬┴┼▀▄█▌▐░▒▓⌠■∙√≈≤≥\u00a0⌡°²·÷═║╒ё╓╔╕╖╗╘╙╚╛╜╝╞╟╠╡Ё╢╣╤╥╦╧╨╩╪╫╬©юабцдефгх" ++
      "ийклмнопярстужвьызшэщчъЮАБЦДЕФГХИЙКЛМНОПЯРСТУЖВЬЫЗШЭЩЧЪ")⟩,
  ⟨⟨["koi8_t"], []⟩,
    .above 0x80 ("қғ‚Ғ„…†‡?‰ҳ‹ҲҷҶ?Қ‘’“”•–—?™?›?????ӯӮё¤ӣ¦§???«¬\u00ad®?°±²Ё?Ӣ¶·?№?»???©юабцдефгх" ++
      "ийклмнопярстужвьызшэщчъЮАБЦДЕФГХИЙКЛМНОПЯРСТУЖВЬЫЗШЭЩЧЪ")⟩,
  ⟨⟨["koi8_u"], []⟩,
    .above 0x80 ("─│┌┐└┘├┤┬┴┼▀▄█▌▐░▒▓⌠■∙√≈≤≥\u00a0⌡°²·÷═║╒ёє╔ії╗╘╙╚╛ґ╝╞╟╠╡ЁЄ╣ІЇ╦╧╨╩╪Ґ╬©юабцдефгх" ++
      "ийклмнопярстужвьызшэщчъЮАБЦДЕФГХИЙКЛМНОПЯРСТУЖВЬЫЗШЭЩЧЪ")⟩,
  ⟨⟨["kz1048"], ["kz_1048", "rk1048", "strk1048_2002"]⟩,
    .above 0x80 ("ЂЃ‚ѓ„…†‡€‰Љ‹ЊҚҺЏђ‘’“”•–—?™љ›њқһџ\u00a0ҰұӘ¤Ө¦§Ё©Ғ«¬\u00ad®Ү°±Ііөµ¶·ё№ғ»әҢңүАБВГ" ++
      "ДЕЖЗИЙКЛМНОПРСТУФХЦЧШЩЪЫЬЭЮЯабвгдежзийклмнопрстуфхцчшщъыьэюя")⟩,
  ⟨⟨["mac_croatian"], []⟩,
    .above 0x80 ("ÄÅÇÉÑÖÜáàâäãåçéèêëíìîïñóòôöõúùûü†°¢£§•¶ß®Š™´¨≠ŽØ∞±≤≥∆µ∂∑∏š∫ªºΩžø¿¡¬√ƒ≈Ć«Č…" ++
      "\u00a0ÀÃÕŒœĐ—“”‘’÷◊\uf8ff©⁄€‹›Æ»–·‚„‰ÂćÁčÈÍÎÏÌÓÔđÒÚÛÙıˆ˜¯πË˚¸Êæˇ")⟩,
  ⟨⟨["mac_cyrillic"], ["maccyrillic"]⟩,
    .above 0x80 ("АБВГДЕЖЗИЙКЛМНОПРСТУФХЦЧШЩЪЫЬЭЮЯ†°Ґ£§•¶І®©™Ђђ≠Ѓѓ∞±≤≥іµґЈЄєЇїЉљЊњјЅ¬√ƒ≈∆«»…" ++
      "\u00a0ЋћЌќѕ–—“”‘’÷„ЎўЏџ№Ёёяабвгдежзийклмнопрстуфхцчшщъыьэю€")⟩,
  ⟨⟨["mac_greek"], ["macgreek"]⟩,
    .above 0x80 ("Ä¹²É³ÖÜ΅àâä΄¨çéèêë£™îï•½‰ôö¦€ùûü†ΓΔΘΛΞΠß®©ΣΪ§≠°·Α±≤≥¥ΒΕΖΗΙΚΜΦΫΨΩάΝ¬ΟΡ≈Τ«»…" ++
      "\u00a0ΥΧΆΈœ–―“”‘’÷ΉΊΌΎέήίόΏύαβψδεφγηιξκλμνοπώρστθωςχυζϊϋΐΰ\u00ad")⟩,
  ⟨⟨["mac_iceland"], ["maciceland"]⟩,
    .above 0x80 ("ÄÅÇÉÑÖÜáàâäãåçéèêëíìîïñóòôöõúùûüÝ°¢£§•¶ß®©™´¨≠ÆØ∞±≤≥¥µ∂∑∏π∫ªºΩæø¿¡¬√ƒ≈∆«»…" ++
      "\u00a0ÀÃÕŒœ–—“”‘’÷◊ÿŸ⁄€ÐðÞþý·‚„‰ÂÊÁËÈÍÎÏÌÓÔ\uf8ffÒÚÛÙıˆ˜¯˘˙˚¸˝˛ˇ")⟩,
  ⟨⟨["mac_latin2"], ["mac_centeuro", "maccentraleurope", "maclatin2"]⟩,
    .above 0x80 ("ÄĀāÉĄÖÜáąČäčĆćéŹźĎíďĒēĖóėôöõúĚěü†°Ę£§•¶ß®©™ę¨≠ģĮįĪ≤≥īĶ∂∑łĻļĽľĹĺŅņŃ¬√ńŇ∆«»…" ++
      "\u00a0ňŐÕőŌ–—“”‘’÷◊ōŔŕŘ‹›řŖŗŠ‚„šŚśÁŤťÍŽžŪÓÔūŮÚůŰűŲųÝýķŻŁżĢˇ")⟩,
  ⟨⟨["mac_roman"], ["macintosh", "macroman"]⟩,
    .above 0x80 ("ÄÅÇÉÑÖÜáàâäãåçéèêëíìîïñóòôöõúùûü†°¢£§•¶ß®©™´¨≠ÆØ∞±≤≥¥µ∂∑∏π∫ªºΩæø¿¡¬√ƒ≈∆«»…" ++
      "\u00a0ÀÃÕŒœ–—“”‘’÷◊ÿŸ⁄€‹›ﬁﬂ‡·‚„‰ÂÊÁËÈÍÎÏÌÓÔ\uf8ffÒÚÛÙıˆ˜¯˘˙˚¸˝˛ˇ")⟩,
  ⟨⟨["mac_romanian"], []⟩,
    .above 0x80 ("ÄÅÇÉÑÖÜáàâäãåçéèêëíìîïñóòôöõúùûü†°¢£§•¶ß®©™´¨≠ĂȘ∞±≤≥¥µ∂∑∏π∫ªºΩăș¿¡¬√ƒ≈∆«»…" ++
      "\u00a0ÀÃÕŒœ–—“”‘’÷◊ÿŸ⁄€‹›Țț‡·‚„‰ÂÊÁËÈÍÎÏÌÓÔ\uf8ffÒÚÛÙıˆ˜¯˘˙˚¸˝˛ˇ")⟩,
  ⟨⟨["mac_turkish"], ["macturkish"]⟩,
    .above 0x80 ("ÄÅÇÉÑÖÜáàâäãåçéèêëíìîïñóòôöõúùûü†°¢£§•¶ß®©™´¨≠ÆØ∞±≤≥¥µ∂∑∏π∫ªºΩæø¿¡¬√ƒ≈∆«»…" ++
      "\u00a0ÀÃÕŒœ–—“”‘’÷◊ÿŸĞğİıŞş‡·‚„‰ÂÊÁËÈÍÎÏÌÓÔ\uf8ffÒÚÛÙ\uf8a0ˆ˜¯˘˙˚¸˝˛ˇ")⟩,
  ⟨⟨["palmos"], []⟩,
    .above 0x80 "€\u0081‚ƒ„…†‡ˆ‰Š‹Œ♦♣♥♠‘’“”•–—˜™š\u009bœ\u009d\u009eŸ"⟩,
  ⟨⟨["ptcp154"], ["cp154", "csptcp154", "cyrillic_asian", "pt154"]⟩,
    .above 0x80 ("ҖҒӮғ„…ҶҮҲүҠӢҢҚҺҸҗ‘’“”•–—ҳҷҡӣңқһҹ\u00a0ЎўЈӨҘҰ§Ё©Ә«¬ӯ®Ҝ°ұІіҙө¶·ё№ә»јҪҫҝАБВГДЕЖЗИ" ++
      "ЙКЛМНОПРСТУФХЦЧШЩЪЫЬЭЮЯабвгдежзийклмнопрстуфхцчшщъыьэюя")⟩,
  ⟨⟨["tis_620"], ["iso_ir_166", "tis620", "tis_620_0", "tis_620_2529_0", "tis_620_2529_1"]⟩,
    .above 0xA0 ("?กขฃคฅฆงจฉชซฌญฎฏฐฑฒณดตถทธนบปผฝพฟภมยรฤลฦวศษสหฬอฮฯะ\u0e31าำ\u0e34\u0e35\u0e36" ++
      "\u0e37\u0e38\u0e39\u0e3a????฿เแโใไๅๆ\u0e47\u0e48\u0e49\u0e4a\u0e4b\u0e4c\u0e4d\u0e4e๏๐๑๒๓" ++
      "๔๕๖๗๘๙๚๛????")⟩]

/-- Code pages that give characters of markup to other bytes than ASCII does. -/
def unfitNames : EncodingNames :=
  ⟨["cp037", "cp1026", "cp1140", "cp273", "cp424", "cp500", "cp864", "cp875", "mac_arabic",
  "mac_farsi"], ["csibm037", "csibm1026", "csibm273", "csibm424", "csibm500", "csibm864",
  "ebcdic_cp_be", "ebcdic_cp_ca", "ebcdic_cp_ch", "ebcdic_cp_he", "ebcdic_cp_nl", "ebcdic_cp_us",
  "ebcdic_cp_wt", "ibm037", "ibm039", "ibm1026", "ibm1140", "ibm273", "ibm424", "ibm500", "ibm864"]⟩

/-- Encodings in which a byte is not enough for a character, or is not taken for one when it stands
alone. -/
def multiByteNames : EncodingNames :=
  ⟨["big5", "big5hkscs", "cp932", "cp949", "cp950", "euc_jis_2004", "euc_jisx0213", "euc_jp",
  "euc_kr", "gb18030", "gb2312", "gbk", "iso2022_kr", "johab", "shift_jis", "shift_jis_2004",
  "shift_jisx0213", "utf_16", "utf_16_be", "utf_16_le", "utf_32", "utf_32_be", "utf_32_le",
  "utf_7"], ["big5_hkscs", "big5_tw", "chinese", "cp1361", "cp936",
  "csbig5", "csiso2022kr", "csiso58gb231280", "csshiftjis", "euc_cn", "euc_jis2004", "euccn",
  "eucgb2312_cn", "eucjis2004", "eucjisx0213", "eucjp", "euckr", "gb18030_2000", "gb2312_1980",
  "gb2312_80", "hkscs", "iso2022kr", "iso_2022_kr", "iso_ir_58", "jisx0213", "korean", "ks_c_5601",
  "ks_c_5601_1987", "ks_x_1001", "ksc5601", "ksx1001", "ms1361", "ms932", "ms936", "ms949", "ms950",
  "ms_kanji", "mskanji", "s_jis", "s_jis_2004", "s_jisx0213", "shiftjis", "shiftjis2004",
  "shiftjisx0213", "sjis", "sjis_2004", "sjisx0213", "u16", "u32", "u7", "u_jis", "uhc", "ujis",
  "unicode_1_1_utf_7", "unicodebigunmarked", "unicodelittleunmarked", "utf16", "utf32", "utf7",
  "utf_16be", "utf_16le", "utf_32be", "utf_32le", "x_mac_japanese", "x_mac_korean",
  "x_mac_simp_chinese", "x_mac_trad_chinese"]⟩

/-- Encodings that are known but take no document, each for a reason of its own. -/
inductive RefusingEncoding where
  | idna
  | punycode
  | undefined
  deriving DecidableEq, Repr

namespace RefusingEncoding

def ofName? (name : String) : Option RefusingEncoding :=
  [("idna", idna), ("punycode", punycode), ("undefined", undefined)].lookup name

def reason : RefusingEncoding → String
  | idna => "Unsupported error handling replace"
  | punycode => "'ascii' codec can't decode byte 0x80 in position 82: ordinal not in range(128)"
  | undefined => "undefined encoding"

end RefusingEncoding

/-- Codings of bytes by bytes. -/
def binaryNames : EncodingNames :=
  ⟨["base64_codec", "bz2_codec", "hex_codec", "quopri_codec", "rot_13", "uu_codec", "zlib_codec"],
  ["base64", "base_64", "bz2", "hex", "quopri", "quoted_printable", "quotedprintable", "rot13",
  "uu", "zip", "zlib"]⟩

end DeclGen.Xml
