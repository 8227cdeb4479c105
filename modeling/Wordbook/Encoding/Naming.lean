import Wordbook.Encoding.CharmapTable
import Wordbook.Encoding.Domain
import Wordbook.Encoding.Escaped
import Wordbook.Encoding.Seven

/-!
# Encodings by name

An encoding has a name and may have aliases.  Letters of either case are the same, and so are the
marks between words.
-/

namespace Wordbook
namespace Encoding

/-- The encodings that have a name. -/
inductive Named where
  | stepwise (codec : Codec) (mark : List UInt8)
  | marked
  | seven
  | escaped
  | rawEscaped
  | punycode
  | domain
  | undefined
  | foreign
deriving DecidableEq

namespace Named

/-- The letters, digits and points of a name; other characters between them count as one mark.
`pending` says that a mark waits for a character behind it. -/
def lettersFrom (pending : Bool) : List Char → List Char
  | [] => []
  | char :: rest =>
      if char.isAlphanum || char == '.' then
        (if pending then ['_', char.toLower] else [char.toLower]) ++ lettersFrom false rest
      else lettersFrom true rest

/-- A name with its letters and the marks between its words made alike. -/
def plainName (name : String) : String :=
  String.ofList (lettersFrom false
    (name.toList.dropWhile fun char => !(char.isAlphanum || char == '.')))

/-- The encodings that have aliases, with the aliases. -/
def aliases : List (String × String) := [
  ("ascii", "646 ansi_x3.4_1968 ansi_x3_4_1968 ansi_x3.4_1986 cp367 csascii"),
  ("ascii", "ibm367 iso646_us iso_646.irv_1991 iso_ir_6 us us_ascii"),
  ("base64_codec", "base64 base_64"),
  ("bz2_codec", "bz2"),
  ("cp037", "037 csibm037 ebcdic_cp_ca ebcdic_cp_nl ebcdic_cp_us ebcdic_cp_wt ibm037 ibm039"),
  ("cp1026", "1026 csibm1026 ibm1026"),
  ("cp1125", "1125 ibm1125 cp866u ruscii"),
  ("cp1140", "1140 ibm1140"),
  ("cp1250", "1250 windows_1250"),
  ("cp1251", "1251 windows_1251"),
  ("cp1252", "1252 windows_1252"),
  ("cp1253", "1253 windows_1253"),
  ("cp1254", "1254 windows_1254"),
  ("cp1255", "1255 windows_1255"),
  ("cp1256", "1256 windows_1256"),
  ("cp1257", "1257 windows_1257"),
  ("cp1258", "1258 windows_1258"),
  ("cp273", "273 ibm273 csibm273"),
  ("cp424", "424 csibm424 ebcdic_cp_he ibm424"),
  ("cp437", "437 cspc8codepage437 ibm437"),
  ("cp500", "500 csibm500 ebcdic_cp_be ebcdic_cp_ch ibm500"),
  ("cp775", "775 cspc775baltic ibm775"),
  ("cp850", "850 cspc850multilingual ibm850"),
  ("cp852", "852 cspcp852 ibm852"),
  ("cp855", "855 csibm855 ibm855"),
  ("cp857", "857 csibm857 ibm857"),
  ("cp858", "858 csibm858 ibm858"),
  ("cp860", "860 csibm860 ibm860"),
  ("cp861", "861 cp_is csibm861 ibm861"),
  ("cp862", "862 cspc862latinhebrew ibm862"),
  ("cp863", "863 csibm863 ibm863"),
  ("cp864", "864 csibm864 ibm864"),
  ("cp865", "865 csibm865 ibm865"),
  ("cp866", "866 csibm866 ibm866"),
  ("cp869", "869 cp_gr csibm869 ibm869"),
  ("hex_codec", "hex"),
  ("hp_roman8", "roman8 r8 cp1051 ibm1051"),
  ("iso8859_10", "csisolatin6 iso_8859_10 iso_8859_10_1992 iso_ir_157 l6 latin6"),
  ("iso8859_11", "thai iso_8859_11 iso_8859_11_2001"),
  ("iso8859_13", "iso_8859_13 l7 latin7"),
  ("iso8859_14", "iso_8859_14 iso_8859_14_1998 iso_celtic iso_ir_199 l8 latin8"),
  ("iso8859_15", "iso_8859_15 l9 latin9"),
  ("iso8859_16", "iso_8859_16 iso_8859_16_2001 iso_ir_226 l10 latin10"),
  ("iso8859_2", "csisolatin2 iso_8859_2 iso_8859_2_1987 iso_ir_101 l2 latin2"),
  ("iso8859_3", "csisolatin3 iso_8859_3 iso_8859_3_1988 iso_ir_109 l3 latin3"),
  ("iso8859_4", "csisolatin4 iso_8859_4 iso_8859_4_1988 iso_ir_110 l4 latin4"),
  ("iso8859_5", "csisolatincyrillic cyrillic iso_8859_5 iso_8859_5_1988 iso_ir_144"),
  ("iso8859_6", "arabic asmo_708 csisolatinarabic ecma_114 iso_8859_6 iso_8859_6_1987 iso_ir_127"),
  ("iso8859_7", "csisolatingreek ecma_118 elot_928 greek"),
  ("iso8859_7", "greek8 iso_8859_7 iso_8859_7_1987 iso_ir_126"),
  ("iso8859_8", "csisolatinhebrew hebrew iso_8859_8 iso_8859_8_1988 iso_ir_138"),
  ("iso8859_9", "csisolatin5 iso_8859_9 iso_8859_9_1989 iso_ir_148 l5 latin5"),
  ("koi8_r", "cskoi8r"),
  ("kz1048", "kz_1048 rk1048 strk1048_2002"),
  ("latin_1", "8859 cp819 csisolatin1 ibm819 iso8859 iso8859_1"),
  ("latin_1", "iso_8859_1 iso_8859_1_1987 iso_ir_100 l1 latin latin1"),
  ("mac_cyrillic", "maccyrillic"),
  ("mac_greek", "macgreek"),
  ("mac_iceland", "maciceland"),
  ("mac_latin2", "maccentraleurope mac_centeuro maclatin2"),
  ("mac_roman", "macintosh macroman"),
  ("mac_turkish", "macturkish"),
  ("ptcp154", "csptcp154 pt154 cp154 cyrillic_asian"),
  ("quopri_codec", "quopri quoted_printable quotedprintable"),
  ("rot_13", "rot13"),
  ("tis_620", "tis620 tis_620_0 tis_620_2529_0 tis_620_2529_1 iso_ir_166"),
  ("utf_16", "u16 utf16"),
  ("utf_16_be", "unicodebigunmarked utf_16be"),
  ("utf_16_le", "unicodelittleunmarked utf_16le"),
  ("utf_32", "u32 utf32"),
  ("utf_32_be", "utf_32be"),
  ("utf_32_le", "utf_32le"),
  ("utf_7", "u7 utf7 unicode_1_1_utf_7"),
  ("utf_8", "u8 utf utf8 utf8_ucs2 utf8_ucs4 cp65001"),
  ("uu_codec", "uu"),
  ("zlib_codec", "zip zlib")]

/-- The encodings that are no tables of single bytes. -/
def byName? (name : String) : Option Named :=
  match name with
  | "ascii" => some (.stepwise .ascii [])
  | "latin_1" | "charmap" => some (.stepwise .latin [])
  | "utf_8" => some (.stepwise .utf8 [])
  | "utf_8_sig" => some .marked
  | "utf_16" => some (.stepwise (.utf16 .little) [0xff, 0xfe])
  | "utf_16_le" => some (.stepwise (.utf16 .little) [])
  | "utf_16_be" => some (.stepwise (.utf16 .big) [])
  | "utf_32" => some (.stepwise (.utf32 .little) [0xff, 0xfe, 0x00, 0x00])
  | "utf_32_le" => some (.stepwise (.utf32 .little) [])
  | "utf_32_be" => some (.stepwise (.utf32 .big) [])
  | "utf_7" => some .seven
  | "unicode_escape" => some .escaped
  | "raw_unicode_escape" => some .rawEscaped
  | "punycode" => some .punycode
  | "idna" => some .domain
  | "undefined" => some .undefined
  | "base64_codec" | "bz2_codec" | "hex_codec" | "quopri_codec" | "rot_13" | "uu_codec"
  | "zlib_codec" => some .foreign
  | _ => none

/-- The encoding of a plain name that is no alias; one with a point has none. -/
def ofPlainName? (name : String) : Option Named :=
  if name.contains '.' then none
  else
    match byName? name with
    | some found => some found
    | none => (charmapRows.lookup name).map fun rows => .stepwise (.single (Charmap.ofRows rows)) []

/-- The encoding that a plain name is an alias of. -/
def aliased? (name : String) : Option String :=
  (aliases.find? fun entry => (entry.2.splitOn " ").contains name).map Prod.fst

/-- The encoding of a name. -/
def ofName? (name : String) : Option Named :=
  let plain := plainName name
  let pointless := plain.map fun char => if char == '.' then '_' else char
  match (aliased? plain).or (aliased? pointless) with
  | some found => (ofPlainName? found).or (ofPlainName? plain)
  | none => ofPlainName? plain

/-- A name is one of the most common ones. -/
def isCommonName (name : String) : Bool :=
  ["utf8", "utf_8", "utf16", "utf_16", "utf32", "utf_32", "ascii", "us_ascii", "latin1", "latin_1",
    "iso_8859_1", "iso8859_1"].contains (plainName name)

/-- Equal short results of an encoding are one value. -/
def sharesResults : Named → Bool
  | .stepwise (.single _) _ | .seven | .escaped | .punycode => false
  | _ => true

/-- The bytes of a text. -/
def encode (found : Named) (handling : Handling) (chars : List Char) :
    Except CodingFault (List UInt8) :=
  let stepwise (codec : Codec) (mark : List UInt8) : Except CodingFault (List UInt8) :=
    match encodeWith codec handling.substitute? chars with
    | .ok bytes => .ok (mark ++ bytes)
    | .error fault => .error (.ofEncoding handling fault)
  match found with
  | .stepwise codec mark => stepwise codec mark
  | .marked => stepwise .utf8 [0xef, 0xbb, 0xbf]
  | .seven => .ok (Seven.encode chars)
  | .escaped => .ok (Escaped.encode chars)
  | .rawEscaped => .ok (Escaped.encodeRaw chars)
  | .punycode => .ok (Punycode.encode chars)
  | .domain =>
      if handling == .strict then Domain.encode chars
      else .error (.other ("unsupported error handling " ++ handling.name))
  | .undefined | .foreign => .error (.other "undefined encoding")

/-- The codec that a mark at the start of bytes announces where the order of bytes is open, and the
length of the mark. -/
def orderedBy (codec : Codec) (mark bytes : List UInt8) : Codec × Nat :=
  if mark.isEmpty then (codec, 0)
  else if mark.isPrefixOf bytes then (codec, mark.length)
  else
    match codec, bytes with
    | .utf16 _, 0xfe :: 0xff :: _ => (.utf16 .big, 2)
    | .utf32 _, 0x00 :: 0x00 :: 0xfe :: 0xff :: _ => (.utf32 .big, 4)
    | _, _ => (codec, 0)

/-- The text of bytes. -/
def decode (found : Named) (handling : Handling) (bytes : List UInt8) :
    Except CodingFault (List Char) :=
  let settle (result : Except DecodeFault (List Char)) : Except CodingFault (List Char) :=
    result.mapError (.ofDecoding handling)
  match found with
  | .stepwise codec mark =>
      let (ordered, skipped) := orderedBy codec mark bytes
      settle (decodeWith ordered false handling.rescue? skipped bytes)
  | .marked =>
      let mark : List UInt8 := [0xef, 0xbb, 0xbf]
      let rest := if mark.isPrefixOf bytes then bytes.drop mark.length else bytes
      settle (decodeWith .utf8 false handling.rescue? 0 rest)
  | .seven => settle (Seven.decode handling.rescue? bytes)
  | .escaped => settle (Escaped.decode handling.rescue? bytes)
  | .rawEscaped => settle (Escaped.decodeRaw handling.rescue? bytes)
  | .punycode =>
      if handling == .strict || handling == .replace || handling == .ignore then
        Punycode.decode handling bytes
      else .error (.other ("Unsupported error handling " ++ handling.name))
  | .domain =>
      if handling == .strict then Domain.decode bytes
      else .error (.other ("Unsupported error handling " ++ handling.name))
  | .undefined | .foreign => .error (.other "undefined encoding")

end Named
end Encoding
end Wordbook
