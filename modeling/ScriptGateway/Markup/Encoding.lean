import ScriptGateway.Fault
import ScriptGateway.Markup.CodePages

/-!
# Encodings by name

What an encoding that a document names comes to: how its bytes are read, or why they are not. Names
are compared in a plain spelling, in small letters and with single underscores between their parts.
-/

set_option autoImplicit false

namespace ScriptGateway.Markup

/-! ## Names -/

/-- Names of the encodings that a code page cannot describe, since their characters take several
bytes. -/
def wideNames : List String :=
  ["big5", "big5_hkscs", "big5_tw", "big5hkscs", "chinese", "cp1361", "cp932", "cp936", "cp949",
    "cp950", "csbig5", "csiso2022kr", "csiso58gb231280", "csshiftjis", "euc_cn", "euc_jis2004",
    "euc_jis_2004", "euc_jisx0213", "euc_jp", "euc_kr", "euccn", "eucgb2312_cn", "eucjis2004",
    "eucjisx0213", "eucjp", "euckr", "gb18030", "gb18030_2000", "gb2312", "gb2312_1980",
    "gb2312_80", "gbk", "hkscs", "iso2022_kr", "iso2022kr", "iso_2022_kr", "iso_ir_58",
    "jisx0213", "johab", "korean", "ks_c_5601", "ks_c_5601_1987", "ks_x_1001", "ksc5601",
    "ksx1001", "ms1361", "ms932", "ms936", "ms949", "ms950", "ms_kanji", "mskanji", "s_jis",
    "s_jis_2004", "s_jisx0213", "shift_jis", "shift_jis_2004", "shift_jisx0213", "shiftjis",
    "shiftjis2004", "shiftjisx0213", "sjis", "sjis_2004", "sjisx0213", "u16", "u32", "u7",
    "u_jis", "uhc", "ujis", "unicode_1_1_utf_7", "unicodebigunmarked", "unicodelittleunmarked",
    "utf16", "utf32", "utf7", "utf_16", "utf_16_be", "utf_16_le", "utf_16be", "utf_16le",
    "utf_32", "utf_32_be", "utf_32_le", "utf_32be", "utf_32le", "utf_7", "x_mac_japanese",
    "x_mac_korean", "x_mac_simp_chinese", "x_mac_trad_chinese"]

/-- Names of the encodings in which every byte is the code point of its character. -/
def latinNames : List String :=
  ["charmap", "cp819", "csisolatin1", "ibm819", "iso8859", "iso8859_1", "iso_8859_1",
    "iso_8859_1_1987", "iso_ir_100", "l1", "latin", "latin1", "latin_1", "raw_unicode_escape",
    "unicode_escape"]

/-- Names of the encodings in which a byte above 127 is no character of its own. -/
def narrowNames : List String :=
  ["ansi_x3.4_1968", "ansi_x3.4_1986", "ansi_x3_4_1968", "ascii", "cp367", "cp65001", "csascii",
    "csiso2022jp", "ibm367", "iso2022_jp", "iso2022_jp_1", "iso2022_jp_2", "iso2022_jp_2004",
    "iso2022_jp_3", "iso2022_jp_ext", "iso2022jp", "iso2022jp_1", "iso2022jp_2", "iso2022jp_2004",
    "iso2022jp_3", "iso2022jp_ext", "iso646_us", "iso_2022_jp", "iso_2022_jp_1", "iso_2022_jp_2",
    "iso_2022_jp_2004", "iso_2022_jp_3", "iso_2022_jp_ext", "iso_646.irv_1991", "iso_ir_6", "u8",
    "us", "us_ascii", "utf", "utf8", "utf8_ucs2", "utf8_ucs4", "utf_8", "utf_8_sig"]

/-- Names of the encoding in which a tilde is no character of its own either. -/
def tildeNames : List String := ["hz", "hz_gb", "hz_gb_2312", "hzgb"]

/-- Names of the encodings that do not agree with ASCII, so that markup cannot be told. -/
def foreignNames : List String :=
  ["cp037", "cp1026", "cp1140", "cp273", "cp424", "cp500", "cp864", "cp875", "csibm037",
    "csibm1026", "csibm273", "csibm424", "csibm500", "csibm864", "ebcdic_cp_be", "ebcdic_cp_ca",
    "ebcdic_cp_ch", "ebcdic_cp_he", "ebcdic_cp_nl", "ebcdic_cp_us", "ebcdic_cp_wt", "ibm037",
    "ibm039", "ibm1026", "ibm1140", "ibm273", "ibm424", "ibm500", "ibm864", "mac_arabic",
    "mac_farsi"]

/-- Names of transformations of bytes into bytes, or of text into text. -/
def transformNames : List String :=
  ["base64", "base64_codec", "base_64", "bz2", "bz2_codec", "hex", "hex_codec", "quopri",
    "quopri_codec", "quoted_printable", "quotedprintable", "rot13", "rot_13", "uu", "uu_codec",
    "zip", "zlib", "zlib_codec"]

/-- Names in which a dot does not stand for an underscore. -/
def dotlessNames : List String :=
  ["base64_codec", "bz2_codec", "euc_jis_2004", "euc_jisx0213", "euc_jp", "euc_kr", "hex_codec",
    "hp_roman8", "iso2022_jp", "iso2022_jp_1", "iso2022_jp_2", "iso2022_jp_2004", "iso2022_jp_3",
    "iso2022_jp_ext", "iso2022_kr", "iso8859_10", "iso8859_11", "iso8859_13", "iso8859_14",
    "iso8859_15", "iso8859_16", "iso8859_2", "iso8859_3", "iso8859_4", "iso8859_5", "iso8859_6",
    "iso8859_7", "iso8859_8", "iso8859_9", "koi8_r", "koi8_t", "koi8_u", "latin_1", "mac_arabic",
    "mac_croatian", "mac_cyrillic", "mac_farsi", "mac_greek", "mac_iceland", "mac_latin2",
    "mac_roman", "mac_romanian", "mac_turkish", "quopri_codec", "raw_unicode_escape", "rot_13",
    "shift_jis", "shift_jis_2004", "shift_jisx0213", "tis_620", "unicode_escape", "utf_16",
    "utf_16_be", "utf_16_le", "utf_32", "utf_32_be", "utf_32_le", "utf_7", "utf_8", "utf_8_sig",
    "uu_codec", "zlib_codec"]

/-! ## Plain spelling -/

def isJoint (c : Char) : Bool := c = '-' || c = '_'

/-- Joins the parts of a name by single underscores; hyphens and underscores part them. `owed` says
whether one is to be written before the next part, and is absent before the first. -/
def joinParts : (owed : Option Bool) → List Char → List Char
  | _, [] => []
  | owed, c :: rest =>
    if isJoint c then joinParts (owed.map fun _ => true) rest
    else if owed = some true then '_' :: c :: joinParts (some false) rest
    else c :: joinParts (some false) rest

/-- The name of an encoding in its plain spelling. -/
def plainName (name : String) : String :=
  String.ofList (joinParts none (name.toList.map Char.toLower))

/-! ## Readings -/

/-- How the bytes of an encoding are read. -/
inductive ByteReading
  /-- Every byte is a code point. -/
  | latin
  /-- Bytes above 127 are no characters, and some below are none either. -/
  | ascii (without : List Char)
  /-- By a code page, given by its upper half. -/
  | page (upper : List Char)
  /-- Markup cannot be told. -/
  | foreign

/-- The reading of the encoding with exactly this plain name. -/
def readingOfPlain? (plain : String) : Option (Except EncodingFlaw ByteReading) :=
  if latinNames.contains plain then some (.ok .latin)
  else if narrowNames.contains plain then some (.ok (.ascii []))
  else if tildeNames.contains plain then some (.ok (.ascii ['~']))
  else if foreignNames.contains plain then some (.ok .foreign)
  else if wideNames.contains plain then some (.error .wide)
  else if transformNames.contains plain then some (.error .notText)
  else match plain with
    | "idna" => some (.error .noReplacement)
    | "undefined" => some (.error .undefined)
    | "punycode" => some (.error .beyondAscii)
    | _ => (codePages.find? (·.names.contains plain)).map fun page => .ok (.page page.upper.toList)

/-- The reading of an encoding that is not read in a way of its own. In a name that is not known as
it stands, dots may stand for underscores. -/
def readingOf (name : String) : Except EncodingFlaw ByteReading :=
  let plain := plainName name
  match readingOfPlain? plain with
  | some reading => reading
  | none =>
    let undotted := plain.map fun c => if c = '.' then '_' else c
    if dotlessNames.contains undotted then .error .unknown
    else (readingOfPlain? undotted).getD (.error .unknown)

end ScriptGateway.Markup
