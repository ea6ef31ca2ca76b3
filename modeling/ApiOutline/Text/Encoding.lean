/-
Encodings.

How octets write a text is told by the name of an encoding. There are many of them, most have many
names, and some are encodings of something else than text. Names are compared without a look at
case and at what stands between letters and digits. An encoding of texts reads nearly everything:
what stands for no character becomes a replacement character.
-/
import ApiOutline.Text.Cut
import ApiOutline.Text.Encoding.Inserted
import ApiOutline.Text.Encoding.Pages
import ApiOutline.Text.Encoding.Shifted
import ApiOutline.Text.Encoding.Switched
import ApiOutline.Text.Quoted

set_option autoImplicit false

namespace ApiOutline.Text

inductive Encoding where
  | ascii
  | latin
  | utf8
  /-- UTF-8 behind a mark. -/
  | markedUtf8
  /-- Units of two octets; without an order, a mark tells it. -/
  | utf16 (order : Option OctetOrder)
  /-- Units of four octets. -/
  | utf32 (order : Option OctetOrder)
  | utf7
  | escaped
  /-- Only numbers are escaped. -/
  | numbersEscaped
  | page (p : Page)
  | chinese (e : ChineseEncoding)
  | japanese (e : JapaneseEncoding)
  | korean (e : KoreanEncoding)
  /-- Escapes announce sets. -/
  | switched (e : Switching)
  /-- Tildes announce a set. -/
  | tildes
  /-- Places tell where characters go in. -/
  | inserted
  /-- An encoding of octets, not of texts. -/
  | ofOctets
  /-- An encoding of texts as texts. -/
  | ofTexts
  /-- An encoding of the labels of hosts. -/
  | ofHosts
  /-- No encoding at all. -/
  | undefined

/-- Why octets write no text. -/
inductive Undecodable where
  | noMark (bits : Nat)
  /-- The encoding writes octets. -/
  | octets
  /-- The encoding writes texts. -/
  | texts
  /-- The encoding does not put up with errors. -/
  | strict
  /-- What has to be ASCII is not, for an octet at a place. -/
  | notAscii (octet : UInt8) (place : Nat)
  /-- Too much is left as the beginning of something. -/
  | waiting
  | undefined
  deriving DecidableEq, Repr

def Undecodable.message : Undecodable → String
  | .noMark bits => "UTF-" ++ Decimal.digitText bits ++ " stream does not start with BOM"
  | .octets | .texts => ""
  | .strict => "Unsupported error handling replace"
  | .notAscii octet place =>
    "'ascii' codec can't decode byte 0x" ++ hexText 2 octet.toNat ++ " in position " ++
      Decimal.digitText place ++ ": ordinal not in range(128)"
  | .waiting => "pending buffer overflow"
  | .undefined => "undefined encoding"

namespace Encoding

/-! ## Names -/

/-- An encoding with its names. -/
structure Entry where
  name : String
  /-- Other names. -/
  others : List String
  encoding : Encoding

/-- The encodings of all characters, those of no more than Latin, and those of something else than
texts. -/
def generalEntries : List Entry :=
  [
    ⟨"ascii", ["646", "ansi_x3.4_1968", "ansi_x3_4_1968", "ansi_x3.4_1986", "cp367", "csascii",
      "ibm367", "iso646_us", "iso_646.irv_1991", "iso_ir_6", "us", "us_ascii"], .ascii⟩,
    ⟨"latin_1", ["8859", "cp819", "csisolatin1", "ibm819", "iso8859", "iso8859_1", "iso_8859_1",
      "iso_8859_1_1987", "iso_ir_100", "l1", "latin", "latin1"], .latin⟩,
    ⟨"charmap", [], .latin⟩,
    ⟨"utf_8", ["u8", "utf", "utf8", "utf8_ucs2", "utf8_ucs4", "cp65001"], .utf8⟩,
    ⟨"utf_8_sig", [], .markedUtf8⟩,
    ⟨"utf_16", ["u16", "utf16"], .utf16 none⟩,
    ⟨"utf_16_be", ["unicodebigunmarked", "utf_16be"], .utf16 (some .largeFirst)⟩,
    ⟨"utf_16_le", ["unicodelittleunmarked", "utf_16le"], .utf16 (some .smallFirst)⟩,
    ⟨"utf_32", ["u32", "utf32"], .utf32 none⟩,
    ⟨"utf_32_be", ["utf_32be"], .utf32 (some .largeFirst)⟩,
    ⟨"utf_32_le", ["utf_32le"], .utf32 (some .smallFirst)⟩,
    ⟨"utf_7", ["u7", "utf7", "unicode_1_1_utf_7"], .utf7⟩,
    ⟨"unicode_escape", [], .escaped⟩,
    ⟨"raw_unicode_escape", [], .numbersEscaped⟩,
    ⟨"punycode", [], .inserted⟩,
    ⟨"base64_codec", ["base64", "base_64"], .ofOctets⟩,
    ⟨"bz2_codec", ["bz2"], .ofOctets⟩,
    ⟨"hex_codec", ["hex"], .ofOctets⟩,
    ⟨"quopri_codec", ["quopri", "quoted_printable", "quotedprintable"], .ofOctets⟩,
    ⟨"uu_codec", ["uu"], .ofOctets⟩,
    ⟨"zlib_codec", ["zip", "zlib"], .ofOctets⟩,
    ⟨"rot_13", ["rot13"], .ofTexts⟩,
    ⟨"idna", [], .ofHosts⟩,
    ⟨"undefined", [], .undefined⟩
  ]

/-- The encodings in which a character takes two octets and more. -/
def wideEntries : List Entry :=
  [
    ⟨"gb2312", ["chinese", "csiso58gb231280", "euc_cn", "euccn", "eucgb2312_cn", "gb2312_1980",
      "gb2312_80", "iso_ir_58", "x_mac_simp_chinese"], .chinese .guobiao⟩,
    ⟨"gbk", ["936", "cp936", "ms936"], .chinese .wideGuobiao⟩,
    ⟨"gb18030", ["gb18030_2000"], .chinese .fullGuobiao⟩,
    ⟨"hz", ["hzgb", "hz_gb", "hz_gb_2312"], .tildes⟩,
    ⟨"big5", ["big5_tw", "csbig5", "x_mac_trad_chinese"], .chinese .bigFive⟩,
    ⟨"cp950", ["950", "ms950"], .chinese .bigFive950⟩,
    ⟨"big5hkscs", ["big5_hkscs", "hkscs"], .chinese .hongKong⟩,
    ⟨"euc_kr", ["euckr", "korean", "ksc5601", "ks_c_5601", "ks_c_5601_1987", "ksx1001",
      "ks_x_1001", "x_mac_korean"], .korean .large⟩,
    ⟨"cp949", ["949", "ms949", "uhc"], .korean .unified⟩,
    ⟨"johab", ["cp1361", "ms1361"], .korean .byParts⟩,
    ⟨"iso2022_kr", ["csiso2022kr", "iso2022kr", "iso_2022_kr"], .switched .korean⟩,
    ⟨"euc_jp", ["eucjp", "ujis", "u_jis"], .japanese .large⟩,
    ⟨"euc_jisx0213", ["eucjisx0213"], .japanese (.largePlanes .first)⟩,
    ⟨"euc_jis_2004", ["jisx0213", "eucjis2004", "euc_jis2004"],
      .japanese (.largePlanes .second)⟩,
    ⟨"shift_jis", ["csshiftjis", "shiftjis", "sjis", "s_jis", "x_mac_japanese"],
      .japanese .shifted⟩,
    ⟨"cp932", ["932", "ms932", "mskanji", "ms_kanji"], .japanese .vendor⟩,
    ⟨"shift_jisx0213", ["shiftjisx0213", "sjisx0213", "s_jisx0213"],
      .japanese (.shiftedPlanes .first)⟩,
    ⟨"shift_jis_2004", ["shiftjis2004", "sjis_2004", "s_jis_2004"],
      .japanese (.shiftedPlanes .second)⟩,
    ⟨"iso2022_jp", ["csiso2022jp", "iso2022jp", "iso_2022_jp"], .switched .japanese⟩,
    ⟨"iso2022_jp_1", ["iso2022jp_1", "iso_2022_jp_1"], .switched .japaneseSupplemented⟩,
    ⟨"iso2022_jp_2", ["iso2022jp_2", "iso_2022_jp_2"], .switched .manyTongues⟩,
    ⟨"iso2022_jp_ext", ["iso2022jp_ext", "iso_2022_jp_ext"], .switched .japaneseWithLetters⟩,
    ⟨"iso2022_jp_3", ["iso2022jp_3", "iso_2022_jp_3"], .switched (.japanesePlanes .first)⟩,
    ⟨"iso2022_jp_2004", ["iso_2022_jp_2004", "iso2022jp_2004"],
      .switched (.japanesePlanes .second)⟩
  ]

def pages : List Page :=
  windowsPages ++ standardPages ++ consolePages ++ desktopPages ++ nationalPages ++
    mainframePages

/-- All encodings. -/
def entries : List Entry :=
  generalEntries ++ wideEntries ++ pages.map fun p => ⟨p.name, p.others, .page p⟩

/-- A name in small letters, with an underscore wherever something else than letters, digits and
points stands between them. -/
def normalName (cs : List Char) : List Char :=
  let isPart (c : Char) : Bool := c.isAlphanum || c == '.'
  let pieces := Text.splitAt '_' (cs.map fun c => if isPart c then c.toLower else '_')
  ['_'].intercalate (pieces.filter (!·.isEmpty))

/-- The encoding of a name. Other names go before the first one, and in other names an underscore
does as well as a point. -/
def named? (name : String) : Option Encoding :=
  let normal := normalName name.toList
  let known := String.ofList normal
  let pointless := String.ofList (normal.map fun c => if c == '.' then '_' else c)
  let byOther (s : String) : Option Entry := entries.find? fun e => e.others.contains s
  let entry := match byOther known with
    | some e => some e
    | none => match byOther pointless with
      | some e => some e
      | none => entries.find? fun e => e.name == known
  entry.map Entry.encoding

/-! ## Decoding -/

/-- The text of octets in units, whose order a mark tells. Fewer octets than a mark has are no
text without a mark, but a text that is broken off. -/
def decodeByMark (width : Nat) (toChars : OctetOrder → List UInt8 → List Char)
    (octets : List UInt8) : Except Undecodable String :=
  match markedOrder? width octets with
  | some (order, rest) => .ok (String.ofList (toChars order rest))
  | none =>
    if octets.length < width then .ok (String.ofList (toChars .smallFirst octets))
    else .error (.noMark (8 * width))

/-- A text of characters, unless too many octets were left waiting for more. -/
def ofChars : Option (List Char) → Except Undecodable String
  | some cs => .ok (String.ofList cs)
  | none => .error .waiting

/-- The text that octets write. -/
def decode (e : Encoding) (octets : List UInt8) : Except Undecodable String :=
  match e with
  | .ascii =>
    .ok (String.ofList (octets.map fun b => if b < 0x80 then latinChar b else replacement))
  | .latin => .ok (String.ofList (octets.map latinChar))
  | .utf8 => .ok (decodeUtf8Lenient octets)
  | .markedUtf8 => .ok (decodeMarked octets)
  | .utf16 (some order) => .ok (String.ofList (pairsToChars order octets))
  | .utf16 none => decodeByMark 2 pairsToChars octets
  | .utf32 (some order) => .ok (String.ofList (quadsToChars order octets))
  | .utf32 none => decodeByMark 4 quadsToChars octets
  | .utf7 => .ok (String.ofList (shiftedToChars none octets))
  | .escaped => .ok (String.ofList (unescaped (octets.map latinChar)))
  | .numbersEscaped => .ok (String.ofList (numbersUnescaped (octets.map latinChar)))
  | .page p => .ok (p.decode octets)
  | .chinese e => ofChars (e.toChars? (octets.map UInt8.toNat))
  | .japanese e => ofChars (e.toChars? (octets.map UInt8.toNat))
  | .korean e => ofChars (e.toChars? (octets.map UInt8.toNat))
  | .switched e => ofChars (e.toChars? (octets.map UInt8.toNat))
  | .tildes => ofChars (charactersBy? tildeFront false (octets.map UInt8.toNat))
  | .inserted =>
    match Punycode.decodeAsFar octets with
    | .ok cs => .ok (String.ofList cs)
    | .error (octet, place) => .error (.notAscii octet place)
  | .ofOctets => .error .octets
  | .ofTexts => .error .texts
  | .ofHosts => .error .strict
  | .undefined => .error .undefined

end Encoding

end ApiOutline.Text
