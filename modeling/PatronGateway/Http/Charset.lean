import PatronGateway.Http.MediaType
import PatronGateway.Text.Split

/-!
# The text of a body

The content type of a body may name its charset by one of many labels; where it names
none, or one that nobody knows, or is no media type, the body is UTF-8.  A byte order
mark at the front overrules the charset and does not belong to the text.  What cannot
be decoded becomes U+FFFD.

UTF-8, UTF-16, the western charset and the two that need no table are decoded here.
The others go by large tables, which are left open as `Tables`: of a charset with one
byte for each character, which character a byte stands for, and of one with several,
the text of the bytes.
-/

namespace PatronGateway
namespace Http

/-- The charsets in which each byte stands for a character by some table. -/
inductive SingleByte where
  | ibm866
  | iso8859_2 | iso8859_3 | iso8859_4 | iso8859_5 | iso8859_6 | iso8859_7 | iso8859_8
  | iso8859_10 | iso8859_13 | iso8859_14 | iso8859_15 | iso8859_16
  | koi8R | koi8U
  | macintosh | macCyrillic
  | windows874 | windows1250 | windows1251 | windows1253 | windows1254 | windows1255
  | windows1256 | windows1257 | windows1258
  deriving DecidableEq, Repr

/-- The charsets in which several bytes may stand for a character by some table. -/
inductive MultiByte where
  | gbk
  | gb18030
  | big5
  | eucJp
  | iso2022Jp
  | shiftJis
  | eucKr
  deriving DecidableEq, Repr

/-- The charsets that are told apart.  One of them replaces any body: it stands for
charsets that must not be decoded. -/
inductive Charset where
  | utf8
  | utf16 (bigEndian : Bool)
  | western
  | userDefined
  | replacement
  | singleByte (table : SingleByte)
  | multiByte (table : MultiByte)
  deriving DecidableEq, Repr

namespace Charset

/-- The labels of the charsets. -/
def labels : List (Charset × List String) :=
  [(utf8, ["unicode-1-1-utf-8", "unicode11utf8", "unicode20utf8", "utf-8", "utf8",
      "x-unicode20utf8"]),
    (western, ["ansi_x3.4-1968", "ascii", "cp1252", "cp819", "csisolatin1", "ibm819",
      "iso-8859-1", "iso-ir-100", "iso8859-1", "iso88591", "iso_8859-1", "iso_8859-1:1987",
      "l1", "latin1", "us-ascii", "windows-1252", "x-cp1252"]),
    (singleByte .ibm866, ["866", "cp866", "csibm866", "ibm866"]),
    (singleByte .iso8859_2, ["csisolatin2", "iso-8859-2", "iso-ir-101", "iso8859-2", "iso88592",
      "iso_8859-2", "iso_8859-2:1987", "l2", "latin2"]),
    (singleByte .iso8859_3, ["csisolatin3", "iso-8859-3", "iso-ir-109", "iso8859-3", "iso88593",
      "iso_8859-3", "iso_8859-3:1988", "l3", "latin3"]),
    (singleByte .iso8859_4, ["csisolatin4", "iso-8859-4", "iso-ir-110", "iso8859-4", "iso88594",
      "iso_8859-4", "iso_8859-4:1988", "l4", "latin4"]),
    (singleByte .iso8859_5, ["csisolatincyrillic", "cyrillic", "iso-8859-5", "iso-ir-144",
      "iso8859-5", "iso88595", "iso_8859-5", "iso_8859-5:1988"]),
    (singleByte .iso8859_6, ["arabic", "asmo-708", "csiso88596e", "csiso88596i",
      "csisolatinarabic", "ecma-114", "iso-8859-6", "iso-8859-6-e", "iso-8859-6-i",
      "iso-ir-127", "iso8859-6", "iso88596", "iso_8859-6", "iso_8859-6:1987"]),
    (singleByte .iso8859_7, ["csisolatingreek", "ecma-118", "elot_928", "greek", "greek8",
      "iso-8859-7", "iso-ir-126", "iso8859-7", "iso88597", "iso_8859-7", "iso_8859-7:1987",
      "sun_eu_greek"]),
    (singleByte .iso8859_8, ["csiso88598e", "csiso88598i", "csisolatinhebrew", "hebrew",
      "iso-8859-8", "iso-8859-8-e", "iso-8859-8-i", "iso-ir-138", "iso8859-8", "iso88598",
      "iso_8859-8", "iso_8859-8:1988", "logical", "visual"]),
    (singleByte .iso8859_10, ["csisolatin6", "iso-8859-10", "iso-ir-157", "iso8859-10",
      "iso885910", "l6", "latin6"]),
    (singleByte .iso8859_13, ["iso-8859-13", "iso8859-13", "iso885913"]),
    (singleByte .iso8859_14, ["iso-8859-14", "iso8859-14", "iso885914"]),
    (singleByte .iso8859_15, ["csisolatin9", "iso-8859-15", "iso8859-15", "iso885915",
      "iso_8859-15", "l9"]),
    (singleByte .iso8859_16, ["iso-8859-16"]),
    (singleByte .koi8R, ["cskoi8r", "koi", "koi8", "koi8-r", "koi8_r"]),
    (singleByte .koi8U, ["koi8-ru", "koi8-u"]),
    (singleByte .macintosh, ["csmacintosh", "mac", "macintosh", "x-mac-roman"]),
    (singleByte .windows874, ["dos-874", "iso-8859-11", "iso8859-11", "iso885911", "tis-620",
      "windows-874"]),
    (singleByte .windows1250, ["cp1250", "windows-1250", "x-cp1250"]),
    (singleByte .windows1251, ["cp1251", "windows-1251", "x-cp1251"]),
    (singleByte .windows1253, ["cp1253", "windows-1253", "x-cp1253"]),
    (singleByte .windows1254, ["cp1254", "csisolatin5", "iso-8859-9", "iso-ir-148", "iso8859-9",
      "iso88599", "iso_8859-9", "iso_8859-9:1989", "l5", "latin5", "windows-1254", "x-cp1254"]),
    (singleByte .windows1255, ["cp1255", "windows-1255", "x-cp1255"]),
    (singleByte .windows1256, ["cp1256", "windows-1256", "x-cp1256"]),
    (singleByte .windows1257, ["cp1257", "windows-1257", "x-cp1257"]),
    (singleByte .windows1258, ["cp1258", "windows-1258", "x-cp1258"]),
    (singleByte .macCyrillic, ["x-mac-cyrillic", "x-mac-ukrainian"]),
    (multiByte .gbk, ["chinese", "csgb2312", "csiso58gb231280", "gb2312", "gb_2312",
      "gb_2312-80", "gbk", "iso-ir-58", "x-gbk"]),
    (multiByte .gb18030, ["gb18030"]),
    (multiByte .big5, ["big5", "big5-hkscs", "cn-big5", "csbig5", "x-x-big5"]),
    (multiByte .eucJp, ["cseucpkdfmtjapanese", "euc-jp", "x-euc-jp"]),
    (multiByte .iso2022Jp, ["csiso2022jp", "iso-2022-jp"]),
    (multiByte .shiftJis, ["csshiftjis", "ms932", "ms_kanji", "shift-jis", "shift_jis", "sjis",
      "windows-31j", "x-sjis"]),
    (multiByte .eucKr, ["cseuckr", "csksc56011987", "euc-kr", "iso-ir-149", "korean",
      "ks_c_5601-1987", "ks_c_5601-1989", "ksc5601", "ksc_5601", "windows-949"]),
    (replacement, ["csiso2022kr", "hz-gb-2312", "iso-2022-cn", "iso-2022-cn-ext", "iso-2022-kr",
      "replacement"]),
    (utf16 true, ["unicodefffe", "utf-16be"]),
    (utf16 false, ["csunicode", "iso-10646-ucs-2", "ucs-2", "unicode", "unicodefeff", "utf-16",
      "utf-16le"]),
    (userDefined, ["x-user-defined"])]

/-- The blanks that may stand around a label. -/
def isLabelBlank (c : Char) : Bool := c ∈ ['\t', '\n', '\x0C', '\r', ' ']

/-- The charset that a label names, in either case and with or without blanks around
it. -/
def ofLabel? (label : String) : Option Charset :=
  let bare := Text.dropTrailing isLabelBlank (label.toList.dropWhile isLabelBlank)
  let lowered := String.ofList (bare.map Char.toLower)
  (labels.find? fun named => named.2.contains lowered).map Prod.fst

/-- The charset of a content type. -/
def ofContentType (contentType : Option String) : Charset :=
  ((contentType.bind MediaType.parameters?).bind fun parameters =>
    (parameters.lookup "charset").bind ofLabel?).getD utf8

/-- What the tables of the charsets say: which character a byte from 0x80 on stands
for, if it stands for any, and what the text of bytes is where several may belong
together. -/
structure Tables where
  single : SingleByte → UInt8 → Option Char
  multi : MultiByte → Bytes → String

/-- The character of a byte that is ASCII, or of any other byte by a table. -/
def byteChar (high : UInt8 → Option Char) (b : UInt8) : Char :=
  if b.toNat < 0x80 then Char.ofNat b.toNat else (high b).getD '\uFFFD'

/-- The characters of the bytes from 0x80 to 0x9F in the western charset. -/
def westernHigh : List Nat :=
  [0x20AC, 0x81, 0x201A, 0x192, 0x201E, 0x2026, 0x2020, 0x2021, 0x2C6, 0x2030, 0x160, 0x2039,
    0x152, 0x8D, 0x17D, 0x8F, 0x90, 0x2018, 0x2019, 0x201C, 0x201D, 0x2022, 0x2013, 0x2014,
    0x2DC, 0x2122, 0x161, 0x203A, 0x153, 0x9D, 0x17E, 0x178]

/-- The character of a byte from 0x80 on in the western charset. -/
def westernChar (b : UInt8) : Char :=
  Char.ofNat ((westernHigh[b.toNat - 0x80]?).getD b.toNat)

/-- The character of a byte from 0x80 on in the charset for characters of one's own. -/
def userChar (b : UInt8) : Char :=
  Char.ofNat (0xF780 + (b.toNat - 0x80))

/-- The units of UTF-16; a byte that is left over at the end makes none. -/
def units (bigEndian : Bool) : Bytes → List (Option Nat)
  | [] => []
  | [_] => [none]
  | a :: b :: rest =>
    some (if bigEndian then a.toNat * 256 + b.toNat else b.toNat * 256 + a.toNat) ::
      units bigEndian rest

/-- The character of one unit; half a pair and what is left over have none. -/
def unitChar : Option Nat → Char
  | some u => if 0xD800 ≤ u ∧ u < 0xE000 then '\uFFFD' else Char.ofNat u
  | none => '\uFFFD'

/-- The character of two units that belong together.  The first half of a pair and what
is left over are undecodable as one. -/
def pairChar? : Option Nat → Option Nat → Option Char
  | some u, some v =>
    if 0xD800 ≤ u ∧ u < 0xDC00 ∧ 0xDC00 ≤ v ∧ v < 0xE000 then
      some (Char.ofNat (0x10000 + (u - 0xD800) * 0x400 + (v - 0xDC00)))
    else none
  | some u, none => if 0xD800 ≤ u ∧ u < 0xDC00 then some '\uFFFD' else none
  | none, _ => none

/-- The characters of units of UTF-16. -/
def fromUnits : List (Option Nat) → List Char
  | [] => []
  | [u] => [unitChar u]
  | u :: v :: rest =>
    match pairChar? u v with
    | some c => c :: fromUnits rest
    | none => unitChar u :: fromUnits (v :: rest)

/-- The text of bytes in a charset. -/
def decode (t : Tables) (c : Charset) (bs : Bytes) : String :=
  match c with
  | utf8 => Text.Utf8.decodeLossy bs
  | utf16 bigEndian => String.ofList (fromUnits (units bigEndian bs))
  | western => String.ofList (bs.map (byteChar fun b => some (westernChar b)))
  | userDefined => String.ofList (bs.map (byteChar fun b => some (userChar b)))
  | replacement => if bs.isEmpty then "" else "\uFFFD"
  | singleByte table => String.ofList (bs.map (byteChar (t.single table)))
  | multiByte table => t.multi table bs

/-- Takes a byte order mark away from the front, with the charset that it tells. -/
def mark? : Bytes → Option (Charset × Bytes)
  | 0xEF :: 0xBB :: 0xBF :: rest => some (utf8, rest)
  | 0xFE :: 0xFF :: rest => some (utf16 true, rest)
  | 0xFF :: 0xFE :: rest => some (utf16 false, rest)
  | _ => none

/-- Tables with nothing in them, by which only ASCII can be read. -/
def Tables.blank : Tables where
  single _ _ := none
  multi _ bs := String.ofList (bs.map (byteChar fun _ => none))

end Charset

/-- The text of a body with a content type. -/
def bodyText (t : Charset.Tables) (contentType : Option String) (body : Bytes) : String :=
  match Charset.mark? body with
  | some (c, rest) => c.decode t rest
  | none => (Charset.ofContentType contentType).decode t body

end Http
end PatronGateway
