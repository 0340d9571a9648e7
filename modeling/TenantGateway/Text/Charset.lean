import TenantGateway.Text.Charset.Escapes
import TenantGateway.Text.Charset.Names
import TenantGateway.Text.Charset.Punycode
import TenantGateway.Text.Charset.Shifted
import TenantGateway.Text.Charset.SingleByte
import TenantGateway.Text.Charset.Utf7

/-! # Charsets

Charsets by their names, and the text of bytes in them. What cannot be read becomes the replacement
character, but some charsets refuse. In four of them bytes can spell half of a surrogate pair on its
own: UTF-7, the two kinds of escapes and Punycode. No text has such a half, and the replacement
character is read for it too.
-/
namespace TenantGateway.Text

inductive EasternCharset where
  | eucKr
  | uhc
  | johab
  | eucJp
  | eucJis (edition : Japanese.Edition)
  | shiftJis
  | shiftJis2004 (edition : Japanese.Edition)
  | windows932
  | gb2312
  | gbk
  | gb18030
  | hz
  | big5
  | windows950
  | hongKong
  | shifted (v : Shifted.Variant)
  deriving DecidableEq, Repr

def EasternCharset.decode (bs : Bytes) : EasternCharset → List Char
  | .eucKr => Stretch.decode Korean.eucStep bs
  | .uhc => Stretch.decode (.double Korean.unified?) bs
  | .johab => Stretch.decode (.double Korean.combining?) bs
  | .eucJp => Stretch.decode Japanese.eucStep bs
  | .eucJis edition => Stretch.decode (Japanese.eucJisStep edition) bs
  | .shiftJis => Stretch.decode Japanese.shiftJisStep bs
  | .shiftJis2004 edition => Stretch.decode (Japanese.shiftJis2004Step edition) bs
  | .windows932 => Stretch.decode Japanese.windowsStep bs
  | .gb2312 => Stretch.decode (.double Chinese.gb2312?) bs
  | .gbk => Stretch.decode (.double Chinese.gbk?) bs
  | .gb18030 => Stretch.decode Chinese.gb18030Step bs
  | .hz => Stretch.decodeFrom Chinese.tildeStep false bs
  | .big5 => Stretch.decode (.double Chinese.big5?) bs
  | .windows950 => Stretch.decode (.double Chinese.windows950?) bs
  | .hongKong => Stretch.decode Chinese.hongKongStep bs
  | .shifted v => Shifted.decode v bs

inductive Charset where
  | plain (e : Encoding)
  | marked (e : Encoding)
  | latin1
  | singleByte (row : String)
  | utf7
  | escapes
  | rawEscapes
  | punycode
  | eastern (c : EasternCharset)
  | refusing (reason : String)
  deriving DecidableEq, Repr

inductive CharsetFault where
  | undecodable (u : Undecodable)
  | refused (name reason : String)
  | badName
  deriving DecidableEq, Repr

def CharsetFault.text : CharsetFault → String
  | .undecodable u => u.text
  | .refused name reason =>
    "decoding with '" ++ name ++ "' codec failed (UnicodeError: " ++ reason ++ ")"
  | .badName => "embedded null character"

namespace Charset

def easternNames : List (String × EasternCharset) :=
  [("euc_kr", .eucKr), ("cp949", .uhc), ("johab", .johab), ("euc_jp", .eucJp),
    ("euc_jisx0213", .eucJis .of2000), ("euc_jis_2004", .eucJis .of2004), ("shift_jis", .shiftJis),
    ("shift_jisx0213", .shiftJis2004 .of2000), ("shift_jis_2004", .shiftJis2004 .of2004),
    ("cp932", .windows932), ("gb2312", .gb2312), ("gbk", .gbk), ("gb18030", .gb18030),
    ("hz", .hz), ("big5", .big5), ("cp950", .windows950), ("big5hkscs", .hongKong),
    ("iso2022_kr", .shifted Shifted.korean), ("iso2022_jp", .shifted Shifted.japanese),
    ("iso2022_jp_1", .shifted Shifted.japanese1), ("iso2022_jp_2", .shifted Shifted.japanese2),
    ("iso2022_jp_3", .shifted Shifted.japanese3),
    ("iso2022_jp_2004", .shifted Shifted.japanese2004),
    ("iso2022_jp_ext", .shifted Shifted.japaneseExtended)]

def ofOwnName? (name : String) : Option Charset :=
  match name with
  | "ascii" => some (.plain .ascii)
  | "utf_8" => some (.plain .utf8)
  | "utf_8_sig" => some (.marked .utf8)
  | "utf_16" => some (.marked (.utf16 .little))
  | "utf_16_le" => some (.plain (.utf16 .little))
  | "utf_16_be" => some (.plain (.utf16 .big))
  | "utf_32" => some (.marked (.utf32 .little))
  | "utf_32_le" => some (.plain (.utf32 .little))
  | "utf_32_be" => some (.plain (.utf32 .big))
  | "latin_1" | "iso8859_1" | "charmap" => some .latin1
  | "utf_7" => some .utf7
  | "unicode_escape" => some .escapes
  | "raw_unicode_escape" => some .rawEscapes
  | "punycode" => some .punycode
  | "undefined" => some (.refusing "undefined encoding")
  | "idna" => some (.refusing "Unsupported error handling replace")
  | _ =>
    match easternNames.lookup name with
    | some c => some (.eastern c)
    | none => (SingleByte.rows.lookup name).map .singleByte

def ofName? (name : String) : Option Charset := (CharsetName.find? name).bind ofOwnName?

def decodeMarked (e : Encoding) (bs : Bytes) : List Char :=
  let (e, skip) := (Encoding.ofMark? (fun found => found.kind == e.kind) bs).getD (e, 0)
  e.decodeLossy (bs.drop skip)

def decode (name : String) (bs : Bytes) : Charset → Except CharsetFault (List Char)
  | .plain e => .ok (e.decodeLossy bs)
  | .marked e => .ok (decodeMarked e bs)
  | .latin1 => .ok (bs.map fun b => Char.ofNat b.toNat)
  | .singleByte row => .ok (SingleByte.decode row bs)
  | .utf7 => .ok (Utf7.decode bs)
  | .escapes => .ok (Escapes.decode bs)
  | .rawEscapes => .ok (Escapes.decodeRaw bs)
  | .eastern c => .ok (c.decode bs)
  | .punycode => (Punycode.decode bs).mapError .undecodable
  | .refusing reason => .error (.refused name reason)

/-- The text of bytes in a charset that nobody named. A mark before them names it if they keep to
it; or else they are read as UTF-8. -/
def decodeUnnamed (bs : Bytes) : List Char :=
  let marked := (Encoding.ofMark? (fun _ => true) bs).bind fun (e, skip) =>
    (e.decode? false skip bs).toOption
  marked.getD (Encoding.utf8.decodeLossy bs)

/-- The text of bytes in the charset of a name, if there is one. What goes by no known name is read
as UTF-8. -/
def decodeNamed (name : Option String) (bs : Bytes) : Except CharsetFault String :=
  let text : Except CharsetFault (List Char) :=
    match bs, name with
    | [], _ => .ok []
    | _, none => .ok (decodeUnnamed bs)
    | _, some name =>
      if name.toList.contains (Char.ofNat 0) then .error .badName
      else
        match ofName? name with
        | some charset => charset.decode name bs
        | none => .ok (Encoding.utf8.decodeLossy bs)
  text.map String.ofList

end Charset

end TenantGateway.Text
