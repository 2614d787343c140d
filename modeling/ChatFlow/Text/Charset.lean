import ChatFlow.Text.CharsetTable
import ChatFlow.Text.Wide

/-!
# Character sets by name

`Charset.named?` finds the set that a name means; case does not matter, nor do
the marks between the parts of the name.  `Charset.read` reads bytes in a set.
Bytes that are no character become replacement characters, so that reading
fails in one case only: the set wants to be told the order of the bytes, and
nothing in front of them tells it.
-/

namespace ChatFlow.Text

/-- The ways in which bytes are read as text. -/
inductive Charset where
  | ascii
  /-- Each byte is the character of its number. -/
  | latin
  | utf8
  /-- UTF-8 with a mark in front that is no part of the text. -/
  | utf8Marked
  /-- Units of 16 bits, their bytes in an order that is known or has to be told. -/
  | utf16 (order : Option ByteOrder)
  /-- Units of 32 bits, their bytes in an order that is known or has to be told. -/
  | utf32 (order : Option ByteOrder)
  /-- One byte is one character: those of the bytes from 128 on, or those of all bytes. -/
  | table (chars : String)
  deriving DecidableEq, Repr

/-- The names of the sets that need no table. -/
def plainCharsets : List (List String × Charset) :=
  [(["ascii", "646", "ansi_x3.4_1968", "ansi_x3_4_1968", "ansi_x3.4_1986", "cp367", "csascii",
     "ibm367", "iso646_us", "iso_646.irv_1991", "iso_ir_6", "us", "us_ascii"], .ascii),
   (["latin_1", "8859", "cp819", "csisolatin1", "ibm819", "iso8859", "iso8859_1", "iso_8859_1",
     "iso_8859_1_1987", "iso_ir_100", "l1", "latin", "latin1"], .latin),
   (["utf_8", "u8", "utf", "utf8", "utf8_ucs2", "utf8_ucs4", "cp65001"], .utf8),
   (["utf_8_sig"], .utf8Marked),
   (["utf_16", "u16", "utf16"], .utf16 none),
   (["utf_16_be", "unicodebigunmarked", "utf_16be"], .utf16 (some .highFirst)),
   (["utf_16_le", "unicodelittleunmarked", "utf_16le"], .utf16 (some .lowFirst)),
   (["utf_32", "u32", "utf32"], .utf32 none),
   (["utf_32_be", "utf_32be"], .utf32 (some .highFirst)),
   (["utf_32_le", "utf_32le"], .utf32 (some .lowFirst))]

/-- A name in its plain form: small letters, digits and points, and an underscore for whatever
stands between them. -/
def plainCharsetName : List Char → List Char
  | [] => []
  | c :: rest =>
    let kept := plainCharsetName rest
    if c.isAlphanum || c = '.' then c.toLower :: kept
    else if kept.isEmpty || kept.head? = some '_' then kept
    else '_' :: kept

/-- The set that a name means. -/
def Charset.named? (name : String) : Option Charset :=
  let plain := String.ofList ((plainCharsetName name.toList).dropWhile (· = '_'))
  let found? (names : List String) : Bool := names.contains plain
  match plainCharsets.find? fun e => found? e.1 with
  | some e => some e.2
  | none => (charsetTables.find? fun e => found? e.1).map fun e => .table e.2

/-- One byte in a set with a table. -/
def tableChar (chars : String) (byte : Nat) : Char :=
  if chars.length = 256 then chars.toList.getD byte replacement
  else if byte < 128 then Char.ofNat byte
  else chars.toList.getD (byte - 128) replacement

/-- The bytes without the mark of UTF-8 in front. -/
def dropMark : List Nat → List Nat
  | 0xEF :: 0xBB :: 0xBF :: rest => rest
  | bytes => bytes

/-- The text that bytes are in a set; none if the order of the bytes has to be told and is not. -/
def Charset.read : Charset → List Nat → Option String
  | ascii, bytes =>
    some (String.ofList (bytes.map fun b => if b < 128 then Char.ofNat b else replacement))
  | latin, bytes => some (String.ofList (bytes.map Char.ofNat))
  | utf8, bytes => some (ofBytes bytes)
  | utf8Marked, bytes => some (ofBytes (dropMark bytes))
  | utf16 (some order), bytes => some (withReplacements (readUtf16 order bytes))
  | utf32 (some order), bytes => some (withReplacements (readUtf32 order bytes))
  | utf16 none, bytes =>
    match bytes with
    | 0xFE :: 0xFF :: rest => some (withReplacements (readUtf16 .highFirst rest))
    | 0xFF :: 0xFE :: rest => some (withReplacements (readUtf16 .lowFirst rest))
    | _ :: _ :: _ => none
    | _ => some (withReplacements (readUtf16 .lowFirst bytes))
  | utf32 none, bytes =>
    match bytes with
    | 0 :: 0 :: 0xFE :: 0xFF :: rest => some (withReplacements (readUtf32 .highFirst rest))
    | 0xFF :: 0xFE :: 0 :: 0 :: rest => some (withReplacements (readUtf32 .lowFirst rest))
    | _ :: _ :: _ :: _ :: _ => none
    | _ => some (withReplacements (readUtf32 .lowFirst bytes))
  | table chars, bytes => some (String.ofList (bytes.map (tableChar chars)))

/-- Neither case nor the mark between the parts of a name matters. -/
example : ["UTF-8", "utf8", " utf 8 "].map Charset.named? = List.replicate 3 (some .utf8) := by
  decide +kernel

end ChatFlow.Text
