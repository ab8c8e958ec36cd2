import Dialogue.Encoding.EucJp
import Dialogue.Encoding.ShiftJis
import Dialogue.Encoding.Utf8

/-!
# Codecs

Scripts come in one of six encodings: ASCII, which has a character for every byte below 128;
Latin-1, where every byte is a code point; UTF-8; and three encodings of Japanese.

A codec is asked for by name. In a name only ASCII letters, digits and dots count, without regard to
case. Whatever else stands between two of them separates words, and all separators are the same.
Each codec has a name of its own and answers to a number of other names; in these a dot may also
stand for a separator. A name that no codec answers to is unknown, and so is one that holds the null
character.
-/

namespace Dialogue

/-! ### Encodings of one byte -/

/-- Reading ASCII. -/
def Decoder.ascii : Decoder := fun b _ =>
  if b.toNat < 0x80 then .char 0 b.toNat else .flaw 0 .notAscii

/-- Reading Latin-1. -/
def Decoder.latin1 : Decoder := fun b _ =>
  .char 0 b.toNat

/-! ### Names -/

/-- Whether a name holds the null character, which no name may. -/
def holdsNull (name : String) : Bool :=
  name.toList.contains '\x00'

/-- **The codecs.** -/
inductive Codec where
  /-- ASCII. -/
  | ascii
  /-- Latin-1. -/
  | latin1
  /-- UTF-8. -/
  | utf8
  /-- Shift-JIS with the standard set. -/
  | shiftJis
  /-- Shift-JIS with the vendor set. -/
  | vendorJis
  /-- The extended Unix code for Japanese. -/
  | eucJp
deriving DecidableEq, Repr

namespace Codec

/-- All codecs. -/
def all : List Codec :=
  [ascii, latin1, utf8, shiftJis, vendorJis, eucJp]

/-- The name of a codec. -/
def name : Codec → String
  | ascii => "ascii"
  | latin1 => "latin_1"
  | utf8 => "utf_8"
  | shiftJis => "shift_jis"
  | vendorJis => "cp932"
  | eucJp => "euc_jp"

/-- The other names that a codec answers to. -/
def aliases : Codec → List String
  | ascii =>
    ["646", "ansi_x3.4_1968", "ansi_x3.4_1986", "ansi_x3_4_1968", "cp367", "csascii", "ibm367",
      "iso646_us", "iso_646.irv_1991", "iso_ir_6", "us", "us_ascii"]
  | latin1 =>
    ["8859", "cp819", "csisolatin1", "ibm819", "iso8859", "iso8859_1", "iso_8859_1",
      "iso_8859_1_1987", "iso_ir_100", "l1", "latin", "latin1"]
  | utf8 => ["cp65001", "u8", "utf", "utf8", "utf8_ucs2", "utf8_ucs4"]
  | shiftJis => ["csshiftjis", "s_jis", "shiftjis", "sjis", "x_mac_japanese"]
  | vendorJis => ["932", "ms932", "ms_kanji", "mskanji"]
  | eucJp => ["eucjp", "u_jis", "ujis"]

/-- Whether a character counts in a name. -/
def countsInName (c : Char) : Bool :=
  c.isAlphanum || c == '.'

/-- The words of a name, where `gap` tells whether a separator was passed since the last character
that counts. -/
def joinWords (gap : Bool) : Text → Text
  | [] => []
  | c :: t =>
    if countsInName c then
      (if gap then ['_', c.toLower] else [c.toLower]) ++ joinWords false t
    else joinWords true t

/-- A name without what makes no difference in it. -/
def normalName (name : String) : Text :=
  joinWords false (name.toList.dropWhile (!countsInName ·))

/-- Whether a codec answers to a name in normal form. -/
def answersTo (c : Codec) (name : Text) : Bool :=
  name == c.name.toList || c.aliases.any fun a =>
    name == a.toList || (name.map fun d => if d = '.' then '_' else d) == a.toList

/-- **The codec of a name.** -/
def ofName? (name : String) : Option Codec :=
  if holdsNull name then none else all.find? (·.answersTo (normalName name))

/-- How a codec reads bytes. -/
def decoder : Codec → Decoder
  | ascii => .ascii
  | latin1 => .latin1
  | utf8 => .utf8
  | shiftJis => .shiftJis
  | vendorJis => .vendorJis
  | eucJp => .eucJp

end Codec

end Dialogue
