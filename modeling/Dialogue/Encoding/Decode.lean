import Dialogue.Config
import Dialogue.Encoding.Codec
import Dialogue.Encoding.Remedy
import Dialogue.Report

/-!
# Decoding scripts

A script that comes as bytes is decoded once, before it is read. The codec is the one asked for or,
if none is, the configured one; an empty name asks for none. What is done about flawed bytes is
configured too.

A name is looked up only where it matters. No bytes are the empty text under any name of a codec,
known or not, and the name of the remedy is of no interest as long as no piece is flawed. Only the
null character is looked for in both names at once.
-/

namespace Dialogue

/-- **A script that could not be decoded**, as it is reported: the codec under the name it was asked
for by, the offset of the first byte without a character, and why there is none. -/
structure Undecodable where
  /-- The name of the codec. -/
  codec : String
  /-- The offset of the flawed bytes. -/
  offset : Int
  /-- What is wrong with them. -/
  reason : String
deriving DecidableEq, Repr

/-- The report about a script that could not be decoded. No place in the script is known. -/
def Undecodable.report (u : Undecodable) : Except Unwritable Report := do
  let offset ← Decimal.write u.offset
  return {
    category := .undecodable
    message := "Cannot decode script as " ++ u.codec ++ " at byte " ++ offset ++ ": " ++ u.reason }

/-- Why there is no decoded text. -/
inductive Refusal where
  /-- The name of the codec or of the remedy holds the null character. -/
  | nullInName
  /-- The name of the codec or of the remedy is unknown. -/
  | unknownName
  /-- The remedy is none for bytes. -/
  | unsuitable
  /-- The bytes are decoded to surrogates, and these are no text. -/
  | surrogates
  /-- The bytes are not a text. -/
  | undecodable (u : Undecodable)
deriving DecidableEq, Repr

/-- A breach as the refusal of what was asked to be decoded with the codec of this name. -/
def Refusal.ofBreach (name : String) : Breach → Refusal
  | .refused offset flaw => .undecodable ⟨name, offset, flaw.message⟩
  | .surrogates => .surrogates
  | .unsuitable => .unsuitable

/-- **How a codec reads bytes that a remedy is applied to.** Surrogates are looked for only if they
may pass. -/
def Codec.decoderFor (c : Codec) (remedy : Remedy) : Decoder :=
  match c, remedy with
  | .utf8, .passSurrogates => .utf8Surrogates
  | c, _ => c.decoder

namespace Config

/-- The name of the codec to use, given the name that was asked for. -/
def codecName (c : Config) : Option String → String
  | some name => if name = "" then c.encoding else name
  | none => c.encoding

/-- The note that is made before bytes are decoded. -/
def decodingNote (c : Config) (bytes : Bytes) (encoding : Option String) : Note :=
  .decoding bytes.length (c.codecName encoding)

/-- **Decoding a script.** -/
def decode (c : Config) (bytes : Bytes) (encoding : Option String) : Except Refusal Text :=
  let name := c.codecName encoding
  if holdsNull name || holdsNull c.remedy then .error .nullInName
  else if bytes.isEmpty then .ok []
  else
    match Codec.ofName? name with
    | none => .error .unknownName
    | some codec =>
      match Remedy.ofName? c.remedy with
      | some remedy =>
        (mend remedy 0 ((codec.decoderFor remedy).pieces bytes)).mapError (.ofBreach name)
      | none =>
        -- An unknown remedy is missed only where there is a flaw.
        (mend .refuse 0 (codec.decoder.pieces bytes)).mapError fun _ => .unknownName

end Config

end Dialogue
