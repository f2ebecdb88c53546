/-
Module: JobShell.Machine.Characters
Purpose: Bytes seen as characters.  Programs that treat a text byte by byte see each byte as the character
  with its code, which is below 256.
Main exports: charsOf, bytesOf, bytesOfText, charsOfText
-/
import JobShell.Text.Utf8

namespace JobShell.Machine

open Text (Bytes)

/-- The characters that stand for bytes. -/
def charsOf (bytes : Bytes) : List Char :=
  bytes.map fun b => Char.ofNat b.toNat

/-- The bytes that characters stand for. -/
def bytesOf (chars : List Char) : Bytes :=
  chars.map fun c => c.toNat.toUInt8

/-- The bytes of a text. -/
def bytesOfText (text : String) : Bytes :=
  Text.Utf8.encode text

/-- The characters that stand for the bytes of a text. -/
def charsOfText (text : String) : List Char :=
  charsOf (bytesOfText text)

end JobShell.Machine
