/-
Module: JobShell.Text.Utf8
Purpose: Bytes read as text.  `decode` accepts exactly the well-formed byte sequences; `decodeLossy`
  puts one replacement character for each maximal part of a sequence that cannot be continued.
Main exports: Bytes, encode, decode, decodeLossy
-/
namespace JobShell.Text

/-- Contents of files, arguments of programs and names of files. -/
abbrev Bytes := List UInt8

namespace Utf8

/-- The bytes of a text. -/
def encode (text : String) : Bytes :=
  text.toUTF8.toList

/-- A continuation byte. -/
def isContinuation (b : UInt8) : Bool :=
  0x80 ≤ b && b ≤ 0xBF

/-- The six payload bits of a continuation byte. -/
def payload (b : UInt8) : Nat :=
  b.toNat % 64

/-- The range that the second byte of a sequence must lie in, given the first: it rules out over-long
forms, surrogates and code points above the last one. -/
def secondRange (first : UInt8) : UInt8 × UInt8 :=
  if first = 0xE0 then (0xA0, 0xBF)
  else if first = 0xED then (0x80, 0x9F)
  else if first = 0xF0 then (0x90, 0xBF)
  else if first = 0xF4 then (0x80, 0x8F)
  else (0x80, 0xBF)

/-- How many bytes a sequence has, given the first; zero for a byte that starts none. -/
def sequenceLength (first : UInt8) : Nat :=
  if first < 0x80 then 1
  else if 0xC2 ≤ first && first ≤ 0xDF then 2
  else if 0xE0 ≤ first && first ≤ 0xEF then 3
  else if 0xF0 ≤ first && first ≤ 0xF4 then 4
  else 0

/-- Whether `second` may follow `first`. -/
def fits (first second : UInt8) : Bool :=
  (secondRange first).1 ≤ second && second ≤ (secondRange first).2

/-- What stands at the front of a byte sequence: a character of a given length, or a malformed part of
a given length, never zero. -/
inductive Front where
  | character (c : Char) (length : Nat)
  | malformed (length : Nat)
deriving Repr, DecidableEq

/-- Reads the front of a non-empty byte sequence. -/
def front (first : UInt8) (rest : Bytes) : Front :=
  match sequenceLength first, rest with
  | 1, _ => .character (Char.ofNat first.toNat) 1
  | 2, b :: _ =>
      if fits first b then .character (Char.ofNat (first.toNat % 32 * 64 + payload b)) 2
      else .malformed 1
  | 3, b :: tail =>
      if fits first b then
        match tail with
        | c :: _ =>
            if isContinuation c then
              .character (Char.ofNat ((first.toNat % 16 * 64 + payload b) * 64 + payload c)) 3
            else .malformed 2
        | [] => .malformed 2
      else .malformed 1
  | 4, b :: tail =>
      if fits first b then
        match tail with
        | c :: tail' =>
            if isContinuation c then
              match tail' with
              | d :: _ =>
                  if isContinuation d then
                    .character (Char.ofNat
                      (((first.toNat % 8 * 64 + payload b) * 64 + payload c) * 64 + payload d)) 4
                  else .malformed 3
              | [] => .malformed 3
            else .malformed 2
        | [] => .malformed 2
      else .malformed 1
  | _, _ => .malformed 1

/-- Decodes with at most `fuel` fronts; `none` at the first malformed part. -/
def decodeChars : Nat → Bytes → Option (List Char)
  | _, [] => some []
  | 0, _ :: _ => none
  | fuel + 1, first :: rest =>
      match front first rest with
      | .character c length => (decodeChars fuel (rest.drop (length - 1))).map (c :: ·)
      | .malformed _ => none

/-- The text of a well-formed byte sequence. -/
def decode (bytes : Bytes) : Option String :=
  (decodeChars bytes.length bytes).map String.ofList

/-- Decodes with at most `fuel` fronts, a replacement character for each malformed part. -/
def decodeCharsLossy : Nat → Bytes → List Char
  | _, [] => []
  | 0, _ :: _ => []
  | fuel + 1, first :: rest =>
      match front first rest with
      | .character c length => c :: decodeCharsLossy fuel (rest.drop (length - 1))
      | .malformed length => '\uFFFD' :: decodeCharsLossy fuel (rest.drop (length - 1))

/-- The text of any byte sequence, with replacement characters where it is malformed. -/
def decodeLossy (bytes : Bytes) : String :=
  String.ofList (decodeCharsLossy bytes.length bytes)

end Utf8

end JobShell.Text
