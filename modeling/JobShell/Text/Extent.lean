/-
Module: JobShell.Text.Extent
Purpose: Parts of a text by their extent in bytes.
Main exports: byteSize, dropBytes, takeBytes, between
-/
namespace JobShell.Text

/-- The number of bytes of a text. -/
def byteSize : List Char → Nat
  | [] => 0
  | c :: rest => c.utf8Size + byteSize rest

/-- Drops characters until a number of bytes is reached. -/
def dropBytes : Nat → List Char → List Char
  | 0, text => text
  | _, [] => []
  | n + 1, c :: rest => dropBytes (n + 1 - c.utf8Size) rest
termination_by _ text => text.length

/-- Takes characters until a number of bytes is reached. -/
def takeBytes : Nat → List Char → List Char
  | 0, _ => []
  | _, [] => []
  | n + 1, c :: rest => c :: takeBytes (n + 1 - c.utf8Size) rest
termination_by _ text => text.length

/-- The part of a text from one position to another, both counted in bytes. -/
def between (text : List Char) (start stop : Nat) : List Char :=
  takeBytes (stop - start) (dropBytes start text)

end JobShell.Text
