/-
Module: JobShell.Machine.Utility.VersionOrder
Purpose: The order of names that carry version numbers: stretches of digits count as numbers, a tilde comes
  before everything, and suffixes count only where the rest is the same.
Main exports: compareVersions
-/

namespace JobShell.Machine.Utility

/-- The rank of what stands at a place: the end of a name, a digit, a letter, or something else. -/
def versionRank : List Char → Int
  | [] => -1
  | c :: _ =>
      if c.isDigit then 0
      else if c.isAlpha then c.toNat
      else if c = '~' then -2
      else (c.toNat : Int) + 256

/-- Whether a name goes on with something other than a digit. -/
def goesOnWithoutDigit : List Char → Bool
  | [] => false
  | c :: _ => !c.isDigit

/-- Compares two names up to the next digit of both of them. -/
def compareUpToDigits : List Char → List Char → Ordering × List Char × List Char
  | [], [] => (.eq, [], [])
  | [], b =>
      if goesOnWithoutDigit b then (compare (versionRank []) (versionRank b), [], b) else (.eq, [], b)
  | a, [] =>
      if goesOnWithoutDigit a then (compare (versionRank a) (versionRank []), a, []) else (.eq, a, [])
  | x :: a, y :: b =>
      if x.isDigit && y.isDigit then (.eq, x :: a, y :: b)
      else
        match compare (versionRank (x :: a)) (versionRank (y :: b)) with
        | .eq => compareUpToDigits a b
        | order => (order, x :: a, y :: b)

/-- Compares the numbers that two texts of digits write. -/
def compareDigits (a b : List Char) : Ordering :=
  let short (digits : List Char) : List Char := digits.dropWhile (· == '0')
  match compare (short a).length (short b).length with
  | .eq => compare ((short a).map Char.toNat) ((short b).map Char.toNat)
  | order => order

/-- Compares two names stretch by stretch, at most so many of them. -/
def compareVersionParts : Nat → List Char → List Char → Ordering
  | 0, _, _ => .eq
  | fuel + 1, a, b =>
      if a.isEmpty && b.isEmpty then .eq
      else
        match compareUpToDigits a b with
        | (.eq, a', b') =>
            match compareDigits (a'.takeWhile Char.isDigit) (b'.takeWhile Char.isDigit) with
            | .eq => compareVersionParts fuel (a'.dropWhile Char.isDigit) (b'.dropWhile Char.isDigit)
            | order => order
        | (order, _, _) => order

/-- What follows suffixes at the start of a text: full stops with a letter or a tilde after them, and then
letters, digits and tildes; at most so many of them. -/
def dropSuffixes : Nat → List Char → List Char
  | 0, text => text
  | fuel + 1, '.' :: c :: rest =>
      if c.isAlpha || c = '~' then
        dropSuffixes fuel (rest.dropWhile fun d => d.isAlphanum || d == '~')
      else '.' :: c :: rest
  | _, text => text

/-- How much of a name is left when the suffixes at its end are cut off. -/
def stemLength : Nat → Nat → List Char → Nat
  | 0, seen, _ => seen
  | fuel + 1, seen, text =>
      match dropSuffixes text.length text with
      | [] => seen
      | _ :: rest => stemLength fuel (seen + (text.length - rest.length)) rest

/-- A name without the suffixes at its end. -/
def stemOf (name : List Char) : List Char :=
  name.take (stemLength (name.length + 1) 0 name)

/-- Compares two names without a look at special names. -/
def compareNames (a b : List Char) : Ordering :=
  let fuel := a.length + b.length + 1
  match compareVersionParts fuel (stemOf a) (stemOf b) with
  | .eq => compareVersionParts fuel a b
  | order => order

/-- The rank of special names: nothing, a full stop, two full stops, names that start with a full stop, and
all others. -/
def nameRank (name : List Char) : Nat :=
  match name with
  | [] => 0
  | ['.'] => 1
  | ['.', '.'] => 2
  | '.' :: _ => 3
  | _ => 4

/-- The order of two names that carry version numbers. -/
def compareVersions (a b : List Char) : Ordering :=
  match compare (nameRank a) (nameRank b) with
  | .eq => if nameRank a < 3 then .eq else compareNames a b
  | order => order

end JobShell.Machine.Utility
