/-
Module: JobShell.Machine.Script.Globbing
Purpose: The files that a pattern describes.
Main exports: pathsOf
-/
import JobShell.Machine.Characters
import JobShell.Machine.Script.Pattern
import JobShell.Machine.Script.State

namespace JobShell.Machine.Script

/-- Whether the set that may begin behind an opening bracket has an end before the next slash. -/
def closesSet : Nat → List Char → Bool
  | 0, _ => false
  | fuel + 1, text =>
      let next := match text with
        | '\\' :: rest => rest
        | _ => text
      match next with
      | [] => false
      | '/' :: _ => false
      | _ :: rest =>
          match rest with
          | ']' :: _ => true
          | _ => closesSet fuel rest

/-- The parts of a pattern for paths: what stands before the first part that can describe several names, that
part, and what follows it behind a slash.  With no such part the whole is in front. -/
structure PathPattern where
  front : List Char
  varying : Option (List Char)
  rest : Option (List Char)
deriving Repr, Inhabited, DecidableEq

/-- Splits a pattern for paths, in at most so many steps: `front` and `part` hold what has been read, last
character first, and `varies` tells whether the part can describe several names. -/
def splitPathPattern : Nat → List Char → List Char → Bool → List Char → PathPattern
  | 0, front, part, _, text => ⟨(part ++ front).reverse ++ text, none, none⟩
  | _ + 1, front, part, varies, [] =>
      if varies then ⟨front.reverse, some part.reverse, none⟩
      else ⟨(part ++ front).reverse, none, none⟩
  | fuel + 1, front, part, varies, c :: rest =>
      let slash (read more : List Char) : PathPattern :=
        if varies then ⟨front.reverse, some part.reverse, some more⟩
        else splitPathPattern fuel (read ++ part ++ front) [] false more
      if c = '*' || c = '?' then splitPathPattern fuel front (c :: part) true rest
      else if c = '[' then
        let inside := if rest.head? = some '!' then rest.tail else rest
        splitPathPattern fuel front (c :: part) (varies || closesSet (rest.length + 1) inside) rest
      else
        match c, rest with
        | '\\', '/' :: more => slash ['/', '\\'] more
        | '\\', d :: more => splitPathPattern fuel front (d :: '\\' :: part) varies more
        | '/', _ => slash ['/'] rest
        | _, _ => splitPathPattern fuel front (c :: part) varies rest

/-- A text without the backslashes that take the meaning from characters. -/
def withoutBackslashes : List Char → List Char
  | '\\' :: c :: rest => c :: withoutBackslashes rest
  | c :: rest => c :: withoutBackslashes rest
  | [] => []

/-- The names in a directory, among them those of the directory itself and the one above it. -/
def namesIn (w : Surroundings) (path : List Char) : List (List Char) :=
  let directory := if path.isEmpty then "." else String.ofList path
  match w.tree.resolve w.here (if path.isEmpty then bytesOfText directory else bytesOf path) with
  | .error _ => []
  | .ok id =>
      if w.tree.isDirectory id && w.tree.allows id .read then
        ['.'] :: ['.', '.'] :: (w.tree.entries id).map fun entry => charsOf entry.1
      else []

/-- Whether something stands at a path. -/
def isThere (w : Surroundings) (path : List Char) : Bool :=
  match w.tree.locate w.here (bytesOf path) false with
  | .ok location => location.node?.isSome
  | .error _ => false

/-- The paths that a pattern describes behind a path that has been found, in at most so many steps down. -/
def pathsBehind (w : Surroundings) : Nat → List Char → List Char → List (List Char)
  | 0, _, _ => []
  | fuel + 1, found, pattern =>
      let parts := splitPathPattern (pattern.length + 1) [] [] false pattern
      let path := found ++ withoutBackslashes parts.front
      match parts.varying with
      | none => if found.isEmpty || !isThere w path then [] else [path]
      | some varying =>
          let hidden := (withoutBackslashes varying).head? == some '.'
          let glyphs := Pattern.read varying
          let fits (name : List Char) : Bool :=
            (hidden || name.head? != some '.') && glyphs.accepts name
          let names := (namesIn w path).filter fits
          match parts.rest with
          | none => names.map (path ++ ·)
          | some rest => names.flatMap fun name => pathsBehind w fuel (path ++ name ++ ['/']) rest

/-- The paths that a pattern describes, in order. -/
def pathsOf (w : Surroundings) (pattern : List Char) : List (List Char) :=
  (pathsBehind w (pattern.length + 1) [] pattern).mergeSort precedes

end JobShell.Machine.Script
