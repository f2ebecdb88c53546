/-
Module: JobShell.Machine.Utility.Paths
Purpose: Parts of paths as programs take them apart.
Main exports: underPath, baseName, lastPart, holderPath, parentPath, parentPaths
-/
import JobShell.Machine.Utility.Report

namespace JobShell.Machine.Utility

open Text (Bytes)

/-- A path under a directory. -/
def underPath (directory name : Bytes) : Bytes :=
  if directory.getLast? = some FileTree.slash then directory ++ name
  else directory ++ FileTree.slash :: name

/-- What follows the last slash of a path. -/
def baseName (path : Bytes) : Bytes :=
  (path.reverse.takeWhile (· != FileTree.slash)).reverse

/-- The last part of a path, slashes at its end not counted. -/
def lastPart (path : Bytes) : Bytes :=
  match FileTree.dropTrailingSlashes path with
  | [b] => [b]
  | trimmed => baseName trimmed

/-- Whether the last part of a path stands for a directory itself or the one above it. -/
def endsInDots (path : Bytes) : Bool :=
  match ((FileTree.pieces path).filter (!·.isEmpty)).getLast? with
  | some part => part = [FileTree.dot] || part = [FileTree.dot, FileTree.dot]
  | none => false

/-- The path of the directory that holds what a path leads to. -/
def holderPath (path : Bytes) : Bytes :=
  let trimmed := FileTree.dropTrailingSlashes path
  match (trimmed.reverse.dropWhile (· != FileTree.slash)).reverse with
  | [] => [FileTree.dot]
  | front => FileTree.dropTrailingSlashes front

/-- The directory part of a path, if it has one. -/
def parentPath (path : Bytes) : Option Bytes :=
  let trimmed := FileTree.dropTrailingSlashes path
  let front := (trimmed.reverse.dropWhile (· != FileTree.slash)).reverse
  if front.isEmpty then none
  else
    let parent := FileTree.dropTrailingSlashes front
    if parent = [FileTree.slash] then none else some parent

/-- The paths of the directories above a path, as far as the path names them, at most so many. -/
def parentPaths : Nat → Bytes → List Bytes
  | 0, _ => []
  | fuel + 1, path =>
      match parentPath path with
      | none => []
      | some parent => parent :: parentPaths fuel parent

end JobShell.Machine.Utility
