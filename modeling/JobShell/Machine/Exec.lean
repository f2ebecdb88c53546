/-
Module: JobShell.Machine.Exec
Purpose: Turning a process into a program: which file a name means, and what that file starts.
Main exports: execFile, searchExec
-/
import JobShell.Machine.Process

namespace JobShell.Machine

open Text (Bytes)

/-- The interpreter that the first line of a script names, with at most one argument. -/
structure Interpreter where
  path : Bytes
  argument : Option Bytes
deriving Repr, Inhabited, DecidableEq

/-- A blank in the first line of a script. -/
def isLineBlank (b : UInt8) : Bool :=
  b == 32 || b == 9

/-- How much of a file is looked at for the interpreter it names. -/
def interpreterWindow : Nat := 256

/-- A text up to its first zero byte. -/
def upToZero (bytes : Bytes) : Bytes :=
  bytes.takeWhile (· != 0)

/-- A text without the blanks at its end. -/
def trimEnd (bytes : Bytes) : Bytes :=
  (bytes.reverse.dropWhile isLineBlank).reverse

/-- The part of the window that names the interpreter.  Without a line end the window is taken as a whole,
less its last byte, provided the path is seen to end in it. -/
def interpreterLine? (window : Bytes) : Option Bytes :=
  if window.contains 10 then some (trimEnd (window.takeWhile (· != 10)))
  else
    let start := window.dropWhile isLineBlank
    if start.isEmpty || !start.any (fun b => isLineBlank b || b == 0) then none
    else some (trimEnd window.dropLast)

/-- The interpreter of a file, if its first line names one.  A file that is shorter than the window counts
as filled up with zeros. -/
def interpreter? (bytes : Bytes) : Option Interpreter :=
  let seen := bytes.take interpreterWindow
  match seen ++ List.replicate (interpreterWindow - seen.length) 0 with
  | 35 :: 33 :: window =>
      match interpreterLine? window with
      | none => none
      | some line =>
          match line.dropWhile isLineBlank with
          | [] => none
          | body =>
              let path := body.takeWhile fun b => !isLineBlank b && b != 0
              let rest := body.drop path.length
              let argument := upToZero (rest.dropWhile isLineBlank)
              some ⟨path, if argument.isEmpty then none else some argument⟩
  | _ => none

/-- How many files may stand in line for one program: a program and the scripts that lead to it. -/
def interpreterLimit : Nat := 5

/-- The file of a program to be run.  An empty path leads to the working directory, which cannot be run. -/
def runnable (tree : FileTree) (here : NodeId) (path : Bytes) : Except Errno Node :=
  match if path.isEmpty then .ok here else tree.resolve here path with
  | .error e => .error e
  | .ok id =>
      match tree.node? id with
      | none => .error Errno.noEntry
      | some node =>
          if node.isFile && node.allows .execute then .ok node else .error Errno.denied

/-- The program and the arguments that a file starts, with so many more files that may stand in line. -/
def imageOf (tree : FileTree) (here : NodeId) (left : Nat) (path : Bytes) (arguments : List Bytes) :
    Except Errno (Program × List Bytes) :=
  match runnable tree here path with
  | .error e => .error e
  | .ok node =>
      match node.content with
      | .program program => .ok (program, arguments)
      | _ =>
          match interpreter? node.bytes with
          | none => .error Errno.notExecutable
          | some interpreter =>
              match left with
              | 0 =>
                  match runnable tree here interpreter.path with
                  | .error e => .error e
                  | .ok _ => .error Errno.tooManyLinks
              | left + 1 =>
                  imageOf tree here left interpreter.path
                    (interpreter.path :: interpreter.argument.toList ++ path :: arguments.tail)

/-- The process after it has become a program. -/
def Process.become (p : Process) (program : Program) (arguments : List Bytes) : Process :=
  { p with
    activity := .running program arguments
    dispositions := p.dispositions.afterExec
    pending := [] }

/-- Becomes the program in a file. -/
def execFile (tree : FileTree) (p : Process) (path : Bytes) (arguments : List Bytes) :
    Except Errno Process :=
  match imageOf tree p.directory interpreterLimit path arguments with
  | .error e => .error e
  | .ok (program, arguments') => .ok (p.become program arguments')

/-- Becomes the program in a file; a file of no known format is given to the script interpreter. -/
def execOrInterpret (tree : FileTree) (p : Process) (path : Bytes) (arguments : List Bytes) :
    Except Errno Process :=
  match execFile tree p path arguments with
  | .error reason =>
      if reason = Errno.notExecutable then
        execFile tree p (Text.Utf8.encode "/bin/sh")
          (Text.Utf8.encode "/bin/sh" :: path :: arguments.tail)
      else .error reason
  | .ok p' => .ok p'

/-- Where programs are looked for when the environment does not say. -/
def defaultSearchPath : Bytes := Text.Utf8.encode "/bin:/usr/bin"

/-- The directories of a search path, separated by colons. -/
def searchDirectories : Bytes → List Bytes
  | [] => [[]]
  | b :: rest =>
      if b = 58 then [] :: searchDirectories rest
      else
        match searchDirectories rest with
        | [] => [[b]]
        | directory :: others => (b :: directory) :: others

/-- Reasons for which the search goes on in the next directory. -/
def goesOn (reason : Errno) : Bool :=
  reason = Errno.noEntry || reason = Errno.notDirectory

/-- Tries the directories in order.  A refusal is remembered, and reported if nothing is found later. -/
def tryDirectories (tree : FileTree) (p : Process) (name : Bytes) (arguments : List Bytes)
    (refused : Bool) (last : Errno) : List Bytes → Except Errno Process
  | [] => .error (if refused then Errno.denied else last)
  | directory :: rest =>
      let path := if directory.isEmpty then name else directory ++ FileTree.slash :: name
      match execOrInterpret tree p path arguments with
      | .ok p' => .ok p'
      | .error reason =>
          if reason = Errno.denied then tryDirectories tree p name arguments true reason rest
          else if goesOn reason then tryDirectories tree p name arguments refused reason rest
          else .error reason

/-- Becomes the program of a name.  A name with a slash is a path; any other is looked for in the
directories of the search path. -/
def searchExec (tree : FileTree) (p : Process) (arguments : List Bytes) : Except Errno Process :=
  match arguments with
  | [] => .error Errno.noEntry
  | name :: _ =>
      if name.isEmpty then .error Errno.noEntry
      else if name.contains FileTree.slash then execOrInterpret tree p name arguments
      else if FileTree.nameLimit < name.length then .error Errno.nameTooLong
      else
        tryDirectories tree p name arguments false Errno.noEntry
          (searchDirectories ((p.environment.get? "PATH").getD defaultSearchPath))

end JobShell.Machine
