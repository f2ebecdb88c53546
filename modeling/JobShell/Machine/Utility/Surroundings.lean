/-
Module: JobShell.Machine.Utility.Surroundings
Purpose: The programs that show or change what a program finds around it: its environment, its working
  directory, and the time.
Main exports: Outcome, runEnv, runPwd, runSleep
-/
import JobShell.Machine.Exec
import JobShell.Machine.Utility.FloatValue
import JobShell.Machine.Utility.Report
import JobShell.Machine.Utility.SplitString

namespace JobShell.Machine.Utility

open Text (Bytes)

/-- What comes of a program: it ends, or its process goes on as something else. -/
inductive Outcome where
  | ends (finished : Finished)
  | goesOn (task : Task)

/-!
## The environment
-/

/-- What the program for environments is asked to do. -/
structure EnvPlan where
  clears : Bool := false
  unset : List Bytes := []
  directory : Option Bytes := none
  zero : Bool := false
  tells : Bool := false
deriving Repr, Inhabited, DecidableEq

/-- The status with which the program for environments gives up. -/
def envFailure : Nat := 125

/-- The options of the program for environments. -/
def envTable : OptionTable :=
  { letters := plainLetters "iv0" ++ letterWithArgument "CSu"
    names :=
      [⟨"ignore-environment", "i", .none⟩, ⟨"null", "0", .none⟩, ⟨"unset", "u", .required⟩,
        ⟨"chdir", "C", .required⟩, ⟨"default-signal", "default", .optional⟩,
        ⟨"ignore-signal", "ignore", .optional⟩, ⟨"block-signal", "block", .optional⟩,
        ⟨"list-signal-handling", "list", .none⟩, ⟨"debug", "v", .none⟩,
        ⟨"split-string", "S", .required⟩, ⟨"help", "help", .none⟩, ⟨"version", "version", .none⟩]
    endsAtOperand := true }

/-- Tells what is being done, if that is wanted. -/
def EnvPlan.tell (e : EnvPlan) (t : Task) (text : Bytes) : Task :=
  if e.tells then t.err (text ++ [10]) else t

/-- Tells how a text was taken apart. -/
def tellSplit (e : EnvPlan) (t : Task) (text : List Char) (words : List (List Char)) : Task :=
  match words with
  | [] => t
  | first :: others =>
      let told :=
        e.tell (e.tell t (bytesOfText "split -S:  " ++ inQuotes (bytesOf text)))
          (bytesOfText " into:    " ++ inQuotes (bytesOf first))
      others.foldl (fun t word => e.tell t (bytesOfText "     &    " ++ inQuotes (bytesOf word))) told

/-- Ends the program for environments with a complaint. -/
def envRefuses (t : Task) (name text : Bytes) : Finished :=
  (complain t name text, envFailure)

/-- Complains about a word that cannot be read.  A blank among the letters of options comes from the first
line of a script. -/
def envMistake (t : Task) (name : Bytes) (text : List Char) : Finished :=
  let told := complain t name (bytesOf text)
  let blank := [' ', '\t', '\n', '\x0b', '\x0c', '\r'].any fun c =>
    text == "invalid option -- '".toList ++ [c, '\'']
  let hinted :=
    if blank then
      complain told name (bytesOfText "use -[v]S to pass options in shebang lines")
    else told
  (pointToHelp hinted name, envFailure)

/-- A reading of options that goes on with other words. -/
abbrev EnvReading := Except Finished (EnvPlan × Task × List Bytes)

/-- Takes in an option; the words that follow may change by it. -/
def takeEnvOption (name : Bytes) (e : EnvPlan) (t : Task) (rest : List Bytes) (key : String)
    (argument : Option (List Char)) : EnvReading :=
  let word := argument.getD []
  match key with
  | "i" => .ok ({ e with clears := true }, t, rest)
  | "0" => .ok ({ e with zero := true }, t, rest)
  | "v" => .ok ({ e with tells := true }, t, rest)
  | "u" => .ok ({ e with unset := e.unset ++ [bytesOf word] }, t, rest)
  | "C" => .ok ({ e with directory := some (bytesOf word) }, t, rest)
  | "S" =>
      let value (variable_ : List Char) : Option (List Char) :=
        (t.process.environment.get? (String.ofList variable_)).map charsOf
      match splitString value word with
      | .error fault => .error (envRefuses t name (bytesOf fault.message))
      | .ok words => .ok (e, tellSplit e t word words, words.map bytesOf ++ rest)
  | _ =>
      match (t.manuals .env).answer? name key with
      | some text => .error (t.print text, 0)
      | none => .ok (e, t, rest)

/-- Takes in what has been seen in a word. -/
def takeEnvSightings (name : Bytes) : List Sighting → EnvPlan → Task → List Bytes → EnvReading
  | [], e, t, rest => .ok (e, t, rest)
  | .mistake text :: _, _, t, _ => .error (envMistake t name text)
  | .option key argument :: more, e, t, rest =>
      match takeEnvOption name e t rest key argument with
      | .error finished => .error finished
      | .ok (e', t', rest') => takeEnvSightings name more e' t' rest'

/-- Reads options up to the first word that is none, at most so many words. -/
def readEnvOptions (name : Bytes) : Nat → EnvPlan → Task → List Bytes → EnvReading
  | 0, e, t, words => .ok (e, t, words)
  | _, e, t, [] => .ok (e, t, [])
  | fuel + 1, e, t, word :: rest =>
      let next := rest.head?.map charsOf
      let go (seen : List Sighting) (used : Bool) : EnvReading :=
        match takeEnvSightings name seen e t (rest.drop (if used then 1 else 0)) with
        | .error finished => .error finished
        | .ok (e', t', rest') => readEnvOptions name fuel e' t' rest'
      match charsOf word with
      | ['-', '-'] => .ok (e, t, rest)
      | '-' :: '-' :: text =>
          let (seen, used) := envTable.scanName next text
          go [seen] used
      | '-' :: c :: letters =>
          let (seen, used) := envTable.scanLetters next false (c :: letters)
          go seen used
      | _ => .ok (e, t, word :: rest)

/-- How many words are read at most for options. -/
def envWordLimit : Nat := 10000

/-- Takes variables out of an environment. -/
def unsetVariables (name : Bytes) (e : EnvPlan) :
    List Bytes → Task → Environment → Except Finished (Task × Environment)
  | [], t, env => .ok (t, env)
  | variable_ :: rest, t, env =>
      let told := e.tell t (bytesOfText "unset:    " ++ variable_)
      if variable_.isEmpty || variable_.contains 61 then
        .error (envRefuses told name
          (because (bytesOfText "cannot unset " ++ inQuotes variable_) Errno.invalid))
      else unsetVariables name e rest told (env.unset (Text.Utf8.decodeLossy variable_))

/-- Carries out the assignments in front of a command and gives the command. -/
def takeAssignments (e : EnvPlan) : Task → Environment → List Bytes → Task × Environment × List Bytes
  | t, env, [] => (t, env, [])
  | t, env, word :: rest =>
      let name := word.takeWhile (· != 61)
      match word.drop name.length with
      | _ :: value =>
          takeAssignments e (e.tell t (bytesOfText "setenv:   " ++ word))
            (env.set (Text.Utf8.decodeLossy name) value) rest
      | [] => (t, env, word :: rest)

/-- Tells which command is about to run. -/
def tellCommand (e : EnvPlan) (t : Task) (command : List Bytes) : Task :=
  command.zipIdx.foldl (fun t entry =>
      e.tell t (bytesOfText s!"   arg[{entry.2}]= " ++ inQuotes entry.1))
    (e.tell t (bytesOfText "executing: " ++ command.headD []))

/-- Goes to the directory that is asked for. -/
def enterDirectory (name : Bytes) (e : EnvPlan) (t : Task) : Except Finished Task :=
  match e.directory with
  | none => .ok t
  | some path =>
      let told := e.tell t (bytesOfText "chdir:    " ++ shellQuoted path)
      let refuse (reason : Errno) : Except Finished Task :=
        .error (envRefuses told name
          (because (bytesOfText "cannot change directory to " ++ shellQuoted path) reason))
      match told.resolve path with
      | .error reason => refuse reason
      | .ok id =>
          if !told.disk.tree.isDirectory id then refuse Errno.notDirectory
          else if !told.disk.tree.allows id .execute then refuse Errno.denied
          else .ok { told with process := { told.process with directory := id } }

/-- Runs a command in an environment. -/
def runInEnvironment (name : Bytes) (e : EnvPlan) (t : Task) (env : Environment)
    (command : List Bytes) : Outcome :=
  match enterDirectory name e t with
  | .error finished => .ends finished
  | .ok entered =>
      let told := tellCommand e entered command
      match searchExec told.disk.tree { told.process with environment := env } command with
      | .ok p => .goesOn { told with process := p }
      | .error reason =>
          let program := command.headD []
          let complained := complain told name (because (inQuotes program) reason)
          if reason ≠ Errno.noEntry then .ends (complained, 126)
          else if program.contains 32 then
            .ends (complain complained name
              (bytesOfText "use -[v]S to pass options in shebang lines"), 127)
          else .ends (complained, 127)

/-- Runs a command in a changed environment, or shows the environment. -/
def runEnv (name : Bytes) (arguments : List Bytes) (t : Task) : Outcome :=
  match readEnvOptions name envWordLimit {} t arguments with
  | .error finished => .ends (concluded name envFailure finished)
  | .ok (e, t, words) =>
      let (e, words) := match words with
        | [45] :: rest => ({ e with clears := true }, rest)
        | _ => (e, words)
      let start : Except Finished (Task × Environment) :=
        if e.clears then .ok (e.tell t (bytesOfText "cleaning environ"), [])
        else unsetVariables name e e.unset t t.process.environment
      match start with
      | .error finished => .ends finished
      | .ok (t, env) =>
          match takeAssignments e t env words with
          | (t, env, []) =>
              if e.directory.isSome then
                .ends (complainUsage t name
                  (bytesOfText "must specify command with --chdir (-C)"), envFailure)
              else
                let ending : UInt8 := if e.zero then 0 else 10
                .ends <| concluded name envFailure
                  (env.foldl (fun t entry =>
                    t.print (bytesOfText entry.1 ++ 61 :: entry.2 ++ [ending])) t, 0)
          | (t, env, command) =>
              if e.zero then
                .ends (complainUsage t name
                  (bytesOfText "cannot specify --null (-0) with command"), envFailure)
              else runInEnvironment name e t env command

/-!
## The working directory
-/

/-- The options of the program for the working directory. -/
def pwdTable : OptionTable :=
  { letters := plainLetters "LP"
    names :=
      [⟨"logical", "L", .none⟩, ⟨"physical", "P", .none⟩, ⟨"help", "help", .none⟩,
        ⟨"version", "version", .none⟩] }

/-- The name of the working directory that the environment gives, if it is one. -/
def givenDirectory? (t : Task) : Option Bytes :=
  (t.process.environment.get? "PWD").filter fun path =>
    FileTree.isAbsolute path &&
      (FileTree.pieces path).all (fun part =>
        part != [FileTree.dot] && part != [FileTree.dot, FileTree.dot]) &&
      (match t.resolve path with
      | .ok id => id == t.process.directory
      | .error _ => false)

/-- Writes the name of the working directory. -/
def runPwd (name : Bytes) (arguments : List Bytes) (t : Task) : Finished :=
  let (seen, operands) := scanWords pwdTable t arguments
  let take (_ : Bool) (key : String) (_ : Option (List Char)) : Reading Bool := .ok (key == "L")
  concluded name 1 <| withSettings (readOptions .pwd name 1 t (isStrict t) take seen) fun logical =>
    let told :=
      if operands.isEmpty then t
      else complain t name (bytesOfText "ignoring non-option arguments")
    match (if logical then givenDirectory? told else none).orElse fun _ => told.directoryName with
    | some path => (told.print (path ++ [10]), 0)
    | none =>
        (complain told name
          (bytesOfText "couldn't find directory entry in '..' with matching i-node"), 1)

/-!
## Time
-/

/-- How many seconds a unit of time has. -/
def timeFactor? (unit : List Char) : Option Nat :=
  match unit with
  | [] | ['s'] => some 1
  | ['m'] => some 60
  | ['h'] => some 3600
  | ['d'] => some 86400
  | _ => none

/-- The longest sleep, in microseconds, which stands for one without an end. -/
def longestSleep : Nat := 1000000000000000000000000

/-- The microseconds of a number of seconds, rounded up. -/
def microseconds (mantissa : Nat) (exponent : Int) (factor : Nat) : Nat :=
  let (n, d) := scaled 2 exponent (mantissa * factor * 1000000) 1
  min longestSleep ((n + d - 1) / d)

/-- The microseconds that a number of seconds, minutes, hours or days comes to. -/
def sleepTime? (word : List Char) : Option Nat :=
  match FloatFormat.double.read word with
  | some ((value, _), unit) =>
      (timeFactor? unit).bind fun factor =>
        match value with
        | .finite negative mantissa exponent =>
            if negative && mantissa ≠ 0 then none else some (microseconds mantissa exponent factor)
        | .infinite false => some longestSleep
        | _ => none
  | none => none

/-- The options of the sleeping program. -/
def sleepTable : OptionTable :=
  { letters := []
    names := [⟨"help", "help", .none⟩, ⟨"version", "version", .none⟩] }

/-- Goes to sleep. -/
def runSleep (now : Nat) (name : Bytes) (arguments : List Bytes) (t : Task) : Outcome :=
  let (seen, operands) := scanWords sleepTable t arguments
  match readOptions .sleep name 1 t () (fun _ _ _ => .ok ()) seen with
  | .error finished => .ends (concluded name 1 finished)
  | .ok () =>
      if arguments.isEmpty then .ends (complainUsage t name (bytesOfText "missing operand"), 1)
      else
        let times := operands.map fun word => (word, sleepTime? (charsOf word))
        match times.filter fun entry => entry.2.isNone with
        | [] =>
            let total := times.foldl (fun total entry => total + entry.2.getD 0) 0
            .goesOn { t with process := { t.process with activity := .sleeping (now + total) } }
        | wrong =>
            let told := wrong.foldl (fun t entry =>
              complain t name (bytesOfText "invalid time interval " ++ inQuotes entry.1)) t
            .ends (pointToHelp told name, 1)

end JobShell.Machine.Utility
