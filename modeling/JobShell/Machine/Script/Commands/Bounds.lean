/-
Module: JobShell.Machine.Script.Commands.Bounds
Purpose: The commands for the mask of permissions, for limits and for the time used.
Main exports: performUmask, performUlimit, performTimes
-/
import JobShell.Machine.Script.Commands.Performed
import JobShell.Machine.Utility.Numeral

namespace JobShell.Machine.Script

/-!
## The mask
-/

/-- All permission bits. -/
def allBits : Nat := 0o777

/-- The bits that are not among others. -/
def missingBits (bits : Nat) : Nat :=
  allBits ^^^ (bits &&& allBits)

/-- The letters of the permissions that three bits grant. -/
def grantLetters (bits : Nat) : List Char :=
  [('r', 4), ('w', 2), ('x', 1)].filterMap fun entry =>
    if bits &&& entry.2 = 0 then none else some entry.1

/-- What a mask leaves to each class of users. -/
def grantText (mask : Nat) : List Char :=
  let granted := missingBits mask
  [','].intercalate <| [('u', 6), ('g', 3), ('o', 0)].map fun entry =>
    entry.1 :: '=' :: grantLetters ((granted >>> entry.2) &&& 7)

/-- The classes of users that a letter stands for, one bit each. -/
def classesOf? (c : Char) : Option Nat :=
  match c with
  | 'a' => some 0o111
  | 'u' => some 0o100
  | 'g' => some 0o010
  | 'o' => some 0o001
  | _ => none

/-- The bits that a letter grants, `granted` being in force. -/
def grantsOf? (granted : Nat) (c : Char) : Option Nat :=
  match c with
  | 'r' => some 4
  | 'w' => some 2
  | 'x' => some 1
  | 'u' => some ((granted >>> 6) &&& 7)
  | 'g' => some ((granted >>> 3) &&& 7)
  | 'o' => some (granted &&& 7)
  | 'X' => some (if granted &&& 0o111 = 0 then 0 else 1)
  | 's' => some 0
  | _ => none

/-- Takes letters at the front of a text together. -/
def takeLetters (bitsOf? : Char → Option Nat) : List Char → Nat × List Char
  | [] => (0, [])
  | c :: rest =>
      match bitsOf? c with
      | none => (0, c :: rest)
      | some bits =>
          let (more, left) := takeLetters bitsOf? rest
          (bits ||| more, left)

/-- Goes through what a text says about permissions, in at most so many steps: `granted` was in force, and
`now` is what has come of it so far.  `none` if the text makes no sense. -/
def applyGrants (granted : Nat) : Nat → Nat → Nat → List Char → Option Nat
  | 0, _, _, _ => none
  | _ + 1, _, now, [] => some now
  | fuel + 1, classes, now, text =>
      let (named, behind) := takeLetters classesOf? text
      let meant := if classes ||| named = 0 then 0o111 else classes ||| named
      match behind with
      | [] => some now
      | sign :: rest =>
          if !(sign == '=' || sign == '+' || sign == '-') then none
          else
            let (letters, left) := takeLetters (grantsOf? granted) rest
            let bits := letters * meant
            let next :=
              if sign = '-' then now &&& missingBits bits
              else if sign = '+' then now ||| bits
              else bits ||| (now &&& missingBits (meant * 7))
            match left with
            | [] => some next
            | ',' :: more => applyGrants granted fuel 0 next more
            | c :: _ => if ['=', '+', '-'].contains c then applyGrants granted fuel meant next left else none

/-- The mask that a word writes, as a number or by what it leaves. -/
def maskOf (mask : Nat) (word : List Char) : Except (List Char) Nat :=
  if word.head?.any Char.isDigit then
    if word.all (Utility.isDigitIn 8) then .ok (Utility.digitsValue 8 word &&& allBits)
    else .error (badNumber word)
  else
    let granted := missingBits mask
    match applyGrants granted (word.length + 2) 0 granted word with
    | some granted' => .ok (missingBits granted')
    | none => .error ("Illegal mode: ".toList ++ word)

/-- Shows or sets the mask. -/
def performUmask (scene : Scene) (arguments : List (List Char)) : Performed :=
  withLetters scene [('S', false)] arguments fun letters =>
    let mask := scene.task.process.mask
    match letters.rest with
    | [] =>
        let digits := Nat.toDigits 8 mask
        (scene.printLine
          (if letters.has 'S' then grantText mask
           else List.replicate (4 - digits.length) '0' ++ digits)).ends 0
    | word :: _ =>
        match maskOf mask word with
        | .error text => scene.fails text
        | .ok mask' =>
            let process := { scene.task.process with mask := mask' }
            ({ scene with task := { scene.task with process := process } }).ends 0

/-!
## Limits
-/

/-- How the command for limits is asked to act: on which limit, and on which of its bounds. -/
structure LimitRequest where
  letter : Char := 'f'
  soft : Bool := true
  hard : Bool := true
  all : Bool := false

/-- Reads the letters of the command for limits. -/
def limitRequest (letters : Letters) : LimitRequest :=
  letters.found.foldl (fun request entry =>
    match entry.1 with
    | 'H' => { request with soft := false, hard := true }
    | 'S' => { request with soft := true, hard := false }
    | 'a' => { request with all := true }
    | letter => { request with letter := letter }) {}

/-- The bound that a word gives. -/
def boundOf? (word : List Char) (unit : Nat) : Option (Option Nat) :=
  if word = "unlimited".toList then some none
  else if word.all Char.isDigit then some (some (Utility.digitsValue 10 word * unit))
  else none

/-- Sets a limit. -/
def setLimit (scene : Scene) (request : LimitRequest) (limit : Limit) (word : List Char) : Performed :=
  match boundOf? word limit.unit with
  | none => scene.fails "bad number".toList
  | some bound =>
      match limit.set request.soft request.hard bound with
      | .error reason =>
          scene.fails ("error setting limit (".toList ++ reason.text.toList ++ [')'])
      | .ok limit' =>
          (scene.modifyState fun s =>
            { s with
              limits := s.limits.map fun old => if old.letter = limit.letter then limit' else old }).ends 0

/-- Shows or sets limits. -/
def performUlimit (scene : Scene) (arguments : List (List Char)) : Performed :=
  let known := ['H', 'S', 'a'] ++ usualLimits.map (·.letter)
  withLetters scene (known.map fun c => (c, false)) arguments fun letters =>
    let request := limitRequest letters
    let limit := (scene.state.limits.find? fun limit => limit.letter == request.letter).getD default
    let line (limit : Limit) : List Char :=
      let name := limit.name.toList
      name ++ List.replicate (20 - name.length) ' ' ++ ' ' :: limit.shown request.soft
    match letters.rest with
    | [] =>
        if request.all then
          (scene.state.limits.foldl (fun scene limit => scene.printLine (line limit)) scene).ends 0
        else (scene.printLine (limit.shown request.soft)).ends 0
    | word :: more =>
        if request.all || !more.isEmpty then scene.fails "too many arguments".toList
        else setLimit scene request limit word

/-- Shows the time used, which is too little to be seen. -/
def performTimes (scene : Scene) : Performed :=
  let line := "0m0.000000s 0m0.000000s".toList
  ((scene.printLine line).printLine line).ends 0

end JobShell.Machine.Script
