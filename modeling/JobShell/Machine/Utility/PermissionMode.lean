/-
Module: JobShell.Machine.Utility.PermissionMode
Purpose: Permission bits as they are written: in octal digits, or as changes for the owner, the group and
  the others.
Main exports: ModeChange, readMode?, adjustMode
-/
import JobShell.Machine.Utility.Numeral

namespace JobShell.Machine.Utility

/-- What a change does with bits: sets exactly these, adds them, or takes them away. -/
inductive ModeOperator where
  | assign
  | add
  | remove
deriving Repr, Inhabited, DecidableEq

/-- The bits of a change: given ones, execution where it makes sense, or those of one class of users. -/
inductive ModeValue where
  | bits (bits : Nat)
  | execution (bits : Nat)
  | copied (weight : Nat)
deriving Repr, Inhabited, DecidableEq

/-- A change of permission bits; no bits are affected if it is left to the mask. -/
structure ModeChange where
  operator : ModeOperator
  affected : Nat
  value : ModeValue
  /-- All bits are meant, the special ones of directories too. -/
  isNumber : Bool := false
deriving Repr, Inhabited, DecidableEq

/-- The bits that a class of users stands for. -/
def classBits? (c : Char) : Option Nat :=
  match c with
  | 'u' => some 0o4700
  | 'g' => some 0o2070
  | 'o' => some 0o1007
  | 'a' => some 0o7777
  | _ => none

/-- The bits that a letter stands for, for everybody. -/
def permissionBits? (c : Char) : Option Nat :=
  match c with
  | 'r' => some 0o444
  | 'w' => some 0o222
  | 'x' => some 0o111
  | 's' => some 0o6000
  | 't' => some 0o1000
  | _ => none

/-- The operator that a sign stands for. -/
def modeOperator? (c : Char) : Option ModeOperator :=
  match c with
  | '=' => some .assign
  | '+' => some .add
  | '-' => some .remove
  | _ => none

/-- The value that stands behind an operator, and what follows it. -/
def readModeValue (text : List Char) : ModeValue × List Char :=
  match text with
  | 'u' :: rest => (.copied 64, rest)
  | 'g' :: rest => (.copied 8, rest)
  | 'o' :: rest => (.copied 1, rest)
  | _ =>
      let letters := text.takeWhile fun c => (permissionBits? c).isSome || c == 'X'
      let bits := letters.foldl (fun bits c => bits ||| (permissionBits? c).getD 0) 0
      (if letters.contains 'X' then .execution bits else .bits bits, text.drop letters.length)

/-- The changes behind the classes of users, one for each operator. -/
def readModeChanges (affected : Nat) : Nat → List Char → Option (List ModeChange × List Char)
  | 0, _ => none
  | fuel + 1, text =>
      match text with
      | [] => none
      | c :: rest =>
          match modeOperator? c with
          | none => none
          | some operator =>
              let (value, after) := readModeValue rest
              let change : ModeChange := { operator := operator, affected := affected, value := value }
              if (after.head?.bind modeOperator?).isSome then
                (readModeChanges affected fuel after).map fun (others, rest') =>
                  (change :: others, rest')
              else some ([change], after)

/-- Changes that are separated by commas. -/
def readModeClauses : Nat → List Char → Option (List ModeChange)
  | 0, _ => none
  | fuel + 1, text =>
      let classes := text.takeWhile fun c => (classBits? c).isSome
      let affected := classes.foldl (fun bits c => bits ||| (classBits? c).getD 0) 0
      match readModeChanges affected text.length (text.drop classes.length) with
      | some (changes, []) => some changes
      | some (changes, ',' :: rest) => (readModeClauses fuel rest).map (changes ++ ·)
      | _ => none

/-- The changes that a text describes. -/
def readMode? (text : List Char) : Option (List ModeChange) :=
  if text.head?.any (isDigitIn 8) then
    if text.all (isDigitIn 8) && digitsValue 8 text ≤ 0o7777 then
      some [{ operator := .assign, affected := 0o7777, value := .bits (digitsValue 8 text),
              isNumber := true }]
    else none
  else readModeClauses (text.length + 1) text

/-- Bits for everybody that one class of users has. -/
def spreadBits (mode weight : Nat) : Nat :=
  (mode / weight % 8) * 0o111

/-- The bits that a change is about, for a file or a directory with certain bits. -/
def ModeValue.bitsFor (v : ModeValue) (isDirectory : Bool) (mode : Nat) : Nat :=
  match v with
  | .bits given => given
  | .execution given => if isDirectory || mode &&& 0o111 ≠ 0 then given ||| 0o111 else given
  | .copied weight => spreadBits mode weight

/-- Bits without some others. -/
def withoutBits (bits others : Nat) : Nat :=
  bits &&& (0o7777 ^^^ (others &&& 0o7777))

/-- The bits after one change.  The special bits of a directory stay unless they are named. -/
def ModeChange.apply (c : ModeChange) (isDirectory : Bool) (mask mode : Nat) : Nat :=
  let plain := c.value.bitsFor isDirectory mode
  let named := match c.value with
    | .bits given | .execution given => given
    | .copied _ => 0
  let kept := if isDirectory && !c.isNumber then withoutBits 0o6000 named else 0
  let limit := if c.affected = 0 then withoutBits 0o7777 mask else c.affected
  let value := withoutBits (plain &&& limit) kept
  match c.operator with
  | .assign =>
      let preserved := (if c.affected = 0 then 0 else withoutBits 0o7777 c.affected) ||| kept
      (mode &&& preserved) ||| value
  | .add => mode ||| value
  | .remove => withoutBits mode value

/-- The bits after some changes. -/
def adjustMode (isDirectory : Bool) (mask : Nat) (changes : List ModeChange) (mode : Nat) : Nat :=
  changes.foldl (fun mode change => change.apply isDirectory mask mode) mode

end JobShell.Machine.Utility
