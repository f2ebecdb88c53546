/-
Module: JobShell.Machine.Script.Variables
Purpose: The variables of a script, and the order in which its tables are gone through.
Main exports: inBuckets, Variable, Variables, VariableFault, Variables.assign
-/
import JobShell.Machine.Script.Syntax

namespace JobShell.Machine.Script

/-!
## Order

A script shows the names of its tables in an order that depends on their spelling: they are shared out among
a fixed number of buckets, and within a bucket the one that came first stands first.
-/

/-- The bucket of a name. -/
def bucketOf (count : Nat) (name : List Char) : Nat :=
  match name with
  | [] => 0
  | c :: _ => name.foldl (fun total c => total + c.toNat) (c.toNat * 16) % count

/-- Entries in the order of their buckets. -/
def inBuckets {α : Type} (count : Nat) (name : α → List Char) (entries : List α) : List α :=
  (List.range count).flatMap fun bucket => entries.filter fun e => bucketOf count (name e) == bucket

/-- The number of buckets for variables, and for aliases. -/
def bucketCount : Nat := 39

/-- Whether one text does not come behind another in the order of a dictionary. -/
def precedes : List Char → List Char → Bool
  | [], _ => true
  | _ :: _, [] => false
  | a :: left, b :: right => a.toNat < b.toNat || (a == b && precedes left right)

/-!
## Variables
-/

/-- A variable.  One without a value is unset, but may be marked all the same; a fixed one is never
forgotten. -/
structure Variable where
  name : List Char
  value : Option (List Char)
  exported : Bool := false
  readOnly : Bool := false
  fixed : Bool := false
deriving Repr, Inhabited, DecidableEq

/-- The variables of a script, in the order in which they came. -/
abbrev Variables := List Variable

/-- Why a variable cannot be set. -/
inductive VariableFault where
  | badName (name : List Char)
  | readOnly (name : List Char)
deriving Repr, DecidableEq

/-- What is said of a variable that cannot be set. -/
def VariableFault.message : VariableFault → List Char
  | badName name => name ++ ": bad variable name".toList
  | readOnly name => name ++ ": is read only".toList

/-- The marks that setting a variable adds to it. -/
structure Marks where
  exported : Bool := false
  readOnly : Bool := false
  fixed : Bool := false
deriving Repr, Inhabited, DecidableEq

namespace Variables

/-- The variable of a name. -/
def find? (vars : Variables) (name : List Char) : Option Variable :=
  List.find? (fun v : Variable => v.name == name) vars

/-- The value of a variable. -/
def value? (vars : Variables) (name : List Char) : Option (List Char) :=
  (vars.find? name).bind (·.value)

/-- Changes a variable. -/
def modify (vars : Variables) (name : List Char) (f : Variable → Variable) : Variables :=
  vars.map fun v => if v.name = name then f v else v

/-- Sets a variable, or unsets it if there is no value; a variable that is unset and has no marks is
forgotten. -/
def set (vars : Variables) (name : List Char) (value : Option (List Char)) (marks : Marks) :
    Except VariableFault Variables :=
  let marked := marks.exported || marks.readOnly || marks.fixed
  match vars.find? name with
  | some old =>
      if old.readOnly then .error (.readOnly name)
      else if value.isNone && !marked && !old.fixed then
        .ok (vars.filter fun v => v.name != name)
      else
        .ok (vars.modify name fun v =>
          { v with
            value := value
            exported := v.exported || marks.exported
            readOnly := v.readOnly || marks.readOnly
            fixed := v.fixed || marks.fixed })
  | none =>
      if value.isNone && !marked then .ok vars
      else .ok (vars ++ [⟨name, value, marks.exported, marks.readOnly, marks.fixed⟩])

/-- Sets a variable whose name may be none. -/
def assign (vars : Variables) (name : List Char) (value : Option (List Char)) (marks : Marks) :
    Except VariableFault Variables :=
  if isName name then vars.set name value marks else .error (.badName name)

/-- The variables that are passed on, with their values. -/
def exported (vars : Variables) : List (List Char × List Char) :=
  (inBuckets bucketCount (·.name) vars).filterMap fun v =>
    if v.exported then v.value.map fun value => (v.name, value) else none

/-- The variables of a kind, by name. -/
def sorted (vars : Variables) (kind : Variable → Bool) : List Variable :=
  (vars.filter kind).mergeSort fun left right => precedes left.name right.name

end Variables

end JobShell.Machine.Script
