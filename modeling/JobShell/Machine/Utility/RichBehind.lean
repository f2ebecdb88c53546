/-
Module: JobShell.Machine.Utility.RichBehind
Purpose: Looks back, and what a pattern speaks of.  A look back starts as many characters before the present
  place as its pattern takes; that number may hang on groups that are read later, so it is found when the
  whole pattern is known.
Main exports: RichPattern.width, RichPattern.place, RichPattern.flaw?, RichPattern.checked
-/
import JobShell.Machine.Utility.RichFault
import JobShell.Machine.Utility.RichRegex

namespace JobShell.Machine.Utility

/-- The most characters that a look back may step over. -/
def behindLimit : Nat := 65535

/-- What is asked of the number of characters that a pattern takes. -/
inductive WantedWidth where
  /-- Branches may differ. -/
  | free
  /-- Branches have to agree. -/
  | same
  | exactly (n : Nat)
deriving Repr, Inhabited, DecidableEq

namespace WantedWidth

/-- What is asked of a pattern within parentheses. -/
def inner : WantedWidth → WantedWidth
  | free => same
  | wanted => wanted

/-- What is asked of the branches after one that takes so many characters. -/
def after (wanted : WantedWidth) (n : Nat) : WantedWidth :=
  if wanted = free then free else exactly n

/-- A number of characters, if it is what is asked for. -/
def checked (wanted : WantedWidth) (n : Nat) : Except RichFault Nat :=
  if behindLimit < n then .error .tooFarBehind
  else
    match wanted with
    | exactly m => if n = m then .ok n else .error .wideBehind
    | _ => .ok n

end WantedWidth

namespace RichRegex

/-- Whether a pattern looks at what stands ahead. -/
def looksAhead : RichRegex → Bool
  | look _ (behind _) => false
  | look _ _ => true
  | _ => false

/-- Whether a pattern holds a choice with more than two branches. -/
def hasManyBranches : RichRegex → Bool
  | choice _ yes no =>
      yes.hasManyBranches || no.hasManyBranches ||
        match no with
        | either _ _ => true
        | _ => false
  | sequence first second | either first second => first.hasManyBranches || second.hasManyBranches
  | group _ body | settled body | repeated body _ _ _ | look _ body | behind body =>
      body.hasManyBranches
  | _ => false

end RichRegex

namespace RichPattern

/-- The number of characters that a pattern takes.  `active` are the groups that are being measured, which
must not contain themselves; the number tells how many more of them there may be. -/
def width (p : RichPattern) : Nat → List Nat → WantedWidth → RichRegex → Except RichFault Nat
  | _, _, wanted, .one _ _ => wanted.checked 1
  | depth, active, wanted, .group _ body | depth, active, wanted, .settled body =>
      p.width depth active wanted.inner body
  | depth, active, wanted, .sequence first second => do
      let a ← p.width depth active .same first
      let b ← p.width depth active .same second
      wanted.checked (a + b)
  | depth, active, wanted, .either first second => do
      let a ← p.width depth active wanted first
      p.width depth active (wanted.after a) second
  | depth, active, wanted, .choice _ yes no => do
      let a ← p.width depth active wanted.inner yes
      if no = .empty then .ok a else p.width depth active (.exactly a) no
  | depth, active, wanted, .repeated body least most _ => do
      let a ← p.width depth active .same body
      if body.looksAhead then wanted.checked 0
      else if most = some least then wanted.checked (a * least)
      else .error .wideBehind
  | depth, active, wanted, .look _ (.behind body) => do
      let _ ← p.width depth active .free body
      wanted.checked 0
  | 0, _, _, .again _ _ | 0, _, _, .call _ => .error .wideBehind
  | depth + 1, active, wanted, .again g _ | depth + 1, active, wanted, .call g =>
      match p.number? g, p.bodyOf? g with
      | some number, some body =>
          if number = 0 || active.contains number then .error .wideBehind
          else p.width depth (number :: active) wanted.inner body
      | _, _ => .error .missingGroup
  | _, _, wanted, _ => wanted.checked 0
termination_by depth _ _ r => (depth, sizeOf r)

/-- The step back in front of a branch of a look back, where `steps` is on, in a pattern with so many
groups. -/
def stepBack (p : RichPattern) (groups : Nat) (steps : Bool) (branch : RichRegex) :
    Except RichFault (RichRegex → RichRegex) :=
  if steps then
    (p.width (groups + 1) [] .same branch).map fun n placed => .sequence (.back n) placed
  else .ok id

/-- A pattern with the steps back of all looks back in their places.  With `steps` on, the pattern is that of
a look back itself. -/
def place (p : RichPattern) (groups : Nat) : Bool → RichRegex → Except RichFault RichRegex
  | steps, .either first second => do
      let first' ← p.place groups steps first
      let second' ← p.place groups steps second
      .ok (.either first' second')
  | steps, .sequence first second => do
      let back ← p.stepBack groups steps (.sequence first second)
      let first' ← p.place groups false first
      let second' ← p.place groups false second
      .ok (back (.sequence first' second'))
  | steps, .group number body => do
      let back ← p.stepBack groups steps (.group number body)
      let body' ← p.place groups false body
      .ok (back (.group number body'))
  | steps, .settled body => do
      let back ← p.stepBack groups steps (.settled body)
      let body' ← p.place groups false body
      .ok (back (.settled body'))
  | steps, .repeated body least most greedy => do
      let back ← p.stepBack groups steps (.repeated body least most greedy)
      let body' ← p.place groups false body
      .ok (back (.repeated body' least most greedy))
  | steps, .choice g yes no => do
      let back ← p.stepBack groups steps (.choice g yes no)
      let yes' ← p.place groups false yes
      let no' ← p.place groups false no
      .ok (back (.choice g yes' no'))
  | steps, .look wanted body => do
      let back ← p.stepBack groups steps (.look wanted body)
      let body' ← p.place groups false body
      .ok (back (.look wanted body'))
  | _, .behind body => p.place groups true body
  | steps, r => do
      let back ← p.stepBack groups steps r
      .ok (back r)

/-- The fault of a reference to a group that is not there. -/
def absence? (p : RichPattern) (g : GroupName) : Option RichFault :=
  if g = .number 0 || (p.bodyOf? g).isNone then some .missingGroup else none

/-- What is wrong with a pattern, seen as a whole: it speaks of groups that are not there, or gives up the
start of the match while it looks around.  The first fault counts. -/
def flaw? (p : RichPattern) (inLook : Bool) : RichRegex → Option RichFault
  | .again g _ => p.absence? g
  | .call g => if g = .number 0 then none else p.absence? g
  | .restart => if inLook then some .restartInLook else none
  | .sequence first second | .either first second =>
      (p.flaw? inLook first).orElse fun _ => p.flaw? inLook second
  | .group _ body | .settled body | .repeated body _ _ _ | .behind body => p.flaw? inLook body
  | .look _ body => p.flaw? true body
  | .choice g yes no =>
      (p.absence? g).orElse fun _ => (p.flaw? inLook yes).orElse fun _ => p.flaw? inLook no
  | _ => none

/-- A pattern that is complete and has so many groups, with its looks back in place, unless something is
wrong with it. -/
def checked (p : RichPattern) (groups : Nat) : Except RichFault RichPattern := do
  let body ← p.place groups false p.body
  match p.flaw? false p.body with
  | some fault => .error fault
  | none => if p.body.hasManyBranches then .error .manyBranches else .ok { p with body := body }

end RichPattern

end JobShell.Machine.Utility
