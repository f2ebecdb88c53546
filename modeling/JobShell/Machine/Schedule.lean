/-
Module: JobShell.Machine.Schedule
Purpose: Time on the machine.  In a round every process that can go on takes one step; when none can,
  the clock moves to the moment at which the next sleeper wakes.
Main exports: Machine.step, Machine.round, Machine.advance, Machine.runUntil, Machine.pass
-/
import JobShell.Machine.Script.Start
import JobShell.Machine.Setup
import JobShell.Machine.Utility.Run

namespace JobShell

namespace Machine

/-- Whether a process can take a step. -/
def isReady (m : Machine) (p : Process) : Bool :=
  p.isAlive && !p.stopped && p.busyUntil ≤ m.now && (Script.isRoused p || !m.isStalled p) &&
    match p.activity with
    | .shell => false
    | .setup _ | .running _ _ => true
    | .sleeping wake => wake ≤ m.now
    | .script s stack => !Script.isWaiting m p s stack

/-- One step of a process. -/
def stepProcess (m : Machine) (p : Process) : Machine :=
  match p.activity with
  | .shell => m
  | .setup plan => m.conclude p.number (setUp (m.taskOf p) plan)
  | .running .sh arguments => m.conclude p.number (Script.startScript m (m.taskOf p) arguments)
  | .running program arguments =>
      m.conclude p.number (Utility.runUtility m.now program arguments (m.taskOf p))
  | .sleeping _ => m.conclude p.number ((m.taskOf p).exit 0)
  | .script s stack => Script.stepScript m p s stack

/-- How many microseconds it takes to make a process. -/
def forkTime : Nat := 200

/-- How many microseconds it takes to load a program. -/
def loadTime : Nat := 1200

/-- How many microseconds it takes until a process goes on that has waited for a pipe. -/
def wakeTime : Nat := 100

/-- Whether a process has just become a program that it has not begun to run. -/
def isLoaded (p : Process) : Bool :=
  match p.activity with
  | .running _ _ => p.stalled.isNone
  | _ => false

/-- Lets a process wait for what the system did for it in its last step: it made other processes, from
some number on, one after the other, or loaded a program. -/
def charge (m : Machine) (number first : Nat) : Machine :=
  let made := m.nextNumber - first
  let loaded := (m.process? number).any isLoaded
  if made = 0 && !loaded then m
  else
    { m with
      processes := m.processes.map fun p =>
        if p.number = number then
          { p with busyUntil := m.now + made * forkTime + if loaded then loadTime else 0 }
        else if first ≤ p.number then
          { p with busyUntil := m.now + (p.number - first) * forkTime }
        else p }

/-- One step of the process of a number, if it can take one. -/
def step (m : Machine) (number : Nat) : Machine :=
  match m.process? number with
  | none => m
  | some p => if m.isReady p then (m.stepProcess p).charge number m.nextNumber else m

/-- The processes that can take a step. -/
def ready (m : Machine) : List Nat :=
  (m.processes.filter m.isReady).map (·.number)

/-- A process after a round.  One that has waited for a pipe up to now takes a while to go on. -/
def rouse (before after : Machine) (p : Process) : Process :=
  if p.stalled.isSome && before.isStalled p && !after.isStalled p then
    { p with busyUntil := after.now + wakeTime }
  else p

/-- One step of each process that can take one, and a moment of time. -/
def round (m : Machine) (numbers : List Nat) : Machine :=
  let stepped := numbers.foldl step m
  { stepped with processes := stepped.processes.map (rouse m stepped), now := stepped.now + 1 }

/-- The moment from which on a process can go on by itself, if it is one to come. -/
def wake? (m : Machine) (p : Process) : Option Nat :=
  if !p.isAlive || p.stopped then none
  else
    match p.activity with
    | .sleeping wake => some (max wake p.busyUntil)
    | _ => if m.now < p.busyUntil then some p.busyUntil else none

/-- The next moment at which a process can go on by itself. -/
def nextWake? (m : Machine) : Option Nat :=
  (m.processes.filterMap m.wake?).min?

/-- Lets the machine go on: a round, or a wait for the next sleeper; `none` if nothing will happen any
more. -/
def advance (m : Machine) : Option Machine :=
  match m.ready with
  | [] => m.nextWake?.map fun wake => { m with now := max wake m.now }
  | number :: others => some (m.round (number :: others))

/-- Lets the machine go on until something is the case, in at most so many moves. -/
def runWithin (stop : Machine → Bool) : Nat → Machine → Option Machine
  | 0, m => if stop m then some m else none
  | fuel + 1, m =>
      if stop m then some m
      else
        match m.advance with
        | none => none
        | some m' => runWithin stop fuel m'

/-- How many moves are waited for something at most. -/
def patience : Nat := 33554432

/-- Lets the machine go on until something is the case; `none` if that does not come about. -/
def runUntil (m : Machine) (stop : Machine → Bool) : Option Machine :=
  m.runWithin stop patience

/-- Lets the machine go on up to a moment.  Every move takes some time, so a move for each microsecond is
enough. -/
def passUntil (deadline : Nat) : Nat → Machine → Machine
  | 0, m => { m with now := max deadline m.now }
  | fuel + 1, m =>
      if deadline ≤ m.now then m
      else
        match m.ready with
        | [] =>
            match m.nextWake? with
            | none => { m with now := deadline }
            | some wake =>
                if deadline ≤ wake then { m with now := deadline }
                else passUntil deadline fuel { m with now := max wake (m.now + 1) }
        | numbers => passUntil deadline fuel (m.round numbers)

/-- Lets some milliseconds pass. -/
def pass (m : Machine) (milliseconds : Nat) : Machine :=
  m.passUntil (m.now + milliseconds * 1000) (milliseconds * 1000)

end Machine

end JobShell
