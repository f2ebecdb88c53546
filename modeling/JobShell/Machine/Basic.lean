/-
Module: JobShell.Machine.Basic
Purpose: The machine: its disk, its processes and its clock; how processes come, end and are collected;
  and what a signal does.
Main exports: Machine, Machine.spawn, Machine.finish, Machine.deliver, Machine.endedChild?
-/
import JobShell.Diagnostics
import JobShell.Machine.Task
import JobShell.Mode

namespace JobShell

open Machine in
/-- A machine.  Processes are in the order in which they were made. -/
structure Machine where
  disk : Disk
  processes : List Process
  nextNumber : Nat
  /-- The time in microseconds. -/
  now : Nat := 0
  /-- The shell among the processes. -/
  shellNumber : Nat
  /-- How often the shell has handled the suspend signal, or a toggle was asked for. -/
  toggles : UInt64 := 0
  /-- The actions of the shell that count a suspend signal. -/
  actions : List ActionId := []
  /-- Which of these actions the shell remembers to have registered. -/
  action : Option ActionId := none
  /-- Which diagnostic notes are written. -/
  filter : Option Diagnostics.Filter := none
  accountHome : Option Text.Bytes := none
  manuals : Program → Manual := fun _ => {}
deriving Inhabited

namespace Machine

/-- The process of a number. -/
def process? (m : Machine) (number : Nat) : Option Process :=
  m.processes.find? fun p => p.number == number

/-- Changes a process. -/
def modifyProcess (m : Machine) (number : Nat) (f : Process → Process) : Machine :=
  { m with processes := m.processes.map fun p => if p.number = number then f p else p }

/-- Takes a process out of the table. -/
def remove (m : Machine) (number : Nat) : Machine :=
  { m with processes := m.processes.filter fun p => p.number != number }

/-- Whether a living process has an open file on a node that is open in a certain way. -/
def isHeld (m : Machine) (how : OpenFile → Bool) (id : NodeId) : Bool :=
  m.processes.any fun p =>
    p.isAlive && p.descriptors.any fun file =>
      (file.bind m.disk.file?).any fun f => f.node == id && how f

/-- A process at work. -/
def taskOf (m : Machine) (p : Process) : Task :=
  { disk := m.disk
    process := p
    statusOf := fun number => (m.process? number).map (·.statusText)
    isFed := m.isHeld (·.writable)
    isRead := m.isHeld (·.readable)
    manuals := m.manuals }

/-- Puts back what the process of a number has done, which keeps its number whatever it does. -/
def store (m : Machine) (number : Nat) (t : Task) : Machine :=
  { m.modifyProcess number (fun _ => { t.process with number := number }) with disk := t.disk }

/-- Adds a process; its number is the next one. -/
def spawn (m : Machine) (p : Process) : Nat × Machine :=
  (m.nextNumber,
    { m with
      processes := m.processes ++ [{ p with number := m.nextNumber }]
      nextNumber := m.nextNumber + 1 })

/-- Whether a process still has a parent that may collect it. -/
def hasParent (m : Machine) (p : Process) : Bool :=
  m.processes.any fun q => q.number == p.parent && q.isAlive

/-- Notes a signal that a process will see to later.  It is noted once, as the one that came last. -/
def queue (m : Machine) (number signal : Nat) : Machine :=
  m.modifyProcess number fun p => { p with pending := p.pending.filter (· != signal) ++ [signal] }

/-- Tells the parent of a process that a child of it has ended, if it wants to be told. -/
def tellParent (m : Machine) (number : Nat) : Machine :=
  match (m.process? number).bind fun p => m.process? p.parent with
  | some parent =>
      if parent.isAlive && parent.dispositions childSignal == .handler then
        m.queue parent.number childSignal
      else m
  | none => m

/-- Ends a process.  Its children have no parent any more, so those that have ended disappear; it
disappears itself if nobody can collect it, unless it is the shell. -/
def finish (m : Machine) (number : Nat) (word : Int) : Machine :=
  let ended := (m.tellParent number).modifyProcess number fun p => { p with ended := some word }
  let adopted (p : Process) : Process := if p.parent = number then { p with parent := 1 } else p
  let orphaned := { ended with processes := ended.processes.map adopted }
  { orphaned with
    processes := orphaned.processes.filter fun p =>
      p.isAlive || p.number == m.shellNumber || orphaned.hasParent p }

/-- How much a pipe holds. -/
def pipeLength (m : Machine) (id : NodeId) : Nat :=
  ((m.disk.tree.node? id).map (·.bytes.length)).getD 0

/-- Puts back what the process of a number has done; if it has ended by that, it is dealt with.  A process
that has come to a pipe which holds too little is left as it was, but for a note of how much the pipe held. -/
def conclude (m : Machine) (number : Nat) (t : Task) : Machine :=
  match t.stalled with
  | some id => m.modifyProcess number fun p => { p with stalled := some (id, m.pipeLength id) }
  | none =>
      let stored := m.store number { t with process := { t.process with stalled := none } }
      match t.process.ended with
      | some word => stored.finish number word
      | none => stored

/-- Whether a process waits for a pipe that has not changed since it was looked at last. -/
def isStalled (m : Machine) (p : Process) : Bool :=
  match p.stalled with
  | some (id, seen) => m.pipeLength id == seen && m.isHeld (·.writable) id
  | none => false

/-- The effect of a signal on a process that lets it have its default. -/
def deliverDefault (m : Machine) (p : Process) (signal : Nat) : Machine :=
  match defaultAction signal with
  | .nothing => m
  | .stop => m.modifyProcess p.number fun q => { q with stopped := true }
  | .terminate => m.finish p.number (WaitWord.ofSignal signal)

/-- The effect of a signal that a process handles: the shell counts it, a script sees to it later. -/
def deliverHandled (m : Machine) (p : Process) (signal : Nat) : Machine :=
  match p.activity with
  | .shell =>
      { m with toggles := (({ toggles := m.toggles } : ModeSwitch).countSignal m.actions).toggles }
  | _ => m.queue p.number signal

/-- The effect of a signal that arrives at a process. -/
def act (m : Machine) (p : Process) (signal : Nat) : Machine :=
  match p.dispositions signal with
  | .ignore => m
  | .handler => m.deliverHandled p signal
  | .default => m.deliverDefault p signal

/-- Keeps a signal for a process that is stopped, until it goes on. -/
def hold (m : Machine) (p : Process) (signal : Nat) : Machine :=
  if p.dispositions signal = .ignore || p.held.contains signal then m
  else m.modifyProcess p.number fun q => { q with held := q.held ++ [signal] }

/-- Lets a stopped process go on.  The signals that it was sent meanwhile take effect, except those that
would stop it. -/
def resume (m : Machine) (p : Process) : Machine :=
  let awake := m.modifyProcess p.number fun q => { q with stopped := false, held := [] }
  (p.held.filter fun signal => defaultAction signal != .stop).foldl
    (fun m signal =>
      match m.process? p.number with
      | some q => if q.isAlive then m.act q signal else m
      | none => m) awake

/-- Sends a signal to a process.  One that has ended takes no notice. -/
def deliver (m : Machine) (number signal : Nat) : Except Errno Machine :=
  match m.process? number with
  | none => .error Errno.noProcess
  | some p =>
      if signal = 0 || !p.isAlive then .ok m
      else if signal = killSignal || signal = stopSignal then .ok (m.deliverDefault p signal)
      else if signal = continueSignal then .ok ((m.resume p).act p signal)
      else if p.stopped then .ok (m.hold p signal)
      else .ok (m.act p signal)

/-- The children of a process, in the order in which they were made. -/
def children (m : Machine) (number : Nat) : List Process :=
  m.processes.filter fun p => p.parent == number && p.number != number

/-- The first child that has ended and that a wait asks about. -/
def endedChild? (m : Machine) (parent : Nat) (wanted : Process → Bool) : Option Process :=
  (m.children parent).find? fun p => wanted p && p.ended.isSome

end Machine

end JobShell
