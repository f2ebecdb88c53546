/-
Module: JobShell.Machine.System
Purpose: The calls of the shell, carried out by the machine.  The shell is one of its processes; the
  others go on only while the shell waits or sleeps.
Main exports: Machine.shell, Machine.fork, Machine.kernel
-/
import JobShell.Kernel
import JobShell.Machine.Schedule

namespace JobShell

namespace Machine

open Text (Bytes)

/-- The shell among the processes. -/
def shell (m : Machine) : Process :=
  (m.process? m.shellNumber).getD default

/-- Changes the process of the shell. -/
def modifyShell (m : Machine) (f : Process → Process) : Machine :=
  m.modifyProcess m.shellNumber f

/-- The shell at work. -/
def shellTask (m : Machine) : Task :=
  m.taskOf m.shell

/-- Makes a child of the shell, which has still to be set up. -/
def fork (plan : LaunchPlan) (m : Machine) : Except Errno Pid × Machine :=
  match m.spawn { m.shell with parent := m.shellNumber, pending := [], activity := .setup plan } with
  | (number, m') => (.ok number, m')

/-- Whether a wait asks about a process. -/
def isWanted (target : WaitTarget) (p : Process) : Bool :=
  match target with
  | .any => true
  | .only pid => pid == (p.number : Int)

/-- Collects a child of the shell that has ended; says so if there is no such child at all. -/
def poll (target : WaitTarget) (m : Machine) : WaitAnswer × Machine :=
  match m.endedChild? m.shellNumber (isWanted target) with
  | some p => (.changed p.number (p.ended.getD 0), m.remove p.number)
  | none =>
      if (m.children m.shellNumber).any (isWanted target) then (.quiet, m)
      else (.failed Errno.noChild, m)

/-- Waits until a child of the shell has ended, and collects it. -/
def await (pid : Pid) (m : Machine) : Option (WaitAnswer × Machine) :=
  let settled (m : Machine) : Bool :=
    match m.poll (.only pid) with
    | (.quiet, _) => false
    | _ => true
  (m.runUntil settled).map (poll (.only pid))

/-- How many children there are to be collected. -/
def backlog (m : Machine) : Nat :=
  (m.children m.shellNumber).length

/-- Sends a signal for the shell. -/
def kill (pid : Pid) (signal : StopSignal) (m : Machine) : Except Errno Unit × Machine :=
  match m.deliver pid.toNat signal.number with
  | .ok m' => (.ok (), m')
  | .error reason => (.error reason, m)

/-- Changes the working directory of the shell. -/
def changeDirectory (path : Bytes) (m : Machine) : Except Errno Unit × Machine :=
  match m.disk.tree.resolve m.shell.directory path with
  | .error reason => (.error reason, m)
  | .ok id =>
      if !m.disk.tree.isDirectory id then (.error Errno.notDirectory, m)
      else if !m.disk.tree.allows id .execute then (.error Errno.denied, m)
      else (.ok (), m.modifyShell fun p => { p with directory := id })

/-- The name of the working directory of the shell. -/
def workingDirectory (m : Machine) : Option Bytes :=
  m.disk.tree.nameOf m.shell.directory

/-- The home directory that the environment of the shell names. -/
def homeVariable (m : Machine) : Option Bytes :=
  m.shell.environment.get? "HOME"

/-- The descriptor of a stream of the shell. -/
def streamDescriptor : Stream → Nat
  | .out => 1
  | .err => 2

/-- Writes for the shell. -/
def write (stream : Stream) (text : String) (m : Machine) : Machine :=
  m.store m.shellNumber (m.shellTask.put (streamDescriptor stream) (bytesOfText text))

/-- Reads for the shell. -/
def read (limit : Nat) (m : Machine) : Option (Except Errno Bytes × Machine) :=
  match m.shellTask.readSome 0 limit with
  | (result, t) => some (result, m.store m.shellNumber t)

/-- The bytes of input that the shell has not read. -/
def unread (m : Machine) : Nat :=
  match (m.shell.descriptors.file? 0).bind m.disk.file? with
  | some file => (m.disk.remaining file).length
  | none => 0

/-- Writes a diagnostic note if the filter admits it. -/
def note (n : Diagnostics.Note) (m : Machine) : Machine :=
  if m.filter.any (·.admits n) then m.write .err n.render else m

/-- Sets the filter for diagnostic notes. -/
def listen (filter : Diagnostics.Filter) (m : Machine) : Machine :=
  { m with filter := some filter }

/-- Changes what a signal does to the shell. -/
def dispose (m : Machine) (signal : Nat) (what : Disposition) : Machine :=
  m.modifyShell fun p => { p with dispositions := p.dispositions.set signal what }

/-- Registers one more action of the shell for the suspend signal, which is handled from then on. -/
def register (m : Machine) : Except String ActionId × Machine :=
  let next := m.actions.length + 1
  (.ok next, { m.dispose suspendSignal .handler with actions := m.actions ++ [next] })

/-- The actions of the shell for the suspend signal. -/
def signalActions : SignalActions Machine :=
  { register := register
    actions := fun m => m.actions }

/-- Makes the shell ignore interrupts and count suspend signals. -/
def arm (m : Machine) : Machine :=
  let before : ModeSwitch := { toggles := m.toggles, action := m.action }
  match before.install signalActions (m.dispose interrupt .ignore) with
  | (_, switch, m') => { m' with action := switch.action }

/-- Whether a signal has put an end to the shell. -/
def isGone (m : Machine) : Bool :=
  !m.shell.isAlive

/-- A change that only a living shell can make. -/
def whileAlive (change : Machine → Machine) (m : Machine) : Machine :=
  if m.isGone then m else change m

/-- A call that only a living shell can make; any other gets an answer that nobody will hear. -/
def answered {α : Type} (otherwise : α) (call : Machine → α × Machine) (m : Machine) : α × Machine :=
  if m.isGone then (otherwise, m) else call m

/-- The calls of the shell.  Once a signal has put an end to it they change nothing any more, and its
input is at its end. -/
def kernel : Kernel Machine :=
  { fork := fun plan => answered (.error Errno.noProcess) (fork plan)
    await := fun pid m => if m.isGone then some (.failed Errno.noChild, m) else await pid m
    poll := fun target => answered (.failed Errno.noChild) (poll target)
    backlog := backlog
    kill := fun pid signal => answered (.ok ()) (kill pid signal)
    sleep := fun milliseconds => whileAlive fun m => m.pass milliseconds
    clock := fun m => m.now
    toggles := fun m => (m.toggles, m)
    changeDirectory := fun path => answered (.ok ()) (changeDirectory path)
    workingDirectory := workingDirectory
    homeVariable := homeVariable
    accountHome := fun m => m.accountHome
    read := fun limit m => if m.isGone then some (.ok [], m) else read limit m
    unread := unread
    write := fun stream text => whileAlive (write stream text)
    note := fun n => whileAlive (note n)
    listen := listen
    arm := arm }

end Machine

end JobShell
