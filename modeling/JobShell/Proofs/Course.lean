/-
Module: JobShell.Proofs.Course
Purpose: The loop of the shell as the stages that it goes through, each with the shell at its start and at its
  end and with all that happens in between.  A loop that comes to an end is a row of exchanges and a close;
  one that does not is held up in a reading or in a line.
Main exports: Stage, Takes, Leg, Course, Exchange, Close, round_cases, run_follows, HeldUp, run_held
-/
import JobShell.Proofs.Departure

namespace JobShell

variable {ρ σ : Type}

/-- What the shell does next: nothing for a while, announce modes, sweep, read, begin a new line after an
interruption, execute a line, report a failure and go on, note a failure and give up, or shut down. -/
inductive Stage where
  | idle
  | announce
  | sweep
  | read (outcome : Except ReadFailure Reading)
  | breakLine
  | execute (text : String) (result : Except Failure Flow)
  | complain (e : Failure)
  | giveUp (e : Failure)
  | stop

/-- The operation that a stage consists in; the others only read or write. -/
def Stage.operation : Stage → Option Operation
  | announce => some .reportModes
  | sweep => some .reportFinished
  | execute text _ => some (.line text)
  | stop => some .shutdown
  | idle | read _ | breakLine | complain _ | giveUp _ => none

/-- A stage takes the source of lines and the shell from one state to another. -/
inductive Takes (k : Kernel σ) (source : LineSource ρ σ) (emphasis : Emphasis) (history : σ → History) :
    Stage → ρ → Shell σ → ρ → Shell σ → Prop where
  | idle {r : ρ} {sh : Shell σ} {s : σ} (passage : Passage (history sh.system) [] (history s)) :
      Takes k source emphasis history .idle r sh r { sh with system := s }
  | announce (r : ρ) (sh : Shell σ) :
      Takes k source emphasis history .announce r sh r (sh.reportModes k)
  | sweep (r : ρ) (sh : Shell σ) :
      Takes k source emphasis history .sweep r sh r (sh.reportFinished k).2
  | read {r r' : ρ} {sh : Shell σ} {s : σ} {outcome : Except ReadFailure Reading}
      (next : source.next r sh.system = some (outcome, r', s)) :
      Takes k source emphasis history (.read outcome) r sh r' { sh with system := s }
  | breakLine (r : ρ) (sh : Shell σ) :
      Takes k source emphasis history .breakLine r sh r (sh.say k "")
  | execute {r : ρ} {sh sh' : Shell σ} {text : String} {result : Except Failure Flow}
      (executed : sh.executeLine k text = some (result, sh')) :
      Takes k source emphasis history (.execute text result) r sh r sh'
  | complain (r : ρ) (sh : Shell σ) (e : Failure) :
      Takes k source emphasis history (.complain e) r sh r (sh.reportFailure k emphasis e)
  | giveUp (r : ρ) (sh : Shell σ) (e : Failure) :
      Takes k source emphasis history (.giveUp e) r sh r (sh.noteFatal k e)
  | stop {r : ρ} {sh sh' : Shell σ} (stopped : sh.shutdown k = some sh') :
      Takes k source emphasis history .stop r sh r sh'

/-- A stage that has been gone through, with all that happened in it. -/
structure Leg (σ : Type) where
  stage : Stage
  start : Shell σ
  finish : Shell σ
  events : List Event

/-- The courses that the shell can take, by their legs. -/
inductive Course (k : Kernel σ) (source : LineSource ρ σ) (emphasis : Emphasis) (history : σ → History) :
    ρ → Shell σ → List (Leg σ) → ρ → Shell σ → Prop where
  | done (r : ρ) (sh : Shell σ) : Course k source emphasis history r sh [] r sh
  | leg {r r₁ r' : ρ} {sh sh₁ sh' : Shell σ} {stage : Stage} {events : List Event}
      {legs : List (Leg σ)} (taken : Takes k source emphasis history stage r sh r₁ sh₁)
      (happened : history sh₁.system = history sh.system ++ events)
      (later : Course k source emphasis history r₁ sh₁ legs r' sh') :
      Course k source emphasis history r sh (⟨stage, sh, sh₁, events⟩ :: legs) r' sh'

/-! ### Stages -/

section

variable {k : Kernel σ} {source : LineSource ρ σ} {emphasis : Emphasis} {history : σ → History}

/-- A stage that is no operation only reads and writes. -/
theorem Takes.writes (faithful : k.Faithful history) (modest : source.IsModest history) {stage : Stage}
    {r r' : ρ} {sh sh' : Shell σ} (taken : Takes k source emphasis history stage r sh r' sh')
    (aside : stage.operation = none) :
    ∃ calls, (∀ call ∈ calls, ∃ stream text, call = .wrote stream text) ∧
      Passage (history sh.system) calls (history sh'.system) := by
  cases taken with
  | idle passage => exact ⟨[], by simp, passage⟩
  | read next => exact modest next
  | breakLine => exact ⟨_, by simp [Event.said], say_passage faithful "" sh⟩
  | complain e => exact ⟨_, by simp, faithful.write .err _ sh.system⟩
  | giveUp e => exact ⟨[], by simp, faithful.note _ sh.system⟩
  | _ => simp [Stage.operation] at aside

/-- A stage that is an operation performs it. -/
theorem Takes.performs {stage : Stage} {r r' : ρ} {sh sh' : Shell σ} {operation : Operation}
    (taken : Takes k source emphasis history stage r sh r' sh')
    (performing : stage.operation = some operation) : operation.perform k sh = some sh' := by
  cases taken <;> simp only [Stage.operation, Option.some.injEq, reduceCtorEq] at performing
  all_goals subst performing
  case announce => rfl
  case sweep => rfl
  case execute executed => simp [Operation.perform, executed]
  case stop stopped => exact stopped

/-- The stages that are lines are those in which one is executed. -/
theorem Stage.eq_execute {stage : Stage} {text : String} (line : stage.operation = some (.line text)) :
    ∃ result, stage = .execute text result := by
  cases stage <;> simp only [Stage.operation, Option.some.injEq, Operation.line.injEq, reduceCtorEq] at line
  exact ⟨_, by rw [line]⟩

theorem Takes.executed {text : String} {result : Except Failure Flow} {r r' : ρ} {sh sh' : Shell σ}
    (taken : Takes k source emphasis history (.execute text result) r sh r' sh') :
    sh.executeLine k text = some (result, sh') := by
  cases taken with
  | execute executed => exact executed

/-- Time goes on through every stage. -/
theorem Takes.passage (faithful : k.Faithful history) (modest : source.IsModest history) {stage : Stage}
    {r r' : ρ} {sh sh' : Shell σ} (taken : Takes k source emphasis history stage r sh r' sh') :
    ∃ calls, Passage (history sh.system) calls (history sh'.system) := by
  cases performing : stage.operation with
  | none =>
      obtain ⟨calls, -, passage⟩ := taken.writes faithful modest performing
      exact ⟨calls, passage⟩
  | some operation =>
      obtain ⟨calls, -, passage⟩ := perform_deed faithful (taken.performs performing)
      exact ⟨calls, passage⟩

namespace Course

variable {r r' r'' : ρ} {sh sh' sh'' : Shell σ} {legs more : List (Leg σ)}

theorem trans (first : Course k source emphasis history r sh legs r' sh')
    (second : Course k source emphasis history r' sh' more r'' sh'') :
    Course k source emphasis history r sh (legs ++ more) r'' sh'' := by
  induction first with
  | done => exact second
  | leg taken happened _ ih => exact .leg taken happened (ih second)

/-- Every leg of a course is a stage that was gone through. -/
theorem taken (course : Course k source emphasis history r sh legs r' sh') :
    ∀ leg ∈ legs, (∃ r₁ r₂, Takes k source emphasis history leg.stage r₁ leg.start r₂ leg.finish) ∧
      history leg.finish.system = history leg.start.system ++ leg.events := by
  induction course with
  | done => simp
  | leg taken happened _ ih =>
      intro leg member
      rcases List.mem_cons.1 member with rfl | later
      · exact ⟨⟨_, _, taken⟩, happened⟩
      · exact ih leg later

end Course

/-- A stage that is gone through is a course of one leg. -/
theorem Takes.course (faithful : k.Faithful history) (modest : source.IsModest history) {stage : Stage}
    {r r' : ρ} {sh sh' : Shell σ} (taken : Takes k source emphasis history stage r sh r' sh') :
    ∃ leg : Leg σ, leg.stage = stage ∧ Course k source emphasis history r sh [leg] r' sh' := by
  obtain ⟨calls, events, happened, -, -⟩ := taken.passage faithful modest
  exact ⟨⟨stage, sh, sh', events⟩, rfl, .leg taken happened (.done r' sh')⟩

end

/-! ### The loop -/

/-- A round of the loop after which it goes on: a line is executed, a line fails but not fatally, or the
reading is interrupted. -/
inductive Exchange where
  | done (text : String)
  | failed (text : String) (e : Failure) (bearable : e.isFatal = false)
  | interrupted

namespace Exchange

/-- What is read in an exchange. -/
def reading : Exchange → Except ReadFailure Reading
  | done text | failed text _ _ => .ok (.line text)
  | interrupted => .ok .interrupted

/-- The stages of an exchange. -/
def stages : Exchange → List Stage
  | done text => [.announce, .sweep, .read (.ok (.line text)), .execute text (.ok .proceed)]
  | failed text e _ =>
      [.announce, .sweep, .read (.ok (.line text)), .execute text (.error e), .complain e]
  | interrupted => [.announce, .sweep, .read (.ok .interrupted), .breakLine]

end Exchange

/-- The last round of a loop: a line leaves the shell, the input ends, it cannot be read, or a line fails
fatally. -/
inductive Close where
  | left (text : String)
  | ended
  | unreadable (cause : ReadFailure)
  | unable (text : String) (e : Failure) (fatal : e.isFatal = true)

namespace Close

/-- What is read in a close. -/
def reading : Close → Except ReadFailure Reading
  | left text | unable text _ _ => .ok (.line text)
  | ended => .ok .ended
  | unreadable cause => .error cause

/-- The stages of a close. -/
def stages : Close → List Stage
  | left text => [.announce, .sweep, .read (.ok (.line text)), .execute text (.ok .exit)]
  | ended => [.announce, .sweep, .read (.ok .ended)]
  | unreadable cause => [.announce, .sweep, .read (.error cause)]
  | unable text e _ =>
      [.announce, .sweep, .read (.ok (.line text)), .execute text (.error e), .giveUp e]

/-- What a loop comes to by its close. -/
def result : Close → Except Failure Unit
  | left _ | ended => .ok ()
  | unreadable cause => .error (.reading cause)
  | unable _ e _ => .error e

end Close

/-- What holds a loop up, after the readings and the stages that its last round has got through. -/
inductive Hold (k : Kernel σ) (source : LineSource ρ σ) (r : ρ) (sh : Shell σ) :
    List (Except ReadFailure Reading) → List Stage → Prop where
  | reading (never : source.next r sh.system = none) : Hold k source r sh [] [.announce, .sweep]
  | line (text : String) (never : sh.executeLine k text = none) :
      Hold k source r sh [.ok (.line text)] [.announce, .sweep, .read (.ok (.line text))]

/-- A source gives some readings, one after the other. -/
inductive Gives (source : LineSource ρ σ) : ρ → List (Except ReadFailure Reading) → ρ → Prop where
  | nothing (r : ρ) : Gives source r [] r
  | more {r r₁ r' : ρ} {s s' : σ} {outcome : Except ReadFailure Reading}
      {outcomes : List (Except ReadFailure Reading)} (next : source.next r s = some (outcome, r₁, s'))
      (later : Gives source r₁ outcomes r') : Gives source r (outcome :: outcomes) r'

/-- A row of readings and another one come to a state between them. -/
theorem Gives.split {source : LineSource ρ σ} {r r' : ρ}
    {outcomes more : List (Except ReadFailure Reading)} (given : Gives source r (outcomes ++ more) r') :
    ∃ r₁, Gives source r outcomes r₁ ∧ Gives source r₁ more r' := by
  induction outcomes generalizing r with
  | nil => exact ⟨r, .nothing r, given⟩
  | cons outcome later ih =>
      cases given with
      | more next rest =>
          obtain ⟨r₁, first, second⟩ := ih rest
          exact ⟨r₁, .more next first, second⟩

/-- Some stages lead from one state to another, one after the other. -/
def Follows (k : Kernel σ) (source : LineSource ρ σ) (emphasis : Emphasis) (history : σ → History)
    (stages : List Stage) (r : ρ) (sh : Shell σ) (r' : ρ) (sh' : Shell σ) : Prop :=
  ∃ legs, legs.map Leg.stage = stages ∧ Course k source emphasis history r sh legs r' sh'

/-- How a run is held up: behind some exchanges it has read more than the source promises, or is held up in a
reading or in a line; or behind a close too it is held up in the shutdown. -/
def HeldUp (k : Kernel σ) (source : LineSource ρ σ) (emphasis : Emphasis) (history : σ → History) (r : ρ)
    (sh : Shell σ) : Prop :=
  ∃ (exchanges : List Exchange) (r' : ρ) (sh' : Shell σ),
    (exchanges.length = source.bound r sh.system + 1 ∧
      Gives source r (exchanges.map Exchange.reading) r' ∧
      Follows k source emphasis history (exchanges.flatMap Exchange.stages) r sh r' sh') ∨
    (∃ outcomes stages, Hold k source r' sh' outcomes stages ∧
      Gives source r (exchanges.map Exchange.reading ++ outcomes) r' ∧
      Follows k source emphasis history (exchanges.flatMap Exchange.stages ++ stages) r sh r' sh') ∨
    ∃ close : Close, sh'.shutdown k = none ∧
      Gives source r (exchanges.map Exchange.reading ++ [close.reading]) r' ∧
      Follows k source emphasis history (exchanges.flatMap Exchange.stages ++ close.stages) r sh r' sh'

section

variable {k : Kernel σ} {source : LineSource ρ σ} {emphasis : Emphasis} {history : σ → History}
  {r r₁ r' : ρ} {sh sh₁ sh' : Shell σ}

theorem Follows.trans {stages more : List Stage}
    (first : Follows k source emphasis history stages r sh r₁ sh₁)
    (second : Follows k source emphasis history more r₁ sh₁ r' sh') :
    Follows k source emphasis history (stages ++ more) r sh r' sh' := by
  obtain ⟨legs, rfl, course⟩ := first
  obtain ⟨others, rfl, later⟩ := second
  exact ⟨legs ++ others, List.map_append, course.trans later⟩

/-- A stage that is gone through, and then others. -/
theorem Takes.follows (faithful : k.Faithful history) (modest : source.IsModest history) {stage : Stage}
    {stages : List Stage} (taken : Takes k source emphasis history stage r sh r₁ sh₁)
    (later : Follows k source emphasis history stages r₁ sh₁ r' sh') :
    Follows k source emphasis history (stage :: stages) r sh r' sh' := by
  obtain ⟨leg, rfl, first⟩ := taken.course faithful modest
  obtain ⟨legs, rfl, others⟩ := later
  exact ⟨leg :: legs, rfl, first.trans others⟩

/-- No stage leads from a state to itself. -/
theorem Follows.nothing (r : ρ) (sh : Shell σ) :
    Follows k source emphasis history [] r sh r sh :=
  ⟨[], rfl, .done r sh⟩

/-- The stages before a reading. -/
theorem beforeReading_follows (faithful : k.Faithful history) (modest : source.IsModest history)
    (emphasis : Emphasis) (r : ρ) (sh : Shell σ) :
    Follows k source emphasis history [.announce, .sweep] r sh r (sh.beforeReading k) :=
  (Takes.announce r sh).follows faithful modest
    ((Takes.sweep r (sh.reportModes k)).follows faithful modest (.nothing _ _))

/-- A round of the loop is an exchange, after which it goes on, a close, or a hold. -/
theorem round_cases (faithful : k.Faithful history) (modest : source.IsModest history)
    (emphasis : Emphasis) (r : ρ) (sh : Shell σ) :
    (∃ (exchange : Exchange) (r₁ : ρ) (sh₁ : Shell σ),
        (∃ s s', source.next r s = some (exchange.reading, r₁, s')) ∧
        Follows k source emphasis history exchange.stages r sh r₁ sh₁ ∧
          ∀ fuel, Shell.runWithin k source emphasis (fuel + 1) r sh =
            Shell.runWithin k source emphasis fuel r₁ sh₁) ∨
      (∃ (close : Close) (r₁ : ρ) (sh₁ : Shell σ),
        (∃ s s', source.next r s = some (close.reading, r₁, s')) ∧
        Follows k source emphasis history close.stages r sh r₁ sh₁ ∧
          ∀ fuel, Shell.runWithin k source emphasis (fuel + 1) r sh = some (close.result, r₁, sh₁)) ∨
      ∃ (outcomes : List (Except ReadFailure Reading)) (stages : List Stage) (r₁ : ρ) (sh₁ : Shell σ),
        Hold k source r₁ sh₁ outcomes stages ∧ Gives source r outcomes r₁ ∧
        Follows k source emphasis history stages r sh r₁ sh₁ ∧
          ∀ fuel, Shell.runWithin k source emphasis (fuel + 1) r sh = none := by
  have ready := beforeReading_follows faithful modest emphasis r sh
  cases read : source.next r (sh.beforeReading k).system with
  | none => exact .inr (.inr ⟨_, _, _, _, .reading read, .nothing r, ready, fun fuel => by
      rw [Shell.runWithin, read]⟩)
  | some answer =>
      obtain ⟨outcome, r₁, s₁⟩ := answer
      -- The stages of the round up to here; the cases add those that are left.
      have given {stages : List Stage} {r' : ρ} {sh' : Shell σ}
          (later : Follows k source emphasis history stages r₁
            { sh.beforeReading k with system := s₁ } r' sh') :=
        ready.trans ((Takes.read read).follows faithful modest later)
      rcases outcome with cause | text | _ | _
      · refine .inr (.inl ⟨.unreadable cause, _, _, ⟨_, _, read⟩, given (.nothing _ _), fun fuel => ?_⟩)
        rw [Shell.runWithin, read]
        rfl
      · cases executed : ({ sh.beforeReading k with system := s₁ } : Shell σ).executeLine k text with
        | none =>
            refine .inr (.inr ⟨_, _, _, _, .line text executed, .more read (.nothing _),
              given (.nothing _ _), fun fuel => ?_⟩)
            simp only [Shell.runWithin, read, executed]
        | some reached =>
            obtain ⟨result, sh₁⟩ := reached
            have line {stages : List Stage} {r' : ρ} {sh' : Shell σ}
                (later : Follows k source emphasis history stages r₁ sh₁ r' sh') :=
              given ((Takes.execute executed).follows faithful modest later)
            rcases result with e | _ | _
            · cases fatal : e.isFatal with
              | true =>
                  refine .inr (.inl ⟨.unable text e fatal, _, _, ⟨_, _, read⟩,
                    line ((Takes.giveUp _ _ e).follows faithful modest (.nothing _ _)), fun fuel => ?_⟩)
                  simp only [Shell.runWithin, read, executed, fatal, if_true]
                  rfl
              | false =>
                  refine .inl ⟨.failed text e fatal, _, _, ⟨_, _, read⟩,
                    line ((Takes.complain _ _ e).follows faithful modest (.nothing _ _)), fun fuel => ?_⟩
                  simp only [Shell.runWithin, read, executed, fatal, Bool.false_eq_true, if_false]
            · refine .inl ⟨.done text, _, _, ⟨_, _, read⟩, line (.nothing _ _), fun fuel => ?_⟩
              simp only [Shell.runWithin, read, executed]
            · refine .inr (.inl ⟨.left text, _, _, ⟨_, _, read⟩, line (.nothing _ _), fun fuel => ?_⟩)
              simp only [Shell.runWithin, read, executed]
              rfl
      · refine .inl ⟨.interrupted, _, _, ⟨_, _, read⟩,
          given ((Takes.breakLine _ _).follows faithful modest (.nothing _ _)), fun fuel => ?_⟩
        simp only [Shell.runWithin, read]
      · refine .inr (.inl ⟨.ended, _, _, ⟨_, _, read⟩, given (.nothing _ _), fun fuel => ?_⟩)
        simp only [Shell.runWithin, read]
        rfl

/-- A loop that comes to an end is a row of exchanges and a close, which says what it comes to. -/
theorem runWithin_course (faithful : k.Faithful history) (modest : source.IsModest history) {fuel : Nat}
    {result : Except Failure Unit}
    (ran : Shell.runWithin k source emphasis fuel r sh = some (result, r', sh')) :
    ∃ (exchanges : List Exchange) (close : Close), result = close.result ∧
      Gives source r (exchanges.map Exchange.reading ++ [close.reading]) r' ∧
      Follows k source emphasis history (exchanges.flatMap Exchange.stages ++ close.stages) r sh r'
        sh' := by
  induction fuel generalizing r sh with
  | zero => simp [Shell.runWithin] at ran
  | succ fuel ih =>
      rcases round_cases faithful modest emphasis r sh with
        ⟨exchange, r₁, sh₁, ⟨_, _, read⟩, first, goes⟩ | ⟨close, r₁, sh₁, ⟨_, _, read⟩, last, ends⟩ |
        ⟨_, _, _, _, -, -, -, held⟩
      · obtain ⟨exchanges, close, same, given, others⟩ := ih (goes fuel ▸ ran)
        exact ⟨exchange :: exchanges, close, same, .more read given, by simpa using first.trans others⟩
      · obtain ⟨rfl, rfl, rfl⟩ := by simpa only [ends, Option.some.injEq, Prod.mk.injEq] using ran
        exact ⟨[], close, rfl, .more read (.nothing _), last⟩
      · simp [held] at ran

/-- A loop that does not come to an end within so many readings has got through that many exchanges, or is
held up behind fewer. -/
theorem runWithin_held (faithful : k.Faithful history) (modest : source.IsModest history) {fuel : Nat}
    (ran : Shell.runWithin k source emphasis fuel r sh = none) :
    ∃ (exchanges : List Exchange) (r' : ρ) (sh' : Shell σ),
      (exchanges.length = fuel ∧ Gives source r (exchanges.map Exchange.reading) r' ∧
        Follows k source emphasis history (exchanges.flatMap Exchange.stages) r sh r' sh') ∨
      ∃ outcomes stages, Hold k source r' sh' outcomes stages ∧
        Gives source r (exchanges.map Exchange.reading ++ outcomes) r' ∧
        Follows k source emphasis history (exchanges.flatMap Exchange.stages ++ stages) r sh r' sh' := by
  induction fuel generalizing r sh with
  | zero => exact ⟨[], r, sh, .inl ⟨rfl, .nothing r, .nothing r sh⟩⟩
  | succ fuel ih =>
      rcases round_cases faithful modest emphasis r sh with
        ⟨exchange, r₁, sh₁, ⟨_, _, read⟩, first, goes⟩ | ⟨_, _, _, -, -, ends⟩ |
        ⟨outcomes, stages, r₁, sh₁, hold, given, last, -⟩
      · obtain ⟨exchanges, r', sh', ⟨long, given, others⟩ | ⟨outcomes, stages, hold, given, others⟩⟩ :=
          ih (goes fuel ▸ ran)
        · exact ⟨exchange :: exchanges, r', sh',
            .inl ⟨by simp [long], .more read given, by simpa using first.trans others⟩⟩
        · exact ⟨exchange :: exchanges, r', sh',
            .inr ⟨outcomes, stages, hold, .more read given, by simpa using first.trans others⟩⟩
      · simp [ends] at ran
      · exact ⟨[], r₁, sh₁, .inr ⟨outcomes, stages, hold, given, last⟩⟩

/-- A run that comes to an end is a loop and, last of all, one shutdown. -/
theorem run_follows (faithful : k.Faithful history) (modest : source.IsModest history)
    {result : Except Failure Unit} {ended : Shell σ}
    (ran : sh.run k source emphasis r = some (result, ended)) :
    ∃ (exchanges : List Exchange) (close : Close) (r' : ρ), result = close.result ∧
      Gives source r (exchanges.map Exchange.reading ++ [close.reading]) r' ∧
      Follows k source emphasis history
        (exchanges.flatMap Exchange.stages ++ close.stages ++ [.stop]) r sh r' ended := by
  rw [Shell.run] at ran
  split at ran
  · simp at ran
  · next outcome r' sh' looped =>
    obtain ⟨reached, stopped, same⟩ := Option.map_eq_some_iff.1 ran
    obtain ⟨rfl, rfl⟩ := Prod.mk.inj same
    obtain ⟨exchanges, close, rfl, given, loop⟩ := runWithin_course faithful modest looped
    exact ⟨exchanges, close, r', rfl, given,
      loop.trans ((Takes.stop stopped).follows faithful modest (.nothing _ _))⟩

/-- A run that does not come to an end is held up. -/
theorem run_held (faithful : k.Faithful history) (modest : source.IsModest history)
    (ran : sh.run k source emphasis r = none) : HeldUp k source emphasis history r sh := by
  rw [Shell.run] at ran
  split at ran
  · next looped =>
    obtain ⟨exchanges, r', sh', overrun | held⟩ := runWithin_held faithful modest looped
    · exact ⟨exchanges, r', sh', .inl overrun⟩
    · exact ⟨exchanges, r', sh', .inr (.inl held)⟩
  · next outcome r' sh' looped =>
    obtain ⟨exchanges, close, -, given, loop⟩ := runWithin_course faithful modest looped
    exact ⟨exchanges, r', sh', .inr (.inr ⟨close, Option.map_eq_none_iff.1 ran, given, loop⟩)⟩

end

end JobShell
