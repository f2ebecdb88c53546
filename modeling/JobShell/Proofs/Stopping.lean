/-
Module: JobShell.Proofs.Stopping
Purpose: What a stop comes to, whoever is on its list.  Asking round after round needs no bound where a sleep lasts
  as long as it was to last: the grace period lets in so many rounds and no more.  Everybody on the list is
  collected by then or killed, and what is returned are the children that were collected, each once and with its
  true status, as far as it can be read.
Main exports: Asks, Stops, Event.gathered, Stopping, stop_completes
-/
import JobShell.Proofs.Blocking

namespace JobShell

variable {σ : Type} {k : Kernel σ} {history : σ → History}

/-! ### Rounds without a bound -/

/-- Asking round after round until nobody is left or the deadline has passed, however many rounds it takes; the
rounds are counted. -/
inductive Asks (k : Kernel σ) (deadline : Nat) :
    Nat → List Pid → σ → List Collected → List Pid → σ → Prop where
  | last {pids pending : List Pid} {s t : σ} {ended : List Collected}
      (each : pollEach k pids s = (ended, pending, t)) (due : pending = [] ∨ deadline ≤ k.clock t) :
      Asks k deadline 1 pids s ended pending t
  | again {pids pending left : List Pid} {s t u : σ} {ended later : List Collected} {rounds : Nat}
      (each : pollEach k pids s = (ended, pending, t)) (some : pending ≠ []) (early : k.clock t < deadline)
      (others : Asks k deadline rounds pending (k.sleep pollInterval t) later left u) :
      Asks k deadline (rounds + 1) pids s (ended ++ later) left u

/-- The system when every child on a list has been asked to end. -/
def askedToEnd (k : Kernel σ) (pids : List Pid) (s : σ) : σ :=
  pids.foldl (fun s pid => send k pid .terminate s) s

/-- A stop with a grace period in microseconds, by the rounds that it takes, what they return and leave, and what
killing returns. -/
structure Stops (k : Kernel σ) (pids : List Pid) (grace : Nat) (s : σ) (rounds : Nat)
    (ended : List Collected) (left : List Pid) (t : σ) (killed : List Collected) (s' : σ) : Prop where
  asks : Asks k (k.clock (askedToEnd k pids s) + grace) rounds pids (askedToEnd k pids s) ended left t
  kills : killEach k left t = some (killed, s')

namespace Asks

variable {deadline rounds : Nat} {pids left : List Pid} {s t : σ} {ended : List Collected}

/-- There is one way only in which asking goes on and ends. -/
theorem unique (asks : Asks k deadline rounds pids s ended left t) {rounds' : Nat} {left' : List Pid} {t' : σ}
    {ended' : List Collected} (again : Asks k deadline rounds' pids s ended' left' t') :
    rounds' = rounds ∧ ended' = ended ∧ left' = left ∧ t' = t := by
  induction asks generalizing rounds' ended' left' t' with
  | last each due =>
      cases again with
      | last each' =>
          rw [each] at each'
          obtain ⟨rfl, rfl, rfl⟩ := by simpa only [Prod.mk.injEq] using each'
          exact ⟨rfl, rfl, rfl, rfl⟩
      | again each' some early =>
          rw [each] at each'
          obtain ⟨rfl, rfl, rfl⟩ := by simpa only [Prod.mk.injEq] using each'
          rcases due with nobody | late
          · exact absurd nobody some
          · omega
  | again each some early others ih =>
      cases again with
      | last each' due =>
          rw [each] at each'
          obtain ⟨rfl, rfl, rfl⟩ := by simpa only [Prod.mk.injEq] using each'
          rcases due with nobody | late
          · exact absurd nobody some
          · omega
      | again each' _ _ others' =>
          rw [each] at each'
          obtain ⟨rfl, rfl, rfl⟩ := by simpa only [Prod.mk.injEq] using each'
          obtain ⟨rfl, rfl, rfl, rfl⟩ := ih others'
          exact ⟨rfl, rfl, rfl, rfl⟩

/-- Where a bound on the rounds is not reached it makes no difference. -/
theorem pollUntil_eq (asks : Asks k deadline rounds pids s ended left t) {bound : Nat} (enough : rounds ≤ bound) :
    pollUntil k deadline bound pids s = (ended, left, t) := by
  induction asks generalizing bound with
  | @last pids pending s t ended each due =>
      obtain ⟨bound, rfl⟩ := Nat.exists_eq_add_of_le' enough
      have done : (pending.isEmpty || decide (deadline ≤ k.clock t)) = true := by
        simpa only [Bool.or_eq_true, List.isEmpty_iff, decide_eq_true_eq] using due
      simp only [pollUntil, each, done, if_true]
  | @again pids pending left s t u ended later rounds each some early others ih =>
      obtain ⟨bound, rfl⟩ := Nat.exists_eq_add_of_le' (Nat.le_trans (Nat.le_add_left 1 rounds) enough)
      have open' : (pending.isEmpty || decide (deadline ≤ k.clock t)) = false := by
        simpa only [Bool.or_eq_false_iff, List.isEmpty_eq_false_iff, decide_eq_false_iff_not, Nat.not_le]
          using ⟨some, early⟩
      simp only [pollUntil, each, open', Bool.false_eq_true, if_false, ih (Nat.le_of_succ_le_succ enough)]

/-- Whoever is left is left when the deadline has passed. -/
theorem due (asks : Asks k deadline rounds pids s ended left t) : left = [] ∨ deadline ≤ k.clock t := by
  induction asks with
  | last each due => exact due
  | again each some early others ih => exact ih

end Asks

/-- Where a sleep lasts for some period, the deadline lets in as many rounds as there are such periods up to it, and
one at the start. -/
theorem exists_asks (keeps : k.KeepsTime) {deadline period count : Nat} {s : σ} (pids : List Pid)
    (lasts : ∀ s, k.clock s + period ≤ k.clock (k.sleep pollInterval s))
    (long : deadline ≤ k.clock s + count * period) :
    ∃ rounds ended left t, Asks k deadline rounds pids s ended left t ∧ rounds ≤ count + 1 := by
  induction count generalizing pids s with
  | zero =>
      rcases each : pollEach k pids s with ⟨ended, pending, t⟩
      have passed : k.clock s ≤ k.clock t := by simpa only [each] using pollEach_clock keeps pids s
      rw [Nat.zero_mul, Nat.add_zero] at long
      exact ⟨1, ended, pending, t, .last each (.inr (Nat.le_trans long passed)), Nat.le_refl 1⟩
  | succ count ih =>
      rcases each : pollEach k pids s with ⟨ended, pending, t⟩
      have passed : k.clock s ≤ k.clock t := by simpa only [each] using pollEach_clock keeps pids s
      by_cases due : pending = [] ∨ deadline ≤ k.clock t
      · exact ⟨1, ended, pending, t, .last each due, Nat.le_add_left 1 _⟩
      · rw [not_or, Nat.not_le] at due
        have slept := lasts t
        have still : deadline ≤ k.clock (k.sleep pollInterval t) + count * period := by
          rw [Nat.succ_mul] at long
          omega
        obtain ⟨rounds, later, left, u, others, few⟩ := ih pending still
        exact ⟨rounds + 1, ended ++ later, left, u, .again each due.1 due.2 others, Nat.succ_le_succ few⟩

/-! ### What is gathered -/

/-- The child that an answer hands over, with its status, if that can be read. -/
def WaitAnswer.gathered : WaitAnswer → Option Collected
  | changed pid word =>
      match WaitWord.decode word with
      | .ok (some status) => some ⟨pid, status⟩
      | _ => none
  | _ => none

/-- The child that is handed over by an event, with its status, if that can be read. -/
def Event.gathered : Event → Option Collected
  | polled _ answer | awaited _ answer => answer.gathered
  | _ => none

theorem WaitAnswer.gathered_word (pid : Pid) (how : Ending) :
    (WaitAnswer.changed pid how.word).gathered = if how.isNamed then some ⟨pid, how.status⟩ else none := by
  cases named : how.isNamed with
  | true => simp [gathered, how.decode_word_of_isNamed named]
  | false => simp [gathered, how.decode_word_of_not_isNamed named]

/-- What settles a wait is gathered if it can be read. -/
theorem Settled.gathered {pid : Pid} {answer : WaitAnswer} {result : Except ProcessFailure Termination}
    (settled : Settled pid answer result) :
    answer.gathered = result.toOption.map (Collected.mk pid) := by
  cases settled with
  | gone => rfl
  | ended how =>
      rw [WaitAnswer.gathered_word]
      cases named : how.isNamed with
      | true => simp [Ending.verdict_of_isNamed named, Except.toOption]
      | false => simp [Ending.verdict_of_not_isNamed named, Except.toOption]

/-- What is understood of an answer is gathered if it is the end of the child. -/
theorem Understood.gathered {pid : Pid} {answer : WaitAnswer}
    {result : Except ProcessFailure (Option Termination)} (understood : Understood pid answer result) :
    answer.gathered = result.toOption.join.map (Collected.mk pid) := by
  cases understood with
  | running => rfl
  | interrupted => rfl
  | @settled _ outcome settled =>
      rw [settled.gathered]
      cases outcome <;> rfl

/-- An event by which a child is gathered collects it. -/
theorem Event.collects_of_gathered {event : Event} {child : Collected} (gathered : event.gathered = some child) :
    event.collects = some child.pid := by
  have answered {answer : WaitAnswer} (here : answer.gathered = some child) :
      answer.collects = some child.pid := by
    cases answer with
    | quiet => simp [WaitAnswer.gathered] at here
    | failed => simp [WaitAnswer.gathered] at here
    | changed pid word =>
        simp only [WaitAnswer.gathered] at here
        split at here
        · obtain rfl := Option.some.inj here
          rfl
        · cases here
  cases event with
  | polled target answer => exact answered gathered
  | awaited pid answer => exact answered gathered
  | _ => cases gathered

/-- A child that is collected has ended, and is gathered with its true status if that can be read. -/
theorem Event.Fits.gathered {h : History} {event : Event} {pid : Pid} (fits : event.Fits h)
    (collects : event.collects = some pid) :
    ∃ how, h.fate pid = some how ∧
      event.gathered = if how.isNamed then some ⟨pid, how.status⟩ else none := by
  have answered {target : WaitTarget} {answer : WaitAnswer} (here : answer.Fits h target)
      (known : answer.collects = some pid) : ∃ how, h.fate pid = some how ∧
        answer.gathered = if how.isNamed then some ⟨pid, how.status⟩ else none := by
    cases answer with
    | quiet => cases known
    | failed => cases known
    | changed other word =>
        obtain rfl := Option.some.inj known
        obtain ⟨-, -, how, fate, rfl⟩ := here
        exact ⟨how, fate, WaitAnswer.gathered_word other how⟩
  cases event with
  | polled target answer => exact answered fits collects
  | awaited other answer => exact answered fits.2 collects
  | _ => cases collects

/-- Of one child nothing is gathered but by the events that collect it. -/
theorem filter_filterMap_gathered (calls : List Event) (pid : Pid) :
    (calls.filterMap Event.gathered).filter (·.pid == pid) =
      (calls.filter (·.collects == some pid)).filterMap Event.gathered := by
  rw [List.filter_filterMap, List.filterMap_filter]
  congr 1
  funext call
  cases gathered : call.gathered with
  | none => simp
  | some child =>
      rw [Event.collects_of_gathered gathered]
      by_cases same : child.pid = pid <;> simp [same, Option.filter]

section

variable {s t s' : σ} {pids left : List Pid} {ended killed : List Collected} {calls : List Event}

/-- A round returns what is gathered in it. -/
theorem pollEach_gathered (faithful : k.Faithful history) (each : pollEach k pids s = (ended, left, t))
    (passage : Passage (history s) calls (history t)) : ended = calls.filterMap Event.gathered := by
  induction pids generalizing s ended left calls with
  | nil =>
      simp only [pollEach, Prod.mk.injEq] at each
      obtain ⟨rfl, -, rfl⟩ := each
      obtain rfl := (Passage.refl (history s)).calls_unique passage
      rfl
  | cons pid rest ih =>
      rcases first : pollFor k pid s with ⟨result, u⟩
      rcases others : pollEach k rest u with ⟨later, pending, v⟩
      obtain ⟨answer, understood, asking⟩ := pollFor_passage faithful first
      obtain ⟨remaining, -, following⟩ := pollEach_passage faithful others
      simp only [pollEach, first, others] at each
      have reached : v = t ∧ ended = (result.toOption.join.map (Collected.mk pid)).toList ++ later := by
        rcases result with _ | _ | _ <;> simp_all [Except.toOption]
      obtain ⟨rfl, rfl⟩ := reached
      obtain rfl := (asking.trans following).calls_unique passage
      rw [ih others following, ← understood.gathered]
      cases gathered : answer.gathered <;> simp [Event.gathered, gathered]

/-- Asking round after round returns what is gathered in it. -/
theorem Asks.gathered (faithful : k.Faithful history) {deadline rounds : Nat}
    (asks : Asks k deadline rounds pids s ended left t) (passage : Passage (history s) calls (history t)) :
    ended = calls.filterMap Event.gathered := by
  induction asks generalizing calls with
  | last each due => exact pollEach_gathered faithful each passage
  | again each some early others ih =>
      obtain ⟨first, -, now⟩ := pollEach_passage faithful each
      obtain ⟨later, -, behind⟩ := pollUntil_passage faithful (others.pollUntil_eq (Nat.le_refl _))
      have whole := now.trans ((faithful.sleep pollInterval _).trans behind)
      obtain rfl := whole.calls_unique passage
      rw [pollEach_gathered faithful each now, ih behind, List.nil_append, List.filterMap_append]

/-- Of a wait nothing is gathered but by its last answer. -/
theorem filterMap_gathered_waits (pid : Pid) (interrupted : Nat) (answer : WaitAnswer) :
    (waits pid interrupted answer).filterMap Event.gathered = answer.gathered.toList := by
  rw [waits, List.filterMap_append, List.filterMap_replicate_of_none (by rfl), List.nil_append]
  cases gathered : answer.gathered <;> simp [Event.gathered, gathered]

/-- Killing returns what is gathered in it. -/
theorem killEach_gathered (faithful : k.Faithful history) (kills : killEach k pids s = some (killed, t))
    (passage : Passage (history s) calls (history t)) : killed = calls.filterMap Event.gathered := by
  induction pids generalizing s killed calls with
  | nil =>
      simp only [killEach, Option.some.injEq, Prod.mk.injEq] at kills
      obtain ⟨rfl, rfl⟩ := kills
      obtain rfl := (Passage.refl (history s)).calls_unique passage
      rfl
  | cons pid rest ih =>
      have noted := faithful.note (collectWarning s!"pid {pid} ignored SIGTERM, killing it") s
      have sent := noted.trans (send_passage faithful pid .kill _)
      rcases waited : waitFor k pid (send k pid .kill
          (k.note (collectWarning s!"pid {pid} ignored SIGTERM, killing it") s)) with _ | ⟨result, u⟩
      · simp only [killEach, waited, reduceCtorEq] at kills
      · rcases others : killEach k rest u with _ | ⟨later, v⟩
        · simp only [killEach, waited, others, reduceCtorEq] at kills
        · obtain ⟨interrupted, answer, settled, waiting⟩ := waitFor_passage faithful waited
          obtain ⟨remaining, -, following⟩ := killEach_passage faithful others
          simp only [killEach, waited, others] at kills
          have reached : v = t ∧ killed = (result.toOption.map (Collected.mk pid)).toList ++ later := by
            cases result <;> simp_all [Except.toOption]
          obtain ⟨rfl, rfl⟩ := reached
          obtain rfl := ((sent.trans waiting).trans following).calls_unique passage
          rw [ih others following, ← settled.gathered, List.filterMap_append, List.filterMap_append,
            filterMap_gathered_waits]
          rfl

end

/-! ### Who is left, and who is there -/

/-- Whoever is asked after in a round is on its list. -/
theorem Round.asked_mem {pids left : List Pid} {calls : List Event} (round : Round pids calls left)
    {pid : Pid} {answer : WaitAnswer} (asked : .polled (.only pid) answer ∈ calls) : pid ∈ pids := by
  induction round with
  | done => cases asked
  | kept understood others ih =>
      rcases List.mem_cons.1 asked with same | later
      · cases same
        exact List.mem_cons_self
      · exact List.mem_cons_of_mem _ (ih later)
  | dropped settled others ih =>
      rcases List.mem_cons.1 asked with same | later
      · cases same
        exact List.mem_cons_self
      · exact List.mem_cons_of_mem _ (ih later)

theorem Rounds.asked_mem {pids left : List Pid} {calls : List Event} (rounds : Rounds pids calls left)
    {pid : Pid} {answer : WaitAnswer} (asked : .polled (.only pid) answer ∈ calls) : pid ∈ pids := by
  induction rounds with
  | done => cases asked
  | more round others ih =>
      rcases List.mem_append.1 asked with now | later
      · exact round.asked_mem now
      · exact round.sublist.subset (ih later)

/-- Whoever is left by a round without interruptions is a child that is still there. -/
theorem Round.mem_numbers {pids left : List Pid} {calls : List Event} (round : Round pids calls left)
    {h h' : History} (passage : Passage h calls h') (once : pids.Nodup)
    (uninterrupted : ∀ pid, .polled (.only pid) (.failed Errno.interrupted) ∉ calls) {pid : Pid}
    (still : pid ∈ left) : pid ∈ h'.numbers := by
  induction round generalizing h with
  | done => cases still
  | @kept first rest left answer calls understood others ih =>
      obtain ⟨g, before, fits, after⟩ := passage.cons
      obtain ⟨fresh, onceLater⟩ := List.nodup_cons.1 once
      rcases List.mem_cons.1 still with rfl | later
      · rcases understood.eq_of_ok_none with rfl | rfl
        · obtain ⟨⟨other, there, admitted⟩, -⟩ := fits
          obtain rfl : pid = other := by simpa [WaitTarget.admits] using admitted
          apply after.mem
          · intro call member collects
            obtain ⟨_, _, rfl, inside⟩ := others.polled member
            exact fresh (inside pid collects)
          · exact History.mem_numbers_concat (by simp [Event.collects, WaitAnswer.collects]) there
        · exact absurd List.mem_cons_self (uninterrupted pid)
      · exact ih after onceLater (fun pid member => uninterrupted pid (List.mem_cons_of_mem _ member)) later
  | @dropped first rest left answer result calls settled others ih =>
      obtain ⟨g, -, -, after⟩ := passage.cons
      exact ih after (List.nodup_cons.1 once).2
        (fun pid member => uninterrupted pid (List.mem_cons_of_mem _ member)) still

/-- Whoever is left when the deadline has passed is a child that is still there, if no question was interrupted. -/
theorem Asks.mem_numbers (faithful : k.Faithful history) {deadline rounds : Nat} {pids left : List Pid}
    {s t : σ} {ended : List Collected} {calls : List Event}
    (asks : Asks k deadline rounds pids s ended left t) (passage : Passage (history s) calls (history t))
    (once : pids.Nodup)
    (uninterrupted : ∀ pid, .polled (.only pid) (.failed Errno.interrupted) ∉ calls) {pid : Pid}
    (still : pid ∈ left) : pid ∈ (history t).numbers := by
  induction asks generalizing calls with
  | last each due =>
      obtain ⟨asked, round, now⟩ := pollEach_passage faithful each
      obtain rfl := now.calls_unique passage
      exact round.mem_numbers now once uninterrupted still
  | again each some early others ih =>
      obtain ⟨first, round, now⟩ := pollEach_passage faithful each
      obtain ⟨later, -, behind⟩ := pollUntil_passage faithful (others.pollUntil_eq (Nat.le_refl _))
      have whole := now.trans ((faithful.sleep pollInterval _).trans behind)
      obtain rfl := whole.calls_unique passage
      apply ih behind (round.sublist.nodup once) _ still
      intro other member
      exact uninterrupted other (List.mem_append_right _ member)

/-- Calls that make no child leave those that they do not collect. -/
theorem History.foldl_childrenAfter_of_barren {calls : List Event}
    (barren : ∀ call ∈ calls, call.makes = none) (children : List Child) :
    calls.foldl History.childrenAfter children =
      children.filter fun child => ∀ call ∈ calls, call.collects ≠ some child.pid := by
  induction calls generalizing children with
  | nil => exact (List.filter_eq_self.2 (by simp)).symm
  | cons call later ih =>
      rw [List.foldl_cons, ih fun event member => barren event (List.mem_cons_of_mem _ member)]
      cases collected : call.collects with
      | none =>
          rw [History.childrenAfter_of_isPlain ⟨barren call List.mem_cons_self, collected⟩]
          simp [collected]
      | some pid =>
          rw [History.childrenAfter_of_collects collected, List.filter_filter]
          apply List.filter_congr
          intro child _
          by_cases same : child.pid = pid
          · simp [collected, same]
          · simp [collected, same, Ne.symm same]

/-- Whoever is collected by a stop is on its list. -/
theorem Stopped.collected_mem {pids : List Pid} {calls : List Event} (stopped : Stopped pids calls)
    {call : Event} (member : call ∈ calls) {pid : Pid} (collects : call.collects = some pid) : pid ∈ pids := by
  rcases stopped.mem member with ⟨_, -, _, rfl⟩ | ⟨_, answer, rfl | rfl, inside⟩
  · cases collects
  · exact inside pid collects
  · exact inside pid collects

section

variable {pids : List Pid} {calls : List Event} {h h' : History}

/-- A stop takes away the children on its list and no others. -/
theorem Stopped.children_eq (stopped : Stopped pids calls) (passage : Passage h calls h') :
    h'.children = h.children.filter fun child => child.pid ∉ pids := by
  rw [passage.children_eq, History.foldl_childrenAfter_of_barren stopped.makes]
  apply List.filter_congr
  intro child member
  rw [decide_eq_decide]
  constructor
  · intro spared inside
    exact stopped.not_mem_numbers passage inside (passage.mem spared (List.mem_map_of_mem member))
  · intro outside call among collects
    exact outside (stopped.collected_mem among collects)

/-- Of a child on the list that was there, a stop gathers what can be read of its end. -/
theorem Stopped.gathered (stopped : Stopped pids calls) (passage : Passage h calls h') {pid : Pid}
    (listed : pid ∈ pids) (there : pid ∈ h.numbers) :
    ∃ how, h'.fate pid = some how ∧
      (calls.filterMap Event.gathered).filter (·.pid == pid) =
        if how.isNamed then [⟨pid, how.status⟩] else [] := by
  have gone := stopped.not_mem_numbers passage listed
  rcases passage.collected_once pid stopped.makes with ⟨call, only, -, -⟩ | ⟨-, same⟩
  · have among : call ∈ calls.filter (·.collects == some pid) := by simp [only]
    obtain ⟨member, collects⟩ := List.mem_filter.1 among
    rw [beq_iff_eq] at collects
    obtain ⟨before, after, rfl⟩ := List.append_of_mem member
    obtain ⟨g, -, behind⟩ := passage.split
    obtain ⟨g', -, fits, rest⟩ := behind.cons
    obtain ⟨how, known, gathered⟩ := fits.gathered collects
    refine ⟨how, ?_, ?_⟩
    · have kept := History.fate_concat_of_some fits (by simp [stopped.makes call member]) known
      apply rest.fate_eq_of_some _ kept
      intro later inside
      simp [stopped.makes later (by simp [inside])]
    · rw [filter_filterMap_gathered, only, List.filterMap_cons, gathered]
      cases how.isNamed <;> rfl
  · exact absurd (same.2 there) gone

/-- Nobody is gathered by a stop who is not on its list, or was not there. -/
theorem Stopped.mem_of_gathered (stopped : Stopped pids calls) (passage : Passage h calls h')
    {child : Collected} (gathered : child ∈ calls.filterMap Event.gathered) :
    child.pid ∈ pids ∧ child.pid ∈ h.numbers := by
  obtain ⟨call, member, known⟩ := List.mem_filterMap.1 gathered
  have collects := Event.collects_of_gathered known
  refine ⟨stopped.collected_mem member collects, ?_⟩
  rcases passage.collected_once child.pid stopped.makes with ⟨_, -, there, -⟩ | ⟨none, -⟩
  · exact there
  · have among : call ∈ calls.filter (·.collects == some child.pid) := by simp [member, collects]
    simp [none] at among

end

/-! ### Whole stops -/

/-- What a stop comes to, by the calls of its rounds, the system after them, and the calls of killing. -/
structure Stopping (k : Kernel σ) (history : σ → History) (pids : List Pid) (grace : Nat) (s : σ)
    (asked : List Event) (t : σ) (killing : List Event) (collected : List Collected) (s' : σ) : Prop where
  /-- Everybody on the list is asked to end, in their order, before anybody is asked after. -/
  rounds : Passage (history s) (askings pids ++ asked) (history t)
  polls : ∀ call ∈ asked, ∃ pid ∈ pids, ∃ answer, call = .polled (.only pid) answer
  killings : Passage (history t) killing (history s')
  kills : ∀ call ∈ killing, ∃ pid ∈ pids, call = .signalled pid .kill ∨ ∃ answer, call = .awaited pid answer
  /-- Nobody is killed before the grace period is over. -/
  due : killing ≠ [] → k.clock (askedToEnd k pids s) + grace ≤ k.clock t
  /-- The children on the list are gone, all others are there as before. -/
  children : (history s').children = (history s).children.filter fun child => child.pid ∉ pids
  /-- A child on the list that was there has ended, and is returned once with its status if that has a name. -/
  returned : ∀ pid ∈ pids, pid ∈ (history s).numbers → ∃ how, (history s').fate pid = some how ∧
    collected.filter (·.pid == pid) = if how.isNamed then [⟨pid, how.status⟩] else []
  /-- Nobody else is returned. -/
  only : ∀ child ∈ collected, child.pid ∈ pids ∧ child.pid ∈ (history s).numbers
  /-- Without repeats, whoever is killed has not been collected by then; and is a child that is still there, if no
  question was interrupted. -/
  left : pids.Nodup → ∀ pid, .signalled pid .kill ∈ killing →
    (∀ call ∈ asked, call.collects ≠ some pid) ∧
      ((∀ other, .polled (.only other) (.failed Errno.interrupted) ∉ asked) → pid ∈ (history t).numbers)
  /-- Without repeats, nobody is signalled after having been collected. -/
  spares : pids.Nodup → ∀ pid, (askings pids ++ (asked ++ killing)).Pairwise (Event.Spares pid)

/-- A stop that ends comes to what is said of it. -/
theorem Stops.stopping (faithful : k.Faithful history) {pids left : List Pid} {grace rounds : Nat} {s t s' : σ}
    {ended killed : List Collected} (stops : Stops k pids grace s rounds ended left t killed s') :
    ∃ asked killing, Stopping k history pids grace s asked t killing (ended ++ killed) s' := by
  obtain ⟨asks, kills⟩ := stops
  obtain ⟨asked, inRounds, polling⟩ := pollUntil_passage faithful (asks.pollUntil_eq (Nat.le_refl _))
  obtain ⟨killing, inTurn, waiting⟩ := killEach_passage faithful kills
  have asking : Passage (history s) (askings pids) (history (askedToEnd k pids s)) :=
    askings_passage faithful pids s
  have stopped : Stopped pids (askings pids ++ (asked ++ killing)) := .mk inRounds inTurn
  have whole := asking.trans (polling.trans waiting)
  have returned : ended ++ killed = (askings pids ++ (asked ++ killing)).filterMap Event.gathered := by
    have silent : (askings pids).filterMap Event.gathered = [] := by
      rw [List.filterMap_eq_nil_iff]
      intro call member
      obtain ⟨_, -, rfl⟩ := List.mem_map.1 member
      rfl
    rw [List.filterMap_append, silent, List.nil_append, List.filterMap_append,
      ← asks.gathered faithful polling, ← killEach_gathered faithful kills waiting]
  refine ⟨asked, killing, asking.trans polling, ?polls, waiting, ?kills, ?due, stopped.children_eq whole,
    ?returned, ?only, ?left, ?spares⟩
  case polls =>
    intro call member
    obtain ⟨pid, answer, rfl, -⟩ := inRounds.polled member
    exact ⟨pid, inRounds.asked_mem member, answer, rfl⟩
  case kills =>
    intro call member
    obtain ⟨pid, inside, same | ⟨answer, same, -⟩⟩ := inTurn.mem member
    · exact ⟨pid, inRounds.sublist.subset inside, .inl same⟩
    · exact ⟨pid, inRounds.sublist.subset inside, .inr ⟨answer, same⟩⟩
  case due =>
    intro some
    rcases asks.due with rfl | late
    · cases inTurn
      exact absurd rfl some
    · exact late
  case returned =>
    intro pid listed there
    rw [returned]
    exact stopped.gathered whole listed there
  case only =>
    intro child member
    rw [returned] at member
    exact stopped.mem_of_gathered whole member
  case left =>
    intro once pid sent
    have still : pid ∈ left := by
      obtain ⟨other, inside, same | ⟨_, same, -⟩⟩ := inTurn.mem sent
      · exact (Event.signalled.inj same).1 ▸ inside
      · cases same
    constructor
    · exact inRounds.not_collected (List.nodup_iff_count.1 once pid) still
    · intro uninterrupted
      exact asks.mem_numbers faithful polling once uninterrupted still
  case spares =>
    intro once pid
    exact stopped.pairwise_spares (List.nodup_iff_count.1 once pid)

/-- A grace period in whole milliseconds lets in as many rounds as the shell reckons with. -/
theorem roundsWithin_eq (milliseconds : Nat) :
    roundsWithin milliseconds = (milliseconds * 1000 + 9999) / 10000 + 1 := by
  simp only [roundsWithin, pollInterval]
  omega

/-- Whoever is on the list, a stop with any grace period comes to an end in one way only, after at most as many
rounds as there are intervals of ten milliseconds in the period, and one more; and it comes to what is said of it.
In whole milliseconds it is the stop of the shell. -/
theorem stop_completes (faithful : k.Faithful history) (deadly : k.IsDeadly history) (keeps : k.KeepsTime)
    (pids : List Pid) (grace : Nat) (s : σ) :
    ∃ rounds ended left t killed s', Stops k pids grace s rounds ended left t killed s' ∧
      rounds ≤ (grace + 9999) / 10000 + 1 ∧
      (∀ rounds' ended' left' t' killed' u', Stops k pids grace s rounds' ended' left' t' killed' u' →
        rounds' = rounds ∧ ended' ++ killed' = ended ++ killed ∧ u' = s') ∧
      (∀ milliseconds, grace = milliseconds * 1000 →
        stopAll k pids milliseconds s = some (ended ++ killed, s')) ∧
      ∃ asked killing, Stopping k history pids grace s asked t killing (ended ++ killed) s' := by
  have long : k.clock (askedToEnd k pids s) + grace ≤
      k.clock (askedToEnd k pids s) + (grace + 9999) / 10000 * (pollInterval * 1000) := by
    simp only [pollInterval]
    omega
  obtain ⟨rounds, ended, left, t, asks, few⟩ := exists_asks keeps pids (keeps.sleep pollInterval) long
  obtain ⟨⟨killed, s'⟩, kills⟩ := Option.isSome_iff_exists.1 (killEach_isSome faithful deadly left t)
  have stops : Stops k pids grace s rounds ended left t killed s' := ⟨asks, kills⟩
  refine ⟨rounds, ended, left, t, killed, s', stops, few, ?_, ?_, stops.stopping faithful⟩
  · intro rounds' ended' left' t' killed' u' other
    obtain ⟨rfl, rfl, rfl, rfl⟩ := asks.unique other.asks
    obtain ⟨rfl, rfl⟩ := Prod.mk.inj (Option.some.inj (kills.symm.trans other.kills))
    exact ⟨rfl, rfl, rfl⟩
  · rintro milliseconds rfl
    have polled := asks.pollUntil_eq (roundsWithin_eq milliseconds ▸ few)
    rw [askedToEnd] at polled
    simp only [stopAll, polled, kills]

/-- Of two children one has ended and the other one does not react.  One of them is on the list twice, and somebody
else's number too; the other one is killed after three intervals. -/
theorem stop_completes_rehearsed :
    let s : Rehearsal :=
      { happened := [.forked ⟨["a"], false, []⟩ 100, .forked ⟨["b"], false, []⟩ 101, .ended 101 (.exited 3)] }
    ∃ rounds ended left t killed s',
      Stops Rehearsal.kernel [100, 101, 101, 7] 30000 s rounds ended left t killed s' ∧ rounds ≤ 4 ∧
        stopAll Rehearsal.kernel [100, 101, 101, 7] 30 s = some (ended ++ killed, s') ∧
        ended ++ killed = [⟨101, .exited 3⟩, ⟨100, .signaled 9⟩] := by
  intro s
  obtain ⟨rounds, ended, left, t, killed, s', stops, few, -, whole, -⟩ :=
    stop_completes Rehearsal.faithful Rehearsal.isDeadly Rehearsal.keepsTime [100, 101, 101, 7] 30000 s
  have stopped := whole 30 rfl
  have told : (stopAll Rehearsal.kernel [100, 101, 101, 7] 30 s).map Prod.fst =
      some [⟨101, .exited 3⟩, ⟨100, .signaled 9⟩] := by decide +kernel
  rw [stopped] at told
  exact ⟨rounds, ended, left, t, killed, s', stops, few, stopped, Option.some.inj told⟩

end JobShell
