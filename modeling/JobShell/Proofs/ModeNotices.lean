/-
Module: JobShell.Proofs.ModeNotices
Purpose: Notices of the mode over every interleaving.  What happens to a switch is cut into moments, and a
  suspend signal or a toggle may fall between any two of them, also between the two moments of a drain.  No
  toggle is lost, none is reported twice, and installing the switch again changes nothing.
Main exports: Moment, Watch, Watch.step, Watch.run, SignalActions.IsLawful, togglesIn, alternating,
  Watch.Sound, notices_alternate
-/
import JobShell.Machine.System
import Mathlib.Algebra.Ring.Parity
import Mathlib.Data.List.Induction

namespace JobShell

variable {σ : Type}

/-! ### Moments of a switch -/

/-- What can happen to a switch at one moment.  A drain takes two: it reads the count, and later it reports
up to the count that it has read. -/
inductive Moment where
  | install
  | suspend
  | toggle
  | read
  | report
deriving Repr, DecidableEq

/-- Whether a moment toggles the mode. -/
def Moment.isToggle : Moment → Bool
  | suspend | toggle => true
  | install | read | report => false

/-- How many toggles there are among some moments. -/
def togglesIn (moments : List Moment) : Nat :=
  moments.countP Moment.isToggle

/-- A switch at work on a system: the count that the drain under way has read, and all modes that drains have
reported, in their order. -/
structure Watch (σ : Type) where
  switch : ModeSwitch := {}
  system : σ
  seen : Option UInt64 := none
  told : List Mode := []
deriving Repr, DecidableEq

namespace Watch

/-- What a moment does, if it can come.  A drain holds the switch for itself, so that meanwhile it is neither
installed nor drained a second time.  A suspend signal comes to the switch only once an action is registered
for it, and from the very moment on in which one is. -/
def step (signals : SignalActions σ) (w : Watch σ) : Moment → Option (Watch σ)
  | .install =>
      if w.seen.isSome then none
      else
        match w.switch.install signals w.system with
        | (_, switch, system) => some { w with switch := switch, system := system }
  | .suspend =>
      if (signals.actions w.system).isEmpty then none
      else some { w with switch := w.switch.countSignal (signals.actions w.system) }
  | .toggle => some { w with switch := w.switch.toggle }
  | .read => if w.seen.isSome then none else some { w with seen := some w.switch.toggles }
  | .report =>
      w.seen.map fun seen =>
        match w.switch.reportUpTo seen with
        | (modes, switch) => { w with switch := switch, seen := none, told := w.told ++ modes }

/-- What moments do one after the other, if each of them can come where it stands. -/
def run (signals : SignalActions σ) (w : Watch σ) (moments : List Moment) : Option (Watch σ) :=
  moments.foldlM (step signals) w

end Watch

/-- How registering goes: it adds one action behind those that are there, or it is refused and adds none. -/
structure SignalActions.IsLawful (signals : SignalActions σ) : Prop where
  registered : ∀ {system system' : σ} {action : ActionId},
    signals.register system = (.ok action, system') →
      signals.actions system' = signals.actions system ++ [action]
  refused : ∀ {system system' : σ} {text : String},
    signals.register system = (.error text, system') → signals.actions system' = signals.actions system

/-- The first modes of the row foreground-only, normal, foreground-only, and so on. -/
def alternating (count : Nat) : List Mode :=
  (List.range count).map fun index => if index % 2 = 0 then .foregroundOnly else .normal

/-! ### What toggles come to -/

theorem togglesIn_concat (moments : List Moment) (moment : Moment) :
    togglesIn (moments ++ [moment]) = togglesIn moments + if moment.isToggle then 1 else 0 := by
  simp [togglesIn, List.countP_append, List.countP_cons]

theorem afterToggles_eq_foregroundOnly_iff (count : Nat) :
    Mode.afterToggles count = .foregroundOnly ↔ Odd count := by
  rw [Mode.afterToggles, Nat.odd_iff]
  split_ifs with odd <;> simp [odd]

/-- All modes entered up to a count alternate. -/
theorem map_afterToggles_eq_alternating (count : Nat) :
    (List.range' 1 count).map Mode.afterToggles = alternating count := by
  rw [List.range'_eq_map_range, List.map_map, alternating]
  refine List.map_congr_left fun index _ => ?_
  rcases Nat.mod_two_eq_zero_or_one index with even | odd
  · have next : (1 + index) % 2 = 1 := by omega
    simp [Mode.afterToggles, even, next]
  · have next : (1 + index) % 2 = 0 := by omega
    simp [Mode.afterToggles, odd, next]

/-- The last mode reported is the one in force after the count up to which was reported. -/
theorem getLastD_alternating (count : Nat) :
    (alternating count).getLastD .normal = Mode.afterToggles count := by
  rw [← map_afterToggles_eq_alternating]
  cases count with
  | zero => rfl
  | succ count => simp [List.range'_concat, Nat.add_comm]

theorem toNat_toggle {s : ModeSwitch} (few : s.toggles.toNat + 1 < 2 ^ 64) :
    s.toggle.toggles.toNat = s.toggles.toNat + 1 := by
  rw [ModeSwitch.toggle, UInt64.toNat_add]
  exact Nat.mod_eq_of_lt few

/-! ### What every moment keeps -/

/-- What is known of a watch after some moments: the count holds their toggles, an action is registered
once the switch is installed and never a second one, a drain under way has read the count at its own moment,
and everything up to the count reported last has been told once. -/
structure Watch.Sound (signals : SignalActions σ) (moments : List Moment) (w : Watch σ) : Prop where
  counted : w.switch.toggles.toNat = togglesIn moments
  registered : (signals.actions w.system).length = if w.switch.action.isSome then 1 else 0
  told : w.told = (List.range' 1 w.switch.reported.toNat).map Mode.afterToggles
  behind : w.switch.reported.toNat ≤ togglesIn moments
  reading : ∀ seen, w.seen = some seen → w.switch.reported.toNat ≤ seen.toNat ∧
    ∃ before during, moments = before ++ .read :: during ∧
      (∀ moment ∈ during, moment.isToggle = true) ∧ togglesIn before = seen.toNat

namespace Watch

variable {signals : SignalActions σ} {moments : List Moment} {w w' : Watch σ}

/-- A new switch on a system without actions. -/
theorem sound_new {start : σ} (unregistered : signals.actions start = []) :
    Sound signals [] { system := start } where
  counted := rfl
  registered := by simp [unregistered]
  told := rfl
  behind := Nat.le_refl 0
  reading := by simp

/-- One more toggle. -/
theorem Sound.toggled (sound : Sound signals moments w) {moment : Moment}
    (toggles : moment.isToggle = true) (few : togglesIn (moments ++ [moment]) < 2 ^ 64) :
    Sound signals (moments ++ [moment]) { w with switch := w.switch.toggle } := by
  have more : togglesIn (moments ++ [moment]) = togglesIn moments + 1 := by
    simp [togglesIn_concat, toggles]
  have one : w.switch.toggle.toggles.toNat = w.switch.toggles.toNat + 1 :=
    toNat_toggle (by rw [sound.counted, ← more]; exact few)
  refine ⟨by rw [one, sound.counted, more], sound.registered, sound.told,
    by rw [more]; exact Nat.le_succ_of_le sound.behind, fun seen reads => ?_⟩
  obtain ⟨behind, before, during, rfl, only, same⟩ := sound.reading seen reads
  refine ⟨behind, before, during ++ [moment], by simp, fun other member => ?_, same⟩
  rcases List.mem_append.1 member with earlier | last
  · exact only other earlier
  · exact List.mem_singleton.1 last ▸ toggles

/-- A moment without a toggle, outside of drains. -/
theorem Sound.idle (sound : Sound signals moments w) {moment : Moment}
    (idle : moment.isToggle = false) (free : w.seen = none) {switch : ModeSwitch} {system : σ}
    (toggles : switch.toggles = w.switch.toggles) (reported : switch.reported = w.switch.reported)
    (registered : (signals.actions system).length = if switch.action.isSome then 1 else 0) :
    Sound signals (moments ++ [moment]) { w with switch := switch, system := system } := by
  have same : togglesIn (moments ++ [moment]) = togglesIn moments := by
    simp [togglesIn_concat, idle]
  refine ⟨?_, registered, ?_, ?_, ?_⟩
  · rw [same, toggles, sound.counted]
  · rw [reported, sound.told]
  · rw [same, reported]
    exact sound.behind
  · simp [free]

/-- Installing registers an action if there is none, and does nothing if there is one. -/
theorem Sound.installed (lawful : signals.IsLawful) (sound : Sound signals moments w)
    (free : w.seen = none) {result : Except ProcessFailure Unit} {switch : ModeSwitch} {system : σ}
    (install : w.switch.install signals w.system = (result, switch, system)) :
    Sound signals (moments ++ [.install]) { w with switch := switch, system := system } := by
  have registered := sound.registered
  rw [ModeSwitch.install] at install
  split_ifs at install with there
  · obtain ⟨-, rfl, rfl⟩ := install
    exact sound.idle rfl free rfl rfl registered
  · simp only [there, Bool.false_eq_true, if_false, List.length_eq_zero_iff] at registered
    rcases made : signals.register w.system with ⟨text | action, system'⟩
    · simp only [made, Prod.mk.injEq] at install
      obtain ⟨-, rfl, rfl⟩ := install
      refine sound.idle rfl free rfl rfl ?_
      simp [lawful.refused made, registered, there]
    · simp only [made, Prod.mk.injEq] at install
      obtain ⟨-, rfl, rfl⟩ := install
      refine sound.idle rfl free rfl rfl ?_
      simp [lawful.registered made, registered]

/-- A suspend signal is counted by the one action there is. -/
theorem Sound.countSignal_eq_toggle (sound : Sound signals moments w)
    (handled : signals.actions w.system ≠ []) :
    w.switch.countSignal (signals.actions w.system) = w.switch.toggle := by
  have single : (signals.actions w.system).length = 1 := by
    have some := List.length_pos_iff.2 handled
    have registered := sound.registered
    split_ifs at registered
    · exact registered
    · omega
  obtain ⟨action, only⟩ := List.length_eq_one_iff.1 single
  rw [only]
  rfl

/-- The drain under way reports what has been entered between the count reported last and the one that it
has read. -/
theorem Sound.drained (sound : Sound signals moments w) {seen : UInt64} (reads : w.seen = some seen) :
    Sound signals (moments ++ [.report])
      { w with
        switch := (w.switch.reportUpTo seen).2
        seen := none
        told := w.told ++ (w.switch.reportUpTo seen).1 } := by
  obtain ⟨behind, before, during, rfl, -, same⟩ := sound.reading seen reads
  have total : togglesIn (before ++ .read :: during ++ [.report]) =
      togglesIn (before ++ .read :: during) := togglesIn_concat _ .report
  refine ⟨by rw [total]; exact sound.counted, sound.registered, ?_, ?_, by simp⟩
  · have whole : w.switch.reported.toNat + (seen.toNat - w.switch.reported.toNat) = seen.toNat := by
      omega
    rw [sound.told, ModeSwitch.reportUpTo, Mode.transitions, ← List.map_append,
      Nat.add_comm _ 1, List.range'_append_1, whole]
  · rw [total]
    simp [ModeSwitch.reportUpTo, ← same, togglesIn, List.countP_append]

/-- Whatever comes next, a sound watch stays sound. -/
theorem Sound.step (lawful : signals.IsLawful) (sound : Sound signals moments w) {moment : Moment}
    (next : w.step signals moment = some w') (few : togglesIn (moments ++ [moment]) < 2 ^ 64) :
    Sound signals (moments ++ [moment]) w' := by
  cases moment with
  | install =>
      rw [Watch.step] at next
      split_ifs at next with busy
      rcases install : w.switch.install signals w.system with ⟨result, switch, system⟩
      obtain rfl : { w with switch := switch, system := system } = w' := by simpa [install] using next
      exact sound.installed lawful (by simpa using busy) install
  | suspend =>
      rw [Watch.step] at next
      split_ifs at next with unhandled
      obtain rfl := Option.some.inj next
      rw [sound.countSignal_eq_toggle (by simpa using unhandled)]
      exact sound.toggled rfl few
  | toggle =>
      obtain rfl := Option.some.inj next
      exact sound.toggled rfl few
  | read =>
      rw [Watch.step] at next
      split_ifs at next with busy
      obtain rfl := Option.some.inj next
      have idle : Sound signals (moments ++ [.read]) w :=
        sound.idle rfl (by simpa using busy) rfl rfl sound.registered
      refine ⟨idle.counted, idle.registered, idle.told, idle.behind, fun seen reads => ?_⟩
      obtain rfl := Option.some.inj reads
      exact ⟨sound.counted ▸ sound.behind, moments, [], rfl, by simp, sound.counted.symm⟩
  | report =>
      obtain ⟨seen, reads, rfl⟩ := Option.map_eq_some_iff.1 next
      exact sound.drained reads

theorem run_concat (start : Watch σ) (moment : Moment) :
    start.run signals (moments ++ [moment]) =
      (start.run signals moments).bind fun w => w.step signals moment := by
  simp [run, List.foldlM_append]

/-- What comes first in a run is one. -/
theorem exists_run_of_append {start : Watch σ} {later : List Moment}
    (ran : start.run signals (moments ++ later) = some w) : ∃ r, start.run signals moments = some r := by
  rw [run, List.foldlM_append] at ran
  obtain ⟨r, first, -⟩ := Option.bind_eq_some_iff.1 ran
  exact ⟨r, first⟩

/-- What happens to a new switch leaves it sound. -/
theorem sound_of_run (lawful : signals.IsLawful) {start : σ}
    (unregistered : signals.actions start = [])
    (ran : ({ system := start } : Watch σ).run signals moments = some w)
    (few : togglesIn moments < 2 ^ 64) : Sound signals moments w := by
  induction moments using List.reverseRecOn generalizing w with
  | nil =>
      obtain rfl := Option.some.inj ran
      exact sound_new unregistered
  | append_singleton moments moment ih =>
      rw [run_concat] at ran
      obtain ⟨earlier, before, next⟩ := Option.bind_eq_some_iff.1 ran
      have fewer : togglesIn moments < 2 ^ 64 :=
        Nat.lt_of_le_of_lt (by simp [togglesIn_concat]) few
      exact (ih before fewer).step lawful next few

/-- A drain between whose two moments nothing happens is a drain at one stroke. -/
theorem run_drain (free : w.seen = none) :
    w.run signals [.read, .report] =
      some { w with switch := w.switch.drain.2, told := w.told ++ w.switch.drain.1 } := by
  simp [run, step, free, ModeSwitch.drain]

end Watch

/-- A new switch is installed, toggled, suspended and drained in any order and number of times.  The mode is
always the parity of the toggles so far.  After every drain all that has been reported is foreground-only,
normal, foreground-only and so on, with one mode for each toggle before the drain read the count, and the
last of them is the mode in force when it was read. -/
theorem notices_alternate {signals : SignalActions σ} (lawful : signals.IsLawful) {start : σ}
    (unregistered : signals.actions start = []) {moments : List Moment} {w : Watch σ}
    (ran : ({ system := start } : Watch σ).run signals moments = some w)
    (few : togglesIn moments < 2 ^ 64 - 1) :
    (w.switch.mode = .foregroundOnly ↔ Odd (togglesIn moments)) ∧
    ∀ earlier, moments = earlier ++ [.report] → ∃ before during r,
      earlier = before ++ .read :: during ∧ (∀ moment ∈ during, moment.isToggle = true) ∧
      w.told = alternating (togglesIn before) ∧
      ({ system := start } : Watch σ).run signals before = some r ∧
      w.told.getLastD .normal = r.switch.mode := by
  have sound := Watch.sound_of_run lawful unregistered ran (by omega)
  refine ⟨by rw [ModeSwitch.mode, sound.counted, afterToggles_eq_foregroundOnly_iff], ?_⟩
  rintro earlier rfl
  rw [Watch.run_concat] at ran
  obtain ⟨last, upTo, report⟩ := Option.bind_eq_some_iff.1 ran
  have fewer : togglesIn earlier < 2 ^ 64 := by
    rw [togglesIn_concat] at few
    omega
  obtain ⟨seen, reads, rfl⟩ := Option.map_eq_some_iff.1 report
  obtain ⟨-, before, during, rfl, only, same⟩ :=
    (Watch.sound_of_run lawful unregistered upTo fewer).reading seen reads
  have told : last.told ++ (last.switch.reportUpTo seen).1 = alternating (togglesIn before) := by
    rw [same, ← map_afterToggles_eq_alternating]
    exact sound.told
  obtain ⟨r, uncut⟩ := Watch.exists_run_of_append upTo
  have counted : r.switch.toggles.toNat = togglesIn before := by
    refine (Watch.sound_of_run lawful unregistered uncut (Nat.lt_of_le_of_lt ?_ fewer)).counted
    simp [togglesIn, List.countP_append]
  refine ⟨before, during, r, rfl, only, told, uncut, ?_⟩
  simp only
  rw [told, getLastD_alternating, ModeSwitch.mode, counted]

/-! ### The machine -/

/-- Registering an action on the machine always adds it. -/
theorem Machine.signalActions_lawful : Machine.signalActions.IsLawful where
  registered := by
    intro m m' action made
    obtain ⟨same, rfl⟩ := Prod.mk.inj made
    obtain rfl := Except.ok.inj same
    rfl
  refused := by
    intro m m' text made
    cases (Prod.mk.inj made).1

/-- On the machine, with the switch installed twice and a suspend signal in the midst of the second drain. -/
theorem notices_alternate_machine :
    ∃ w, ({ system := default } : Watch Machine).run Machine.signalActions
        [.toggle, .install, .suspend, .read, .report, .install, .suspend, .read, .suspend, .report] = some w ∧
      (w.switch.mode = .foregroundOnly ↔ Odd 4) ∧ w.told = [.foregroundOnly, .normal, .foregroundOnly] ∧
      ∃ before during r,
        [.toggle, .install, .suspend, .read, .report, .install, .suspend, .read, .suspend] =
          before ++ .read :: during ∧
        (∀ moment ∈ during, moment.isToggle = true) ∧ w.told = alternating (togglesIn before) ∧
        ({ system := default } : Watch Machine).run Machine.signalActions before = some r ∧
        w.told.getLastD .normal = r.switch.mode := by
  have notices {w : Watch Machine} (ran : ({ system := default } : Watch Machine).run
      Machine.signalActions
        [.toggle, .install, .suspend, .read, .report, .install, .suspend, .read, .suspend, .report] =
          some w) :=
    notices_alternate Machine.signalActions_lawful rfl ran (by decide)
  exact ⟨_, rfl, (notices rfl).1, rfl, (notices rfl).2 _ rfl⟩

end JobShell
