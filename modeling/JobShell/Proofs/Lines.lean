/-
Module: JobShell.Proofs.Lines
Purpose: The lines that the shell writes about background children.  A line that names a child, or reports it,
  tells by itself which of the two it does and for which number, and no other line of an operation can be taken
  for one.
Main exports: Event.announces, Event.reports, Event.announces_announcement, Event.reports_report
-/
import JobShell.Proofs.Deeds

namespace JobShell

namespace Event

/-- Whether it is the line that names the background child of a number. -/
def announces (pid : Pid) (event : Event) : Bool :=
  event == announcement pid

/-- Whether it is a line that reports the background child of a number, whatever it says of its end. -/
def reports (pid : Pid) : Event → Bool
  | wrote .out text => s!"background pid {pid} is done: ".toList.isPrefixOf text.toList
  | _ => false

/-- Whether it is a line about the background child of a number. -/
def tells (pid : Pid) (event : Event) : Bool :=
  event.announces pid || event.reports pid

end Event

/-! ### Numbers in lines -/

/-- The characters of a number. -/
def numeral (number : Int) : List Char :=
  (toString number).toList

theorem numeral_eq (number : Int) :
    numeral number =
      if 0 ≤ number then Nat.toDigits 10 number.toNat
      else '-' :: Nat.toDigits 10 (-number).toNat := by
  rw [numeral, Int.toString_eq_repr, Int.repr_eq_if]
  split <;> simp

/-- A number is written in digits, after a sign if it is negative. -/
theorem isDigit_of_mem_numeral {number : Int} {c : Char} (member : c ∈ numeral number) :
    c.isDigit = true ∨ c = '-' := by
  rw [numeral_eq] at member
  split at member
  · exact .inl (Nat.isDigit_of_mem_toDigits (by decide) (by decide) member)
  · rcases List.mem_cons.1 member with rfl | digit
    · exact .inr rfl
    · exact .inl (Nat.isDigit_of_mem_toDigits (by decide) (by decide) digit)

theorem toDigits_injective {one other : Nat} (same : Nat.toDigits 10 one = Nat.toDigits 10 other) :
    one = other := by
  rw [← @Nat.ofDigitChars_ten_toDigits one, same, Nat.ofDigitChars_ten_toDigits]

/-- Digits do not start with a sign. -/
theorem toDigits_ne_sign {n : Nat} {rest : List Char} : Nat.toDigits 10 n ≠ '-' :: rest := by
  intro same
  have inside : '-' ∈ Nat.toDigits 10 n := by simp [same]
  have digit := Nat.isDigit_of_mem_toDigits (by decide) (by decide) inside
  simp at digit

/-- Different numbers are written differently. -/
theorem numeral_injective {one other : Int} (same : numeral one = numeral other) : one = other := by
  rw [numeral_eq, numeral_eq] at same
  split at same <;> split at same
  · next left right =>
    have magnitude := toDigits_injective same
    omega
  · exact absurd same toDigits_ne_sign
  · exact absurd same.symm toDigits_ne_sign
  · next left right =>
    have magnitude := toDigits_injective (List.cons.inj same).2
    omega

/-- The first word of a text that goes on after a blank. -/
theorem takeWhile_word {word rest : List Char} (solid : ' ' ∉ word) :
    (word ++ ' ' :: rest).takeWhile (· != ' ') = word := by
  rw [List.takeWhile_append_of_pos]
  · simp
  · intro c member
    have different : c ≠ ' ' := fun same => solid (same ▸ member)
    simpa using different

/-- A number has no blank in it. -/
theorem blank_notMem_numeral (number : Int) : ' ' ∉ numeral number := by
  intro member
  rcases isDigit_of_mem_numeral member with digit | sign
  · simp at digit
  · simp at sign

/-- A number is no word. -/
theorem numeral_ne_is (number : Int) : numeral number ≠ ['i', 's'] := by
  intro same
  have inside : 'i' ∈ numeral number := by simp [same]
  rcases isDigit_of_mem_numeral inside with digit | sign
  · simp at digit
  · simp at sign

/-! ### The lines -/

/-- How every line about a background child starts. -/
def aboutBackground : List Char :=
  "background pid ".toList

theorem toList_announcement (pid : Pid) :
    (s!"background pid is {pid}" ++ "\n").toList =
      aboutBackground ++ (['i', 's'] ++ ' ' :: (numeral pid ++ ['\n'])) := by
  have start : "background pid is ".toList = aboutBackground ++ ['i', 's', ' '] := by rfl
  have close : "\n".toList = ['\n'] := by rfl
  show ("background pid is " ++ toString pid ++ "\n").toList = _
  simp only [String.toList_append, start, close, numeral, List.append_assoc, List.cons_append,
    List.nil_append]

theorem toList_reportStart (pid : Pid) :
    (s!"background pid {pid} is done: ").toList =
      aboutBackground ++ (numeral pid ++ ' ' :: "is done: ".toList) := by
  have close : " is done: ".toList = ' ' :: "is done: ".toList := by rfl
  show ("background pid " ++ toString pid ++ " is done: ").toList = _
  simp only [String.toList_append, close, numeral, List.append_assoc]
  exact rfl

theorem toList_report (child : Collected) :
    (child.describe ++ "\n").toList =
      (s!"background pid {child.pid} is done: ").toList ++ (child.status.describe ++ "\n").toList := by
  show ("background pid " ++ toString child.pid ++ " is done: " ++ child.status.describe ++ "\n").toList =
    ("background pid " ++ toString child.pid ++ " is done: ").toList ++ _
  simp only [String.toList_append, List.append_assoc]

namespace Event

variable {pid other : Pid} {child : Collected}

/-- A line that names a child names no other. -/
theorem announces_announcement : (announcement other).announces pid = true ↔ other = pid := by
  constructor
  · intro same
    have text : s!"background pid is {other}" ++ "\n" = s!"background pid is {pid}" ++ "\n" := by
      simpa [announces, announcement, said] using same
    have chars := congrArg String.toList text
    rw [toList_announcement, toList_announcement] at chars
    simp only [List.append_cancel_left_eq, List.cons.injEq, List.append_cancel_right_eq, true_and] at chars
    exact numeral_injective chars
  · rintro rfl
    simp [announces]

/-- A line that names a child reports none. -/
theorem reports_announcement : (announcement other).reports pid = false := by
  rw [Bool.eq_false_iff]
  intro reported
  have start : (s!"background pid {pid} is done: ").toList <+:
      (s!"background pid is {other}" ++ "\n").toList := List.isPrefixOf_iff_prefix.1 reported
  rw [toList_reportStart, toList_announcement, List.prefix_append_right_inj] at start
  obtain ⟨rest, same⟩ := start
  rw [List.append_assoc, List.cons_append] at same
  have words := congrArg (List.takeWhile (· != ' ')) same
  rw [takeWhile_word (blank_notMem_numeral pid), takeWhile_word (by decide)] at words
  exact numeral_ne_is pid words

/-- A line that reports a child reports no other. -/
theorem reports_report : (report child).reports pid = true ↔ child.pid = pid := by
  have unfolded : (report child).reports pid =
      (s!"background pid {pid} is done: ").toList.isPrefixOf (child.describe ++ "\n").toList := rfl
  rw [unfolded, List.isPrefixOf_iff_prefix, toList_report]
  constructor
  · intro start
    rw [toList_reportStart, toList_reportStart, List.append_assoc, List.prefix_append_right_inj] at start
    obtain ⟨rest, same⟩ := start
    rw [List.append_assoc, List.cons_append, List.append_assoc, List.cons_append] at same
    have words := congrArg (List.takeWhile (· != ' ')) same
    rw [takeWhile_word (blank_notMem_numeral pid), takeWhile_word (blank_notMem_numeral child.pid)] at words
    exact (numeral_injective words).symm
  · rintro rfl
    exact List.prefix_append _ _

/-- A line that reports a child names none. -/
theorem announces_report : (report child).announces pid = false := by
  rw [Bool.eq_false_iff]
  intro same
  have text : child.describe ++ "\n" = s!"background pid is {pid}" ++ "\n" := by
    simpa [announces, announcement, report, said] using same
  have chars := congrArg String.toList text
  rw [toList_report, toList_reportStart, toList_announcement, List.append_assoc,
    List.append_cancel_left_eq, List.append_assoc, List.cons_append] at chars
  have words := congrArg (List.takeWhile (· != ' ')) chars
  rw [takeWhile_word (blank_notMem_numeral child.pid), takeWhile_word (by decide)] at words
  exact numeral_ne_is child.pid words

/-- A line that starts otherwise is about no background child. -/
theorem tells_said_of_head {line : String} {c : Char}
    (start : (line ++ "\n").toList.head? = some c) (different : c ≠ 'b') (pid : Pid) :
    (said line).tells pid = false := by
  obtain ⟨rest, start⟩ := List.head?_eq_some_iff.1 start
  have about : aboutBackground = 'b' :: "ackground pid ".toList := by rfl
  rw [tells, Bool.or_eq_false_iff]
  constructor
  · rw [Bool.eq_false_iff]
    intro same
    have text : line ++ "\n" = s!"background pid is {pid}" ++ "\n" := by
      simpa [announces, announcement, said] using same
    have chars := congrArg String.toList text
    rw [toList_announcement, about, start] at chars
    exact different (List.cons.inj chars).1
  · rw [Bool.eq_false_iff]
    intro reported
    have begins : (s!"background pid {pid} is done: ").toList <+: (line ++ "\n").toList :=
      List.isPrefixOf_iff_prefix.1 reported
    rw [toList_reportStart, start, about] at begins
    obtain ⟨_, same⟩ := begins
    exact different (List.cons.inj same).1.symm

/-- The line that tells a status is about no background child. -/
theorem tells_status (status : Termination) (pid : Pid) : (said status.describe).tells pid = false := by
  cases status with
  | exited code =>
      have start : "exit value ".toList = 'e' :: "xit value ".toList := by rfl
      refine tells_said_of_head (c := 'e') ?_ (by decide) pid
      show ("exit value " ++ toString code ++ "\n").toList.head? = _
      rw [String.toList_append, String.toList_append, start]
      rfl
  | signaled signal =>
      have start : "terminated by signal ".toList = 't' :: "erminated by signal ".toList := by rfl
      refine tells_said_of_head (c := 't') ?_ (by decide) pid
      show ("terminated by signal " ++ toString signal ++ "\n").toList.head? = _
      rw [String.toList_append, String.toList_append, start]
      rfl

/-- The notice of a mode is about no background child. -/
theorem tells_notice (mode : Mode) (pid : Pid) : (said mode.notice).tells pid = false := by
  cases mode with
  | normal => exact tells_said_of_head (c := 'E') (by rfl) (by decide) pid
  | foregroundOnly => exact tells_said_of_head (c := 'E') (by rfl) (by decide) pid

end Event

end JobShell
