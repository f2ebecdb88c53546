/-
Module: JobShell.Proofs.OptionParsing
Purpose: What any row of arguments does to any options.  The arguments are taken up to the first one that
  spells no switch, and the parsing fails exactly if there is such a one, with its name; the switches named up to
  there join those that were given before, and none is taken back.  So rows can be parsed one after the other,
  and of a row that is parsed to its end nothing counts but which switches it names.
Main exports: Switch.IsSpelledBy, IsSpelling, Switch.IsNamedIn, KnownStart, Options.Gains, Options.Reads,
  Options.parse_reads, Options.parse_append, Options.parse_knownStart
-/
import JobShell.Options

namespace JobShell

/-! ### Spellings -/

/-- An argument spells a switch with one dash or with two. -/
def Switch.IsSpelledBy (switch : Switch) (argument : String) : Prop :=
  argument = switch.short ∨ argument = switch.long

instance (switch : Switch) (argument : String) : Decidable (switch.IsSpelledBy argument) :=
  inferInstanceAs (Decidable (_ ∨ _))

/-- Some switch is spelled so. -/
def IsSpelling (argument : String) : Prop :=
  ∃ switch : Switch, switch.IsSpelledBy argument

/-- A switch is spelled somewhere in a row of arguments. -/
def Switch.IsNamedIn (switch : Switch) (arguments : List String) : Prop :=
  ∃ argument ∈ arguments, switch.IsSpelledBy argument

instance (switch : Switch) (arguments : List String) : Decidable (switch.IsNamedIn arguments) :=
  inferInstanceAs (Decidable (∃ argument ∈ arguments, _))

namespace Switch

variable {argument wanted : String} {switch other : Switch} {later : List String}

/-- What is found for an argument is the switch that it spells.  As no two switches share a spelling, the order
in which they are tried does not count. -/
theorem ofSpelling_eq_some_iff : ofSpelling argument = some switch ↔ switch.IsSpelledBy argument := by
  constructor
  · intro found
    have spelled := List.find?_some found
    simpa [IsSpelledBy] using spelled
  · intro spelled
    rcases spelled with rfl | rfl
    · cases switch <;> rfl
    · cases switch <;> rfl

theorem ofSpelling_eq_none_iff : ofSpelling argument = none ↔ ¬IsSpelling argument := by
  rw [Option.eq_none_iff_forall_ne_some, IsSpelling, not_exists]
  exact forall_congr' fun switch => not_congr ofSpelling_eq_some_iff

/-- An argument spells one switch at most. -/
theorem IsSpelledBy.iff_eq (spelled : switch.IsSpelledBy argument) :
    other.IsSpelledBy argument ↔ other = switch := by
  constructor
  · intro also
    have found := ofSpelling_eq_some_iff.2 also
    rw [ofSpelling_eq_some_iff.2 spelled] at found
    exact (Option.some.inj found).symm
  · rintro rfl
    exact spelled

/-- What is found for a name is the switch that has it. -/
theorem ofName_eq_some_iff : ofName wanted = some switch ↔ switch.name = wanted := by
  constructor
  · intro found
    have named := List.find?_some found
    exact (by simpa using named : wanted = switch.name).symm
  · rintro rfl
    cases switch <;> rfl

theorem not_isNamedIn_nil : ¬switch.IsNamedIn [] := by
  simp [IsNamedIn]

theorem isNamedIn_cons :
    switch.IsNamedIn (argument :: later) ↔ switch.IsSpelledBy argument ∨ switch.IsNamedIn later := by
  simp [IsNamedIn]

end Switch

/-! ### The longest start that is known -/

/-- A start of a row of arguments that has spellings only, and is the longest such start. -/
structure KnownStart (arguments start : List String) : Prop where
  starts : start <+: arguments
  known : ∀ argument ∈ start, IsSpelling argument
  longest : ∀ other, other <+: arguments → (∀ argument ∈ other, IsSpelling argument) →
    other.length ≤ start.length

namespace KnownStart

variable {arguments start other later : List String} {argument : String}

theorem unique (one : KnownStart arguments start) (two : KnownStart arguments other) : other = start := by
  have shorter := one.longest other two.starts two.known
  have longer := two.longest start one.starts one.known
  exact (List.prefix_of_prefix_length_le two.starts one.starts shorter).eq_of_length_le longer

theorem iff_eq (one : KnownStart arguments start) : KnownStart arguments other ↔ other = start := by
  constructor
  · exact one.unique
  · rintro rfl
    exact one

/-- Where all arguments are known, the start is all of them. -/
theorem whole (known : ∀ argument ∈ arguments, IsSpelling argument) : KnownStart arguments arguments :=
  ⟨List.prefix_rfl, known, fun _ starts _ => starts.length_le⟩

/-- The start ends in front of the first argument that is not known. -/
theorem before (known : ∀ argument ∈ start, IsSpelling argument) (strange : ¬IsSpelling argument) :
    KnownStart (start ++ argument :: later) start := by
  refine ⟨List.prefix_append _ _, known, ?_⟩
  intro other starts allKnown
  apply Nat.le_of_not_lt
  intro longer
  -- A longer start would have the strange argument in it.
  have stop : start ++ [argument] <+: start ++ argument :: later := ⟨later, by simp⟩
  have inside : start ++ [argument] <+: other := by
    apply List.prefix_of_prefix_length_le stop starts
    rw [List.length_append, List.length_singleton]
    exact longer
  exact strange (allKnown argument (inside.subset (by simp)))

end KnownStart

namespace Options

variable {o o' : Options} {switch given : Switch} {argument : String} {arguments later : List String}

/-! ### Switches that have been given -/

/-- Giving a switch adds it and takes none back. -/
theorem has_give : (o.give given).has switch = true ↔ switch = given ∨ o.has switch = true := by
  cases given <;> cases switch <;> simp [give, has]

/-- Options are told by the switches that have been given. -/
theorem eq_of_has (same : ∀ switch, o.has switch = true ↔ o'.has switch = true) : o = o' := by
  have agree : ∀ switch, o.has switch = o'.has switch := fun switch => Bool.eq_iff_iff.2 (same switch)
  calc o
      = ⟨o.has .debug, o.has .help, o.has .quiet, o.has .version⟩ := rfl
    _ = ⟨o'.has .debug, o'.has .help, o'.has .quiet, o'.has .version⟩ := by simp only [agree]
    _ = o' := rfl

/-- To ask by name is to ask for the switch that has the name. -/
theorem isSet_iff {name : String} :
    o.isSet name = true ↔ ∃ switch : Switch, switch.name = name ∧ o.has switch = true := by
  simp only [← Switch.ofName_eq_some_iff]
  cases found : Switch.ofName name with
  | none => simp [isSet, found]
  | some switch => simp [isSet, found]

/-- The switches that have been given are those from before and those that the arguments name. -/
def Gains (o : Options) (arguments : List String) (o' : Options) : Prop :=
  ∀ switch, o'.has switch = true ↔ o.has switch = true ∨ switch.IsNamedIn arguments

namespace Gains

theorem nil (o : Options) : o.Gains [] o := by
  intro switch
  simp [Switch.not_isNamedIn_nil]

theorem cons (spelled : given.IsSpelledBy argument) (gains : (o.give given).Gains later o') :
    o.Gains (argument :: later) o' := by
  intro switch
  calc o'.has switch = true
      ↔ (o.give given).has switch = true ∨ switch.IsNamedIn later := gains switch
    _ ↔ (switch = given ∨ o.has switch = true) ∨ switch.IsNamedIn later := by rw [has_give]
    _ ↔ o.has switch = true ∨ switch.IsSpelledBy argument ∨ switch.IsNamedIn later := by
        rw [spelled.iff_eq, or_assoc, or_left_comm]
    _ ↔ o.has switch = true ∨ switch.IsNamedIn (argument :: later) := by rw [Switch.isNamedIn_cons]

/-- What is gained depends on nothing but which switches are named. -/
theorem eq_of_same {first second : List String} {a b : Options} (one : o.Gains first a)
    (two : o.Gains second b)
    (same : ∀ switch : Switch, switch.IsNamedIn first ↔ switch.IsNamedIn second) : a = b := by
  apply eq_of_has
  intro switch
  rw [one switch, two switch, same switch]

theorem isSet_iff {name : String} (gains : o.Gains arguments o') :
    o'.isSet name = true ↔
      o.isSet name = true ∨ ∃ switch : Switch, switch.name = name ∧ switch.IsNamedIn arguments := by
  simp only [Options.isSet_iff, gains _, and_or_left, exists_or]

end Gains

/-! ### Parsing -/

/-- What becomes of a row of arguments: it is taken to its end, or up to the first argument that spells no
switch, which is complained of, and what was gained by then stays. -/
inductive Reads (o : Options) : List String → Except Failure Unit × Options → Prop where
  | whole {arguments : List String} {o' : Options}
      (known : ∀ argument ∈ arguments, IsSpelling argument) (gains : o.Gains arguments o') :
      Reads o arguments (.ok (), o')
  | stopped {start : List String} {argument : String} {later : List String} {o' : Options}
      (known : ∀ argument ∈ start, IsSpelling argument) (strange : ¬IsSpelling argument)
      (gains : o.Gains start o') :
      Reads o (start ++ argument :: later) (.error (.options ("unknown option " ++ argument)), o')

/-- One known argument more in front gives its switch first. -/
theorem Reads.cons {result : Except Failure Unit × Options} (spelled : given.IsSpelledBy argument)
    (reads : (o.give given).Reads later result) : o.Reads (argument :: later) result := by
  have spelling : IsSpelling argument := ⟨given, spelled⟩
  cases reads with
  | whole known gains => exact .whole (List.forall_mem_cons.2 ⟨spelling, known⟩) (gains.cons spelled)
  | @stopped start strange later o' known unknown gains =>
      rw [← List.cons_append]
      exact .stopped (List.forall_mem_cons.2 ⟨spelling, known⟩) unknown (gains.cons spelled)

theorem parse_cons_of_isSpelledBy (spelled : given.IsSpelledBy argument) :
    o.parse (argument :: later) = (o.give given).parse later := by
  rw [parse, Switch.ofSpelling_eq_some_iff.2 spelled]

theorem parse_cons_of_not_isSpelling (strange : ¬IsSpelling argument) :
    o.parse (argument :: later) = (.error (.options ("unknown option " ++ argument)), o) := by
  rw [parse, Switch.ofSpelling_eq_none_iff.2 strange]

/-- Every row of arguments is parsed in this way. -/
theorem parse_reads (o : Options) (arguments : List String) : o.Reads arguments (o.parse arguments) := by
  -- The options change with every known argument, so the induction is for all of them.
  induction arguments generalizing o with
  | nil => exact .whole (by simp) (.nil o)
  | cons argument later ih =>
      by_cases known : IsSpelling argument
      · obtain ⟨given, spelled⟩ := known
        rw [parse_cons_of_isSpelledBy spelled]
        exact (ih (o.give given)).cons spelled
      · rw [parse_cons_of_not_isSpelling known, ← List.nil_append (argument :: later)]
        exact .stopped (by simp) known (.nil o)

/-- A row that is parsed to its end gains the switches that it names. -/
theorem parse_of_ok (done : (o.parse arguments).1 = .ok ()) :
    ∃ o', o.parse arguments = (.ok (), o') ∧ o.Gains arguments o' := by
  have reads := parse_reads o arguments
  generalize o.parse arguments = result at reads done
  cases reads with
  | @whole _ o' known gains => exact ⟨o', rfl, gains⟩
  | stopped known strange gains => cases done

/-- Two rows in one are parsed as the first and, if that succeeds, the second. -/
theorem parse_append (o : Options) (first second : List String) :
    o.parse (first ++ second) =
      match o.parse first with
      | (.ok (), o') => o'.parse second
      | (.error e, o') => (.error e, o') := by
  induction first generalizing o with
  | nil => rfl
  | cons argument rest ih =>
      by_cases known : IsSpelling argument
      · obtain ⟨given, spelled⟩ := known
        rw [List.cons_append, parse_cons_of_isSpelledBy spelled, parse_cons_of_isSpelledBy spelled]
        exact ih (o.give given)
      · rw [List.cons_append, parse_cons_of_not_isSpelling known, parse_cons_of_not_isSpelling known]

/-- Parsing goes through the longest start of the arguments that has spellings only: it succeeds exactly if that
is all of them and else complains of the argument behind it.  In both cases the switches that have been given
afterwards are those from before, none of which is taken back, and those named in this start, and no others.  So
parsing two rows in one is parsing the first and, if that succeeds, the second; and of rows that are parsed to
their end nothing counts but which switches they name. -/
theorem parse_knownStart (o : Options) :
    (∀ arguments, ∃ start, (∀ other, KnownStart arguments other ↔ other = start) ∧
      ((o.parse arguments).1 = .ok () ↔ start = arguments) ∧
      (start ≠ arguments → ∃ argument later, arguments = start ++ argument :: later ∧
        (o.parse arguments).1 = .error (.options ("unknown option " ++ argument))) ∧
      (∀ switch, (o.parse arguments).2.has switch = true ↔
        o.has switch = true ∨ switch.IsNamedIn start) ∧
      ∀ name, (o.parse arguments).2.isSet name = true ↔
        o.isSet name = true ∨ ∃ switch : Switch, switch.name = name ∧ switch.IsNamedIn start) ∧
    (∀ first second, o.parse (first ++ second) =
      match o.parse first with
      | (.ok (), o') => o'.parse second
      | (.error e, o') => (.error e, o')) ∧
    ∀ first second, (o.parse first).1 = .ok () → (o.parse second).1 = .ok () →
      (∀ switch : Switch, switch.IsNamedIn first ↔ switch.IsNamedIn second) →
      o.parse first = o.parse second := by
  refine ⟨?_, parse_append o, ?_⟩
  · intro arguments
    have reads := parse_reads o arguments
    generalize o.parse arguments = result at reads ⊢
    cases reads with
    | whole known gains =>
        refine ⟨arguments, fun other => (KnownStart.whole known).iff_eq, by simp, ?_, gains, ?_⟩
        · intro cut
          exact absurd rfl cut
        · intro name
          exact gains.isSet_iff
    | @stopped start argument later o' known strange gains =>
        refine ⟨start, fun other => (KnownStart.before known strange).iff_eq, by simp, ?_, gains, ?_⟩
        · intro cut
          exact ⟨argument, later, rfl, rfl⟩
        · intro name
          exact gains.isSet_iff
  · intro first second done also same
    obtain ⟨a, parsed, gained⟩ := parse_of_ok done
    obtain ⟨b, parsed', gained'⟩ := parse_of_ok also
    rw [parsed, parsed', gained.eq_of_same gained' same]

/-- Two letters behind one dash are no spelling: the switches in front of them have been given, the one behind
them has not.  Doubled, in another order and spelled otherwise, the same switches come to the same. -/
theorem parse_knownStart_joined :
    KnownStart ["-d", "--debug", "-dq", "-q"] ["-d", "--debug"] ∧
      ["-d", "--debug"] ≠ ["-d", "--debug", "-dq", "-q"] ∧
      (({ help := true } : Options).parse ["-d", "--debug", "-dq", "-q"]).1 =
        .error (.options "unknown option -dq") ∧
      (∀ switch, (({ help := true } : Options).parse ["-d", "--debug", "-dq", "-q"]).2.has switch = true ↔
        switch = .debug ∨ switch = .help) ∧
      (({ help := true } : Options).parse ["-q", "--debug", "-q"]).1 = .ok () ∧
      (({ help := true } : Options).parse ["-d", "--quiet"]).1 = .ok () ∧
      (∀ switch : Switch, switch.IsNamedIn ["-q", "--debug", "-q"] ↔ switch.IsNamedIn ["-d", "--quiet"]) ∧
      ({ help := true } : Options).parse ["-q", "--debug", "-q"] =
        ({ help := true } : Options).parse ["-d", "--quiet"] := by
  obtain ⟨course, -, alike⟩ := parse_knownStart { help := true }
  obtain ⟨start, longest, -, refused, given, -⟩ := course ["-d", "--debug", "-dq", "-q"]
  have spelled : ∀ argument ∈ ["-d", "--debug"], IsSpelling argument := by
    intro argument member
    have either : argument = "-d" ∨ argument = "--debug" := by simpa using member
    exact ⟨.debug, either⟩
  have joined : ¬IsSpelling "-dq" := Switch.ofSpelling_eq_none_iff.1 rfl
  have known : KnownStart ["-d", "--debug", "-dq", "-q"] ["-d", "--debug"] := .before spelled joined
  obtain rfl := (longest _).1 known
  have same : ∀ switch : Switch,
      switch.IsNamedIn ["-q", "--debug", "-q"] ↔ switch.IsNamedIn ["-d", "--quiet"] := by
    intro switch
    cases switch <;> decide
  refine ⟨known, by simp, ?_, ?_, rfl, rfl, same, alike _ _ rfl rfl same⟩
  · obtain ⟨argument, later, cut, failed⟩ := refused (by simp)
    obtain ⟨rfl, -⟩ : "-dq" = argument ∧ ["-q"] = later := by simpa using cut
    exact failed
  · intro switch
    rw [given switch]
    cases switch <;> decide

end Options

end JobShell
