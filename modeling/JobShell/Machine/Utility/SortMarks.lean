/-
Module: JobShell.Machine.Utility.SortMarks
Purpose: What the sorting program shows of its keys: remarks about them, and under each line the stretches
  that they look at.
Main exports: SortKey.markedStretch, SortKey.marked, SortOptions.remarks
-/
import JobShell.Machine.Utility.SortOptions

namespace JobShell.Machine.Utility

namespace SortKey

/-!
## Lines with marks
-/

/-- How many columns some characters take up.  A tabulator is shown as a sign. -/
def columns (text : List Char) : Nat :=
  text.countP fun c => c == '\t' || (32 ≤ c.toNat && c.toNat ≠ 127)

/-- How many characters of a text are a number, with a letter for a multiple if that is wanted. -/
def numberLength (k : SortKey) (text : List Char) : Nat :=
  let body := if text.head? = some '-' then text.drop 1 else text
  let (digits, rest) := readDigits 10 body
  let (fraction, after) := match rest with
    | '.' :: more => readDigits 10 more
    | _ => ([], rest)
  if (digits ++ fraction).isEmpty then 0
  else
    let isMultiple := k.human && after.head?.any "kKMGTPEZY".toList.contains
    text.length - after.length + (if isMultiple then 1 else 0)

/-- Whether a key compares numbers. -/
def comparesNumbers (k : SortKey) : Bool :=
  k.numeric || k.general || k.human

/-- Whether the stretch of a key starts with the line. -/
def startsLine (k : SortKey) : Bool :=
  k.firstField = 0 && k.firstChar = 0

/-- Where the part of a line starts that a key looks at in the end, and how long that part is. -/
def markedStretch (k : SortKey) (tab : Option Char) (line : List Char) : Nat × Nat :=
  let start := if k.startsLine then 0 else k.startOf tab line
  let stop := max start (k.endOf tab line)
  let text := (line.drop start).take (stop - start)
  if !((k.skipsAtStart && k.startsLine) || k.month || k.comparesNumbers) then (start, text.length)
  else
    let trimmed := text.dropWhile isFieldBlank
    let length :=
      if k.month then (if monthOf trimmed = 0 then 0 else 3)
      else if k.general then
        ((FloatFormat.extended.read trimmed).map fun found => trimmed.length - found.2.length).getD 0
      else if k.numeric || k.human then k.numberLength trimmed
      else trimmed.length
    (start + (text.length - trimmed.length), length)

/-- A line of marks under a part of a line. -/
def marks (line : List Char) (start length : Nat) : List Char :=
  let width := columns ((line.drop start).take length)
  List.replicate (columns (line.take start)) ' ' ++
    (if width = 0 then "^ no match for key".toList else List.replicate width '_') ++ ['\n']

/-- A line with the marks of all keys under it, and of the last resort, the whole line. -/
def marked (o : SortOptions) (keys : List SortKey) (line : List Char) : List Char :=
  let shown := line.map fun c => if c = '\t' then '>' else c
  let ofKeys :=
    keys.flatMap fun k =>
      let (start, length) := k.markedStretch o.tab line
      marks line start length
  let whole := if keys.isEmpty || !(o.unique || o.stable) then marks line 0 line.length else []
  shown ++ '\n' :: ofKeys ++ whole

/-!
## Remarks
-/

/-- The orders of one key that another one does not have. -/
def without (k other : SortKey) : SortKey :=
  { k with
    passes := if k.passes = other.passes then .nothing else k.passes
    folds := k.folds && !other.folds
    skipsAtStart := k.skipsAtStart && !other.skipsAtStart
    skipsAtEnd := k.skipsAtEnd && !other.skipsAtEnd
    month := k.month && !other.month
    numeric := k.numeric && !other.numeric
    general := k.general && !other.general
    human := k.human && !other.human
    random := k.random && !other.random
    version := k.version && !other.version
    descends := k.descends && !other.descends }

/-- All letters that a key is written with. -/
def allLetters (k : SortKey) (descends : Bool) : String :=
  String.join
    [ if k.skipsAtStart || k.skipsAtEnd then "b" else "", if k.passes = .signs then "d" else "",
      if k.folds then "f" else "", if k.general then "g" else "", if k.human then "h" else "",
      if k.passes = .unprintable then "i" else "", if k.month then "M" else "",
      if k.numeric then "n" else "", if k.random then "R" else "", if descends then "r" else "",
      if k.version then "V" else "" ]

/-- Whether a key compares numbers that may go on in the next field. -/
def spansFields (k : SortKey) : Bool :=
  k.comparesNumbers && k.lastField.all fun last => k.firstField < last

/-- What is said of a key in the old notation. -/
def legacyRemark (k : SortKey) : String :=
  let start := k.firstField + 1
  match k.lastField with
  | none => s!"obsolescent key '+{k.firstField}' used; consider '-k {start}' instead"
  | some last =>
      s!"obsolescent key '+{k.firstField} -{last + 1}' used; " ++
        s!"consider '-k {start},{last + 1}' instead"

/-- What is said of a key with a number among the others. -/
def remarks (tab : Option Char) (number : Nat) (k : SortKey) : List String :=
  let isEmpty := !k.startsLine && k.lastField.any (· < k.firstField)
  let skipsAnyway := k.comparesNumbers || k.month
  let countsInLine := k.lastField = some 0 && k.lastChar ≠ 0
  let blanksMatter :=
    (!k.skipsAtStart && (!skipsAnyway || k.firstChar ≠ 0)) || (!k.skipsAtEnd && k.lastChar ≠ 0)
  [ if k.legacy then some k.legacyRemark else none,
    if isEmpty then some s!"key {number} has zero width and will be ignored" else none,
    if !isEmpty && tab.isNone && !countsInLine && blanksMatter then
      some (s!"leading blanks are significant in key {number}; " ++ "consider also specifying 'b'")
    else none,
    if k.spansFields then some s!"key {number} is numeric and spans multiple fields"
    else none ].filterMap id

end SortKey

namespace SortOptions

/-- What is said of the separator of fields and of numbers. -/
def numberRemarks (o : SortOptions) (keys : List SortKey) (spans : Bool) : List String :=
  let spanning := if spans then keys.filter (·.spansFields) else []
  let separator (what : String) : Option String :=
    o.tab.map fun c => "field separator '" ++ String.singleton c ++ "' is treated as a " ++ what ++
      " in numbers"
  let treated : Option String :=
    if spanning.isEmpty then none
    else if o.tab = some '.' then separator "decimal point"
    else if o.tab = some '-' then separator "minus sign"
    else if o.tab = some '+' && spanning.any (·.general) then separator "plus sign"
    else none
  let isNoted := keys.any (·.comparesNumbers) && (o.tab ≠ some '.' || spanning.isEmpty)
  [ treated,
    if isNoted then some "note numbers use '.' as a decimal point in this locale"
    else none ].filterMap id

/-- What is said of the orders outside keys that no key takes over. -/
def sharedRemarks (o : SortOptions) (keys : List SortKey) : List String :=
  let left := keys.foldl SortKey.without o.shared
  let isFinal := o.stable || o.unique
  let letters := left.allLetters (left.descends && isFinal)
  let isIgnored := !left.isPlain || (left.descends && isFinal && !keys.isEmpty)
  [ if !isIgnored then none
    else if letters.length = 1 then some s!"option '-{letters}' is ignored"
    else some s!"options '-{letters}' are ignored",
    if left.descends && !isFinal && !keys.isEmpty then
      some "option '-r' only applies to last-resort comparison"
    else none ].filterMap id

/-- What is said of the keys before lines are shown with marks. -/
def remarks (o : SortOptions) : List String :=
  let keys := o.effectiveKeys
  let ofKeys :=
    if o.keys.isEmpty then []
    else (keys.zipIdx 1).flatMap fun (k, number) => k.remarks o.tab number
  "text ordering performed using simple byte comparison" :: ofKeys ++
    o.numberRemarks keys (!o.keys.isEmpty) ++ o.sharedRemarks keys

end SortOptions

end JobShell.Machine.Utility
