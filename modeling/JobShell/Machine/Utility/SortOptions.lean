/-
Module: JobShell.Machine.Utility.SortOptions
Purpose: What the sorting program is asked to do, and the words in which it is asked.
Main exports: SortOptions, SortOptions.order, SortOptions.take, sortTable
-/
import JobShell.Machine.Utility.Report
import JobShell.Machine.Utility.SortKey

namespace JobShell.Machine.Utility

open Text (Bytes)

/-- What the sorting program is asked to do. -/
structure SortOptions where
  keys : List SortKey := []
  /-- The orders that are asked for outside keys. -/
  shared : SortKey := {}
  /-- The letter by which a check is asked for: with a word about the first disorder, or without. -/
  check : Option Char := none
  merges : Bool := false
  output : Option Bytes := none
  stable : Bool := false
  unique : Bool := false
  zero : Bool := false
  tab : Option Char := none
  /-- Show which parts of the lines are looked at. -/
  marks : Bool := false
  /-- The file that has the names of the files to be sorted. -/
  names : Option Bytes := none
deriving Repr, Inhabited, DecidableEq

/-- The status of the sorting program when something goes wrong. -/
def sortFailure : Nat := 2

/-- Ends the sorting program with a complaint. -/
def sortRefuses (t : Task) (name text : Bytes) : Finished :=
  (complain t name text, sortFailure)

namespace SortOptions

/-- The keys, each with the shared orders if it asks for none; if there are no keys, the shared orders make
one out of the whole line. -/
def effectiveKeys (o : SortOptions) : List SortKey :=
  if o.keys.isEmpty then (if o.shared.isPlain then [] else [o.shared])
  else o.keys.map fun k => if k.isPlain && !k.descends then k.withOrdersOf o.shared else k

/-- The first difference that some keys find between two lines. -/
def compareByKeys (o : SortOptions) (a b : List Char) : List SortKey → Ordering
  | [] => .eq
  | k :: rest =>
      match k.compare o.tab a b with
      | .eq => compareByKeys o a b rest
      | order => order

/-- The order of two lines.  Where the keys find no difference, all characters are compared, unless lines
that are equal by the keys are to keep their places. -/
def order (o : SortOptions) (keys : List SortKey) (a b : List Char) : Ordering :=
  match o.compareByKeys a b keys with
  | .eq =>
      if !keys.isEmpty && (o.unique || o.stable) then .eq
      else
        let plain := SortKey.compareChars a b
        if o.shared.descends then plain.swap else plain
  | found => found

/-- The character that ends a line. -/
def lineEnd (o : SortOptions) : Char :=
  if o.zero then Char.ofNat 0 else '\n'

end SortOptions

/-!
## Reading options
-/

/-- The count at the start of a text, and what follows it. -/
def keyCount? (text : List Char) : Option (Nat × List Char) :=
  match text.dropWhile isBlankChar with
  | '-' :: _ => none
  | body => (readInteger false body).map fun n => (n.magnitude, n.rest)

/-- Reads a count in the description of a key; what follows it comes with it. -/
def readKeyCount (t : Task) (name : Bytes) (what : String) (text : List Char) :
    Except Finished (Nat × List Char) :=
  match keyCount? text with
  | some found => .ok found
  | none =>
      .error (sortRefuses t name
        (bytesOfText (what ++ ": invalid count at start of ") ++ inQuotes (bytesOf text)))

/-- The complaint about the description of a key. -/
def badKey (t : Task) (name : Bytes) (what : String) (spec : List Char) : Finished :=
  sortRefuses t name
    (bytesOfText (what ++ ": invalid field specification ") ++ inQuotes (bytesOf spec))

/-- A count that starts at one, as a count that starts at zero. -/
def positiveCount (t : Task) (name : Bytes) (what : String) (spec : List Char) (n : Nat) :
    Except Finished Nat :=
  match n with
  | 0 => .error (badKey t name what spec)
  | n + 1 => .ok n

/-- Reads the count of characters after a point, if there is one. -/
def readKeyChars (t : Task) (name : Bytes) (text : List Char) :
    Except Finished (Option Nat × List Char) :=
  match text with
  | '.' :: more =>
      (readKeyCount t name "invalid number after '.'" more).map fun (n, rest) => (some n, rest)
  | _ => .ok (none, text)

/-- Reads the end of a key after a comma. -/
def readKeyEnd (t : Task) (name : Bytes) (spec text : List Char) (k : SortKey) :
    Except Finished (SortKey × List Char) := do
  let (field, rest) ← readKeyCount t name "invalid number after ','" text
  let last ← positiveCount t name "field number is zero" spec field
  let (chars, rest) ← readKeyChars t name rest
  return SortKey.takeLetters .finish rest { k with lastField := some last, lastChar := chars.getD 0 }

/-- Reads the description of a key. -/
def readSortKey (t : Task) (name : Bytes) (spec : List Char) : Except Finished SortKey := do
  let (field, rest) ← readKeyCount t name "invalid number at field start" spec
  let first ← positiveCount t name "field number is zero" spec field
  let (chars, rest) ← readKeyChars t name rest
  let start ← match chars with
    | none => pure 0
    | some n => positiveCount t name "character offset is zero" spec n
  let (key, rest) :=
    SortKey.takeLetters .start rest ({ firstField := first, firstChar := start } : SortKey)
  let (key, rest) ← match rest with
    | ',' :: more => readKeyEnd t name spec more key
    | _ => pure (key, rest)
  if rest.isEmpty then return key
  else .error (badKey t name "stray character in field spec" spec)

/-- The start of a key in the old notation, in which everything is counted from zero: fields, and
characters after a point. -/
def legacyKey? (text : List Char) : Option SortKey := do
  let (field, rest) ← keyCount? text
  let (start, rest) ← match rest with
    | '.' :: more => keyCount? more
    | _ => some (0, rest)
  let (key, rest) :=
    SortKey.takeLetters .start rest
      ({ firstField := field, firstChar := start, legacy := true } : SortKey)
  if rest.isEmpty then some key else none

/-- The options that hide in a word with a plus sign: the start of a key in the old notation, and its end
if the next word is a dash with a digit. -/
def hiddenKey (word : List Char) (next : Option (List Char)) : Option (List Sighting × Bool) :=
  match word with
  | '+' :: body =>
      match legacyKey? body, next with
      | none, _ => none
      | some _, some ('-' :: c :: more) =>
          if c.isDigit then
            some ([.option "+" (some body), .option "-" (some ('-' :: c :: more))], true)
          else some ([.option "+" (some body)], false)
      | some _, _ => some ([.option "+" (some body)], false)
  | _ => none

/-- Reads the end of a key in the old notation: the first field that does not belong to it any more, or how
many characters of that field do. -/
def readLegacyEnd (t : Task) (name : Bytes) (spec : List Char) (k : SortKey) :
    Except Finished SortKey := do
  let (field, rest) ← readKeyCount t name "invalid number after '-'" (spec.drop 1)
  let (chars, rest) ← readKeyChars t name rest
  let last := chars.getD 0
  let (key, rest) :=
    SortKey.takeLetters .finish rest
      { k with lastField := some (if last = 0 then field - 1 else field), lastChar := last }
  if rest.isEmpty then return key
  else .error (badKey t name "stray character in field spec" spec)

/-- The character that separates fields, from the word that gives it. -/
def readTab (t : Task) (name : Bytes) (word : List Char) : Except Finished Char :=
  match word with
  | [] => .error (sortRefuses t name (bytesOfText "empty tab"))
  | [c] => .ok c
  | ['\\', '0'] => .ok (Char.ofNat 0)
  | _ => .error (sortRefuses t name (bytesOfText "multi-character tab " ++ inQuotes (bytesOf word)))

/-- Checks the size of a buffer; `shown` is the option as it is named in complaints. -/
def checkBufferSize (t : Task) (name : Bytes) (shown : String) (word : List Char) :
    Except Finished Unit :=
  let refuse (what : String) : Except Finished Unit :=
    .error (sortRefuses t name
      (bytesOfText (what ++ " " ++ shown ++ " argument ") ++ inQuotes (bytesOf word)))
  match word.dropWhile isBlankChar with
  | '-' :: _ => refuse "invalid"
  | body =>
      match readInteger false body with
      | none => refuse "invalid"
      | some n =>
          match n.rest with
          | [] => .ok ()
          | [c] => if "%bEgGkKmMPtTYZ".toList.contains c then .ok () else refuse "invalid suffix in"
          | _ => refuse "invalid suffix in"

/-- Checks a count that has to be at least so much. -/
def checkSortCount (t : Task) (name : Bytes) (shown : String) (least : Nat) (tooSmall : List String)
    (word : List Char) : Except Finished Unit :=
  let refuse (told : Task) : Except Finished Unit := .error (told, sortFailure)
  match readInteger false word with
  | some n =>
      if n.negative then
        refuse (complain t name (bytesOfText ("invalid " ++ shown ++ " argument ") ++
          inQuotes (bytesOf word)))
      else if !n.rest.isEmpty then
        refuse (complain t name (bytesOfText ("invalid suffix in " ++ shown ++ " argument ") ++
          inQuotes (bytesOf word)))
      else if n.magnitude < least then
        refuse (tooSmall.foldl (fun told text => complain told name (bytesOfText text)) t)
      else .ok ()
  | none =>
      refuse (complain t name (bytesOfText ("invalid " ++ shown ++ " argument ") ++
        inQuotes (bytesOf word)))

/-- The letters for the words that name an order. -/
def sortWords : List (List String × Char) :=
  [(["general-numeric"], 'g'), (["human-numeric"], 'h'), (["month"], 'M'), (["numeric"], 'n'),
    (["random"], 'R'), (["version"], 'V')]

/-- The words that say how to check. -/
def checkWords : List (List String) :=
  [["quiet", "silent"], ["diagnose-first"]]

/-- Takes in that lines are to be checked. -/
def SortOptions.takeCheck (o : SortOptions) (name : Bytes) (t : Task) (letter : Char) :
    Reading SortOptions :=
  match o.check with
  | some other =>
      if other = letter then .ok o
      else .error (sortRefuses t name (bytesOfText "options '-cC' are incompatible"))
  | none => .ok { o with check := some letter }

/-- Takes in an option of the sorting program. -/
def SortOptions.take (name : Bytes) (t : Task) (o : SortOptions) (key : String)
    (argument : Option (List Char)) : Reading SortOptions :=
  let word := argument.getD []
  let ordered (letter : Char) : SortOptions :=
    { o with shared := (SortKey.takeLetters .both [letter] o.shared).1 }
  match key with
  | "k" => (readSortKey t name word).map fun k => { o with keys := o.keys ++ [k] }
  | "+" => .ok { o with keys := o.keys ++ (legacyKey? word).toList }
  | "-" =>
      match o.keys.getLast? with
      | none => .ok o
      | some k => (readLegacyEnd t name word k).map fun k' => { o with keys := o.keys.dropLast ++ [k'] }
  | "debug" => .ok { o with marks := true }
  | "files" => .ok { o with names := some (bytesOf word) }
  | "y" => .ok o
  | "m" => .ok { o with merges := true }
  | "s" => .ok { o with stable := true }
  | "u" => .ok { o with unique := true }
  | "z" => .ok { o with zero := true }
  | "c" => o.takeCheck name t 'c'
  | "C" => o.takeCheck name t 'C'
  | "check" =>
      match argument with
      | none => o.takeCheck name t 'c'
      | some text =>
          match chooseValue t name text "--check" checkWords with
          | .error finished => .error finished
          | .ok value => o.takeCheck name t (if value = "quiet" then 'C' else 'c')
  | "sort" =>
      (chooseValue t name word "--sort" (sortWords.map (·.1))).map fun value =>
        ordered (((sortWords.find? fun entry => entry.1 == [value]).map (·.2)).getD 'n')
  | "o" =>
      if o.output.any (· != bytesOf word) then
        .error (sortRefuses t name (bytesOfText "multiple output files specified"))
      else .ok { o with output := some (bytesOf word) }
  | "t" =>
      match readTab t name word with
      | .error finished => .error finished
      | .ok c =>
          if o.tab.any (· != c) then
            .error (sortRefuses t name (bytesOfText "incompatible tabs"))
          else .ok { o with tab := some c }
  | "S" => (checkBufferSize t name "-S" word).map fun _ => o
  | "buffer" => (checkBufferSize t name "--buffer-size" word).map fun _ => o
  | "parallel" =>
      (checkSortCount t name "--parallel" 1 ["number in parallel must be nonzero"] word).map
        fun _ => o
  | "batch" =>
      (checkSortCount t name "--batch-size" 2
        ["invalid --batch-size argument '" ++ String.ofList word ++ "'",
          "minimum --batch-size argument is '2'"] word).map fun _ => o
  | _ =>
      match key.toList with
      | [letter] => .ok (ordered letter)
      | _ => .ok o

/-- The options of the sorting program. -/
def sortTable : OptionTable :=
  { letters := plainLetters "bcCdfghimMnrRsuVz" ++ letterWithArgument "koStT" ++ [('y', .digits)]
    hidden := hiddenKey
    names :=
      [⟨"ignore-leading-blanks", "b", .none⟩, ⟨"check", "check", .optional⟩,
        ⟨"compress-program", "compress", .required⟩, ⟨"debug", "debug", .none⟩,
        ⟨"dictionary-order", "d", .none⟩, ⟨"ignore-case", "f", .none⟩,
        ⟨"files0-from", "files", .required⟩, ⟨"general-numeric-sort", "g", .none⟩,
        ⟨"ignore-nonprinting", "i", .none⟩, ⟨"key", "k", .required⟩, ⟨"merge", "m", .none⟩,
        ⟨"month-sort", "M", .none⟩, ⟨"numeric-sort", "n", .none⟩,
        ⟨"human-numeric-sort", "h", .none⟩, ⟨"version-sort", "V", .none⟩,
        ⟨"random-sort", "R", .none⟩, ⟨"random-source", "source", .required⟩,
        ⟨"sort", "sort", .required⟩, ⟨"output", "o", .required⟩, ⟨"reverse", "r", .none⟩,
        ⟨"stable", "s", .none⟩, ⟨"batch-size", "batch", .required⟩,
        ⟨"buffer-size", "buffer", .required⟩, ⟨"field-separator", "t", .required⟩,
        ⟨"temporary-directory", "T", .required⟩, ⟨"unique", "u", .none⟩,
        ⟨"zero-terminated", "z", .none⟩, ⟨"parallel", "parallel", .required⟩,
        ⟨"help", "help", .none⟩, ⟨"version", "version", .none⟩] }

end JobShell.Machine.Utility
