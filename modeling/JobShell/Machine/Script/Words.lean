/-
Module: JobShell.Machine.Script.Words
Purpose: Reading the words of a script, with the quotes, substitutions and expressions in them, and the
  texts that stand behind the line on which they are announced.
Main exports: Request, Reader, readWord, readDocuments, unquoted
-/
import JobShell.Machine.Script.Reading

namespace JobShell.Machine.Script

/-- Where a list of commands stands: on a line by itself, where there must be one, or where it may be
empty. -/
inductive ListPlace where
  | line
  | needed
  | optional
deriving Repr, DecidableEq

/-- What can stand within something else and is read from there: a list, a command, and a list in
parentheses whose closing one ends it. -/
inductive Request where
  | list (place : ListPlace)
  | command
  | substitution
deriving Repr, DecidableEq

/-- How commands within words and other commands are read. -/
abbrev Reader := Request → Read (Option Statement)

/-- A backquote. -/
def backquote : Char := Char.ofNat 0x60

/-!
## What characters mean
-/

/-- How characters are read. -/
inductive Quoting where
  | plain
  | double
  | single
  | arithmetic
deriving Repr, Inhabited, DecidableEq

/-- What a character does while a word is read. -/
inductive CharClass where
  | ordinary
  | guarded
  | newline
  | backslash
  | openSingle
  | openDouble
  | closeQuote
  | dollar
  | closeBrace
  | openParen
  | closeParen
  | backquote
  | separator
deriving Repr, Inhabited, DecidableEq

/-- The characters that a quote takes the meaning from. -/
def guardedInQuotes : List Char :=
  ['!', '*', '?', '[', '=', '~', ':', '/', '-', ']']

/-- The characters between words. -/
def separators : List Char :=
  ['<', '>', '(', ')', ';', '&', '|', ' ', '\t']

/-- The bytes that a script must not mistake for signs of its own. -/
def isReserved (c : Char) : Bool :=
  129 ≤ c.toNat && c.toNat ≤ 136

/-- What a character does. -/
def Quoting.classOf (q : Quoting) (c : Char) : CharClass :=
  if isReserved c then .guarded
  else if c = '\n' then .newline
  else
    match q with
    | .plain =>
        if c = '\\' then .backslash
        else if c = '\'' then .openSingle
        else if c = '"' then .openDouble
        else if c = Script.backquote then .backquote
        else if c = '$' then .dollar
        else if c = '\x7d' then .closeBrace
        else if separators.contains c then .separator
        else .ordinary
    | .double =>
        if c = '\\' then .backslash
        else if c = '"' then .closeQuote
        else if c = Script.backquote then .backquote
        else if c = '$' then .dollar
        else if c = '\x7d' then .closeBrace
        else if guardedInQuotes.contains c then .guarded
        else .ordinary
    | .single =>
        if c = '\'' then .closeQuote
        else if c = '\\' || guardedInQuotes.contains c then .guarded
        else .ordinary
    | .arithmetic =>
        if c = '\\' then .backslash
        else if c = Script.backquote then .backquote
        else if c = '$' then .dollar
        else if c = '\x7d' then .closeBrace
        else if c = '(' then .openParen
        else if c = ')' then .closeParen
        else .ordinary

/-!
## The state of a word
-/

/-- A level of quoting: how characters are read, whether that is as in double quotes, whether a double
quote is open within braces, whether the level was begun by a parameter, how many parameters with words
are open in it, how many of those in double quotes, and how many parentheses. -/
structure Level where
  quoting : Quoting
  double : Bool
  inner : Bool := false
  byParameter : Bool := false
  open_ : Nat := 0
  openDouble : Nat := 0
  parentheses : Nat := 0
deriving Repr, Inhabited, DecidableEq

/-- Something in a word that has parts of its own. -/
inductive Construct where
  | parameter (name : List Char) (use : ParameterUse) (colon : Bool)
  | arithmetic
deriving Repr, Inhabited, DecidableEq

/-- A word as far as it has been read: the parts of the innermost construct, last one first, the constructs
around it with the parts before them, and the levels of quoting.  `document` is there when it is not a word
but a text behind a line. -/
structure WordState where
  parts : List Part := []
  outer : List (Construct × List Part) := []
  level : Level
  below : List Level := []
  quoted : Bool := false
  document : Option PendingDocument := none
deriving Inhabited

namespace WordState

/-- Adds a part. -/
def add (w : WordState) (part : Part) : WordState :=
  { w with parts := part :: w.parts }

/-- Adds a mark of a quote; texts behind a line have none. -/
def addMark (w : WordState) : WordState :=
  if w.document.isSome then w else w.add .mark

/-- Begins a construct. -/
def begin (w : WordState) (construct : Construct) : WordState :=
  { w with parts := [], outer := (construct, w.parts) :: w.outer }

/-- Ends the innermost construct. -/
def finish (w : WordState) : WordState :=
  match w.outer with
  | [] => w
  | (construct, before) :: outer =>
      let part := match construct with
        | .parameter name use colon => Part.parameter name use colon w.parts.reverse
        | .arithmetic => Part.arithmetic w.parts.reverse
      { w with parts := part :: before, outer := outer }

/-- Begins a level of quoting. -/
def push (w : WordState) (level : Level) : WordState :=
  { w with level := level, below := w.level :: w.below }

/-- Ends the innermost level of quoting. -/
def pop (w : WordState) : WordState :=
  match w.below with
  | [] => w
  | level :: below => { w with level := level, below := below }

/-- Changes the innermost level of quoting. -/
def adjust (w : WordState) (f : Level → Level) : WordState :=
  { w with level := f w.level }

end WordState

/-!
## Quotes
-/

/-- Goes in or out of double quotes. -/
def turnDouble (w : WordState) : WordState :=
  (w.adjust fun l => if l.open_ = 0 then l else { l with inner := !l.inner }).addMark

/-- Ends a quote. -/
def closeQuote (c : Char) (w : WordState) : WordState :=
  if w.document.isSome && w.level.open_ = 0 then w.add (.char c)
  else
    let left :=
      w.adjust fun l =>
        if l.openDouble = 0 then { l with quoting := .plain, double := false } else l
    let quoted := { left with quoted := true }
    if c = '"' then turnDouble quoted else quoted.addMark

/-- Whether a backslash in double quotes stands for itself in front of a character. -/
def keepsBackslash (w : WordState) (c : Char) : Bool :=
  w.level.double && c != '\\' && c != backquote && c != '$' &&
    (c != '"' || (w.document.isSome && w.level.open_ == 0)) &&
    (c != '\x7d' || w.level.open_ == 0)

/-- Reads what follows a backslash. -/
def readBackslash (w : WordState) : Read WordState := do
  match ← fetch with
  | none => return w.add (.guarded '\\')
  | some '\n' =>
      countLine
      return w
  | some c =>
      let kept := if keepsBackslash w c then w.add (.guarded '\\') else w
      return { kept.add (.guarded c) with quoted := true }

/-- Adds a character that has no meaning where it stands. -/
def addGuarded (c : Char) (w : WordState) : WordState :=
  if w.document.isNone || w.level.double then w.add (.guarded c) else w.add (.char c)

/-- Ends a parameter, unless the brace stands for itself. -/
def closeBrace (w : WordState) : WordState :=
  if w.level.inner || w.level.open_ = 0 then w.add (.char '\x7d')
  else
    let ended := w.finish
    let left := ended.level.open_ - 1
    if left = 0 && ended.level.byParameter then ended.pop
    else
      ended.adjust fun l =>
        { l with open_ := left, openDouble := l.openDouble - 1 }

/-- Ends an expression, or a pair of parentheses in it. -/
def closeParen (w : WordState) : Read WordState := do
  if 0 < w.level.parentheses then
    return (w.adjust fun l => { l with parentheses := l.parentheses - 1 }).add (.char ')')
  else
    let c ← fetch
    if c == some ')' then return w.finish.pop
    else
      putBack c
      return w.add (.char ')')

/-!
## Parameters
-/

/-- The parameters that are named by a sign. -/
def specialParameters : List Char :=
  ['!', '#', '$', '*', '-', '?', '@']

/-- Whether a character names a parameter by itself. -/
def isSpecial (c : Char) : Bool :=
  specialParameters.contains c || c.isDigit

/-- Reads characters of a kind; gives the first one that is none too. -/
def readWhile (kind : Char → Bool) : Nat → List Char → Option Char → Read (List Char × Option Char)
  | 0, _, _ => refuse "text too long"
  | fuel + 1, read, c =>
      match c with
      | some d =>
          if kind d then do
            let next ← fetchJoined
            readWhile kind fuel (d :: read) next
          else return (read.reverse, c)
      | none => return (read.reverse, none)

/-- The name of a parameter, from its first character on, and the character behind it; digits are taken
together only if `many` is on. -/
def readLongName (many : Bool) (c : Char) : Read (List Char × Option Char) := do
  if isNameStart c then readWhile isNameChar readingLimit [] (some c)
  else if many then readWhile Char.isDigit readingLimit [] (some c)
  else
    let next ← fetchJoined
    return ([c], next)

/-- What has been read of a parameter: its name, and, once it is clear, its use.  The character behind it
has been read, unless it has been put back. -/
structure ParameterStart where
  name : List Char
  use : Option ParameterUse := none
  next : Option Char := none

/-- Reads the name of a parameter in braces.  A number sign in front asks for a length, unless it is the
name itself. -/
def readBracedName (c : Option Char) : Read ParameterStart := do
  let unknown (back : Option Char) (name : List Char) : Read ParameterStart := do
    putBack back
    return { name := name, use := some .unknown }
  match c with
  | none => unknown none []
  | some first =>
      if isNameStart first || first.isDigit then
        let (name, next) ← readLongName true first
        return { name := name, next := next }
      else if first = '\x7d' then unknown c []
      else
        let next ← fetchJoined
        let special (sign : Char) (next : Option Char) : Read ParameterStart :=
          if isSpecial sign then return { name := [sign], next := next }
          else unknown next []
        if first ≠ '#' then special first next
        else
          let measured (name : List Char) (next : Option Char) : Read ParameterStart := do
            putBack next
            return { name := name, use := some (if next == some '\x7d' then .length else .unknown) }
          match next with
          | none => special first next
          | some d =>
              if d == '_' || d.isAlphanum then
                let (name, after) ← readLongName true d
                measured name after
              else
                let after ← fetchJoined
                if d = '\x7d' || after ≠ some '\x7d' then
                  putBack after
                  special '#' next
                else if isSpecial d then measured [d] after
                else unknown after []

/-- The use that a character behind a name asks for. -/
def useOf (c : Option Char) : ParameterUse :=
  match c with
  | some '\x7d' => .plain
  | some '-' => .orElse
  | some '+' => .ifSet
  | some '?' => .orFail
  | some '=' => .orAssign
  | _ => .unknown

/-- Reads the use of a parameter in braces from the character behind its name on; the flag tells whether
there is a colon. -/
def readUse (c : Option Char) : Read (ParameterUse × Bool) := do
  match c with
  | some ':' => return (useOf (← fetchJoined), true)
  | some '%' =>
      let d ← fetchJoined
      if d ≠ some '%' then putBack d
      return (.cutEnd (d == some '%'), false)
  | some '#' =>
      let d ← fetchJoined
      if d ≠ some '#' then putBack d
      return (.cutStart (d == some '#'), false)
  | _ => return (useOf c, false)

/-- Whether what is to be cut off is being described: then quotes count anew. -/
def cuts : ParameterUse → Bool
  | .cutEnd _ | .cutStart _ => true
  | _ => false

/-- Begins the word of a parameter. -/
def openParameter (w : WordState) (name : List Char) (use : ParameterUse) (colon : Bool) : WordState :=
  let quoting :=
    if cuts use then Quoting.plain
    else if w.level.quoting = .arithmetic then .double
    else w.level.quoting
  let begun := w.begin (.parameter name use colon)
  let deeper :=
    if quoting ≠ w.level.quoting || w.level.inner then
      begun.push { quoting := quoting, double := quoting != .plain, byParameter := true }
    else begun
  deeper.adjust fun l =>
    { l with open_ := l.open_ + 1, openDouble := if l.double then l.openDouble + 1 else l.openDouble }

/-- Reads a parameter from the character behind the dollar sign on. -/
def readParameter (c : Char) (w : WordState) : Read WordState := do
  if c ≠ '\x7b' then
    let (name, next) ← readLongName false c
    putBack next
    return w.add (.parameter name .plain false [])
  else
    let start ← readBracedName (← fetchJoined)
    match start.use with
    | some use => return openParameter w start.name use false
    | none =>
        let (use, colon) ← readUse start.next
        if use = .plain && !colon then return w.add (.parameter start.name .plain false [])
        else return openParameter w start.name use colon

/-!
## Commands in words
-/

/-- The text up to a backquote, without the backslashes that were only needed because of it. -/
def backquotedText (double : Bool) : Nat → List Char → Read (List Char)
  | 0, _ => refuse "text too long"
  | fuel + 1, read => do
      match ← fetchJoined with
      | none => refuse "EOF in backquote substitution"
      | some '\\' =>
          match ← fetch with
          | none => refuse "EOF in backquote substitution"
          | some c =>
              let dropped := c == '\\' || c == backquote || c == '$' || (double && c == '"')
              backquotedText double fuel (if dropped then c :: read else c :: '\\' :: read)
      | some '\n' =>
          countLine
          backquotedText double fuel ('\n' :: read)
      | some c => if c = backquote then return read.reverse else backquotedText double fuel (c :: read)

/-- Begins an expression. -/
def openArithmetic (w : WordState) : WordState :=
  (w.begin .arithmetic).push { quoting := .arithmetic, double := true }

/-- What one character of a word leads to: more of the word, a new line in it, or its end. -/
inductive WordStep where
  | more (w : WordState)
  | line (w : WordState)
  | ends
deriving Inhabited

/-- The readers of words, which need each other. -/
structure WordReader where
  /-- Reads a command in parentheses. -/
  inParentheses : Read (Option Statement)
  /-- Reads a command between backquotes. -/
  inBackquotes : List Char → Read (Option Statement)

/-- Reads what a dollar sign begins, if it begins anything. -/
def readDollar (r : WordReader) (w : WordState) : Read WordState := do
  let c ← fetchJoined
  let literal : Read WordState := do
    putBack c
    return w.add (.char '$')
  if (← get).expected.mark then literal
  else
    match c with
    | none => literal
    | some '(' =>
        let d ← fetchJoined
        if d == some '(' then return openArithmetic w
        else
          putBack d
          return w.add (.command (← r.inParentheses))
    | some c =>
        if c = '\x7b' || isNameStart c || isSpecial c then readParameter c w else literal

/-- Takes a character into a word. -/
def wordStep (r : WordReader) (c : Char) (w : WordState) : Read WordStep := do
  match w.level.quoting.classOf c with
  | .ordinary => return .more (w.add (.char c))
  | .guarded => return .more (addGuarded c w)
  | .newline =>
      if w.level.quoting = .plain && w.level.open_ = 0 then return .ends
      else
        countLine
        return .line (w.add (.char c))
  | .backslash => return .more (← readBackslash w)
  | .openSingle => return .more (w.adjust fun l => { l with quoting := .single }).addMark
  | .openDouble =>
      return .more (turnDouble (w.adjust fun l => { l with quoting := .double, double := true }))
  | .closeQuote => return .more (closeQuote c w)
  | .dollar => return .more (← readDollar r w)
  | .closeBrace => return .more (closeBrace w)
  | .openParen =>
      return .more ((w.adjust fun l => { l with parentheses := l.parentheses + 1 }).add (.char c))
  | .closeParen => return .more (← closeParen w)
  | .backquote =>
      if (← get).expected.mark then return .more (w.add (.char c))
      else
        let text ← backquotedText w.level.double readingLimit []
        return .more (w.add (.command (← r.inBackquotes text)))
  | .separator => if w.level.open_ = 0 then return .ends else return .more (w.add (.char c))

/-!
## Texts behind a line
-/

/-- Looks for the line that ends a text; if another line stands there, nothing is lost of it.  `mark` is
what the line must still hold, and `read` what has been seen of it after its first character. -/
def matchMark (first : Option Char) : List Char → Option Char → List Char → Read (Option Char)
  | mark, c, read => do
      let isEnd := mark.isEmpty && (c == some '\n' || c.isNone)
      if isEnd then
        countLine
        return none
      else
        match mark with
        | m :: rest =>
            if c == some m then
              let next ← fetch
              matchMark first rest next (next.toList ++ read)
            else
              putBackAll read.reverse
              return first
        | [] =>
            putBackAll read.reverse
            return first

/-- Skips tabs; gives the first character that is none. -/
def skipTabs : Nat → Option Char → Read (Option Char)
  | 0, c => pure c
  | fuel + 1, c =>
      if c == some '\t' then do
        let next ← fetch
        skipTabs fuel next
      else pure c

/-- Looks at the start of a line of a text: gives its first character, or nothing if the text has come to
its end. -/
def startLine (document : Option PendingDocument) (c : Option Char) : Read (Option Char) :=
  match document with
  | none => pure c
  | some d => do
      let first ← if d.stripsTabs then skipTabs readingLimit c else pure c
      matchMark first d.mark first []

/-- Reads a word, or a text, from a character on; gives the character that ends it too. -/
def readParts (r : WordReader) : Nat → Option Char → WordState → Read (Option Char × WordState)
  | 0, _, _ => refuse "text too long"
  | _ + 1, none, w => return (none, w)
  | fuel + 1, some c, w => do
      match ← wordStep r c w with
      | .ends => return (some c, w)
      | .more w' =>
          let next ← fetch
          readParts r fuel next w'
      | .line w' =>
          let next ← fetch
          let first ← startLine w'.document next
          readParts r fuel first w'

/-- The level of quoting in which a word begins. -/
def Level.start (quoting : Quoting) : Level :=
  { quoting := quoting, double := quoting == .double }

/-- Checks that everything in a word has come to its end. -/
def checkEnded (w : WordState) : Read Unit := do
  if w.level.quoting = .arithmetic then refuse "Missing '))'"
  else if w.level.quoting ≠ .plain && w.document.isNone then refuse "Unterminated quoted string"
  else if w.level.open_ ≠ 0 then refuse "Missing '\x7d'"
  else pure ()

/-- Notes a word as the one read last. -/
def noteWord (w : WordState) : Read Unit :=
  modify fun s => { s with quoted := w.quoted, word := w.parts.reverse }

/-- Reads the texts that have been announced. -/
def readDocumentsWith (r : WordReader) : Read Unit := do
  let pending := (← get).pending
  modify fun s => { s with pending := [] }
  for document in pending do
    let c ← if document.expands then fetchJoined else fetch
    let first ← startLine (some document) c
    let level := Level.start (if document.expands then .double else .single)
    let (_, w) ← readParts r readingLimit first { level := level, document := some document }
    checkEnded w
    noteWord w
    modify fun s => { s with documents := s.documents.setIfInBounds document.place s.word }

/-!
## Commands in words, and the texts announced in them
-/

/-- Reads a command within a word, with texts behind lines of its own.  What was pushed back there does not
count any more. -/
def readInside (body : Read (Option Statement)) : Read (Option Statement) := do
  let pending := (← get).pending
  modify fun s => { s with pending := [] }
  let result ← body
  modify fun s => { s with pending := pending, pushedBack := false }
  return result

/-- The readers of words, commands within commands being read by `self`, so deep. -/
def wordReader (self : Reader) : Nat → WordReader
  | 0 =>
      { inParentheses := refuse "nested too deeply"
        inBackquotes := fun _ => refuse "nested too deeply" }
  | depth + 1 =>
      { inParentheses := readInside do
          let body ← self .substitution
          readingFrom [] (fun s => readDocumentsWith (wordReader self depth) s)
          return body
        inBackquotes := fun text => readInside do
          readingFrom text do
            let body ← self (.list .optional)
            (fun s => readDocumentsWith (wordReader self depth) s)
            return body }

/-- Reads the texts that have been announced. -/
def readDocuments (self : Reader) : Read Unit :=
  readDocumentsWith (wordReader self nestingLimit)

/-!
## Words
-/

/-- The sign of redirection that begins with a character. -/
def readSign (c : Char) : Read (Nat × RedirectTarget) := do
  let d ← fetchJoined
  if c = '>' then
    match d with
    | some '>' => return (1, .file .append)
    | some '|' => return (1, .file .overwrite)
    | some '&' => return (1, .copy)
    | _ =>
        putBack d
        return (1, .file .write)
  else
    match d with
    | some '<' =>
        let e ← fetchJoined
        if e ≠ some '-' then putBack e
        return (0, .document (e == some '-'))
    | some '&' => return (0, .copy)
    | some '>' => return (0, .file .readWrite)
    | _ =>
        putBack d
        return (0, .file .read)

/-- The descriptor that stands in front of a sign of redirection: `none` if what stands there is a word. -/
def leadingDescriptor? (w : WordState) : Option (Option Nat) :=
  if w.quoted then none
  else
    match w.parts with
    | [] => some none
    | [.char c] => if c.isDigit then some (some (c.toNat - 48)) else none
    | _ => none

/-- Reads a word from its first character on, or a sign of redirection if one follows at once. -/
def readWord (self : Reader) (first : Char) : Read Token := do
  let (c, w) ←
    readParts (wordReader self nestingLimit) readingLimit (some first) { level := Level.start .plain }
  checkEnded w
  match c, leadingDescriptor? w with
  | some sign, some given =>
      if sign = '>' || sign = '<' then
        let (usual, target) ← readSign sign
        modify fun s => { s with descriptor := given.getD usual, target := target }
        return .redirection
      else
        putBack c
        noteWord w
        return .word
  | _, _ =>
      putBack c
      noteWord w
      return .word

/-- A word with its quotes taken off, as the mark of a text is written. -/
def unquoted (word : Word) : List Char :=
  word.flatMap fun part =>
    match part with
    | .char c | .guarded c => [c]
    | _ => []

end JobShell.Machine.Script
