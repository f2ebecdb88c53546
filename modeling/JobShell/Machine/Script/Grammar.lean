/-
Module: JobShell.Machine.Script.Grammar
Purpose: Reading the commands of a script.
Main exports: readNextCommand, Reading
-/
import JobShell.Machine.Script.Words

namespace JobShell.Machine.Script

/-!
## Tokens
-/

/-- Notes a token as the one read last. -/
def noteToken (token : Token) : Read Token := do
  modify fun s => { s with token := token }
  return token

/-- Takes the rest of a line, whose end stays. -/
def skipComment : Nat → Read Unit
  | 0 => refuse "text too long"
  | fuel + 1 => do
      match ← fetch with
      | none => pure ()
      | some '\n' => putBack (some '\n')
      | some _ => skipComment fuel

/-- A sign that may be doubled. -/
def readDoubled (c : Char) (twice once : Token) : Read Token := do
  let d ← fetchJoined
  if d == some c then return twice
  else
    putBack d
    return once

/-- The next token as it stands there. -/
def scanToken (self : Reader) : Nat → Read Token
  | 0 => refuse "text too long"
  | fuel + 1 => do
      match ← fetchJoined with
      | none => return .endOfText
      | some ' ' | some '\t' => scanToken self fuel
      | some '#' =>
          skipComment readingLimit
          scanToken self fuel
      | some '\n' =>
          countLine
          return .newline
      | some '&' => readDoubled '&' .andAnd .ampersand
      | some '|' => readDoubled '|' .orOr .bar
      | some ';' => readDoubled ';' .doubleSemicolon .semicolon
      | some '(' => return .leftParen
      | some ')' => return .rightParen
      | some c => readWord self c

/-- The token that was pushed back, or the next one. -/
def rawToken (self : Reader) : Read Token := do
  let s ← get
  if s.pushedBack then
    set { s with pushedBack := false }
    return s.token
  else noteToken (← scanToken self readingLimit)

/-- Takes newlines, with the texts behind them. -/
def skipNewlines (self : Reader) : Nat → Token → Read Token
  | 0, token => pure token
  | fuel + 1, token =>
      if token = .newline then do
        readDocuments self
        let next ← rawToken self
        skipNewlines self fuel next
      else pure token

/-- The next token, seen as what is expected there. -/
def tokenWithin (self : Reader) : Nat → Expected → Read Token
  | 0, _ => refuse "text too long"
  | fuel + 1, wanted => do
      let raw ← rawToken self
      let token ← if wanted.newlines then skipNewlines self readingLimit raw else pure raw
      let s ← get
      let keywords := wanted.keywords || s.expected.keywords
      let aliases := wanted.aliases || s.expected.aliases
      set { s with expected := {} }
      if token ≠ .word || s.quoted then return token
      else
        match plainWord? s.word with
        | none => return token
        | some chars =>
            match if keywords then Keyword.ofText? chars else none with
            | some keyword => noteToken (.keyword keyword)
            | none =>
                match if aliases then s.aliasText? chars else none with
                | none => return token
                | some text =>
                    if !text.isEmpty then pushAlias chars text
                    tokenWithin self fuel { wanted with keywords := keywords, aliases := aliases }

/-- The next token. -/
def nextToken (self : Reader) : Read Token := do
  tokenWithin self readingLimit (← get).expected

/-- Says what may stand next. -/
def expect (expected : Expected) : Read Unit :=
  modify fun s => { s with expected := expected }

/-- Pushes the last token back. -/
def pushBack : Read Unit :=
  modify fun s => { s with pushedBack := true }

/-- Takes a token that must stand next. -/
def demand (self : Reader) (wanted : Token) : Read Unit := do
  if (← nextToken self) ≠ wanted then unexpected (some wanted)

/-!
## Simple commands
-/

/-- Reads the word that a sign of redirection needs. -/
def readTarget (self : Reader) : Read Redirect := do
  let start ← get
  let isDocument := start.target matches .document _
  if isDocument then expect { mark := true }
  if (← nextToken self) ≠ .word then unexpected none
  let s ← get
  match start.target with
  | .file use => return .file start.descriptor use s.word
  | .copy => return .copy start.descriptor s.word
  | .document stripsTabs =>
      let place := s.documents.size
      let pending : PendingDocument :=
        { place := place
          expands := !s.quoted
          stripsTabs := stripsTabs
          mark := unquoted s.word }
      set { s with pending := s.pending ++ [pending], documents := s.documents.push [] }
      return .document start.descriptor (!s.quoted) place

/-- The commands that no function can take the name of. -/
def specialCommands : List String :=
  [".", ":", "break", "continue", "eval", "exec", "exit", "export", "local", "readonly", "return", "set",
    "shift", "times", "trap", "unset"]

/-- Whether a failure of a command ends the script. -/
def isSpecialCommand (name : List Char) : Bool :=
  specialCommands.contains (String.ofList name)

/-- A simple command as far as it has been read, in reverse. -/
structure SimpleStart where
  assignments : List Word := []
  words : List Word := []
  redirects : List Redirect := []
deriving Inhabited

/-- The name of a function that is about to be defined: the only word so far. -/
def SimpleStart.functionWord? (start : SimpleStart) : Option Word :=
  match start.assignments, start.words, start.redirects with
  | [], [name], [] => some name
  | _, _, _ => none

/-- Reads the rest of the definition of a function. -/
def readFunction (self : Reader) (name : Word) : Read (Option Statement) := do
  demand self .rightParen
  match (plainWord? name).filter fun chars => isName chars && !isSpecialCommand chars with
  | none => refuse "Bad function name"
  | some chars =>
      expect .command
      let line := (← get).source.line
      let body ← self .command
      return some (.define line chars body)

/-- Reads a simple command, or the definition of a function.  `leading` tells whether only assignments have
stood there so far. -/
def readSimple (self : Reader) (line : Nat) :
    Nat → Bool → SimpleStart → Read (Option Statement)
  | 0, _, _ => refuse "text too long"
  | fuel + 1, leading, start => do
      expect { aliases := leading }
      match ← nextToken self with
      | .word =>
          let word := (← get).word
          if leading && isAssignment word then
            readSimple self line fuel true { start with assignments := word :: start.assignments }
          else readSimple self line fuel false { start with words := word :: start.words }
      | .redirection =>
          let redirect ← readTarget self
          readSimple self line fuel leading { start with redirects := redirect :: start.redirects }
      | token =>
          match if token = .leftParen then start.functionWord? else none with
          | some name => readFunction self name
          | none =>
              pushBack
              return some (.simple line start.assignments.reverse start.words.reverse
                start.redirects.reverse)

/-!
## Compound commands
-/

/-- Reads a list that must hold something. -/
def readNeeded (self : Reader) : Read (Option Statement) :=
  self (.list .needed)

/-- Reads a choice from behind the word that begins it to where its end must stand. -/
def readChoice (self : Reader) : Nat → Read (Option Statement)
  | 0 => refuse "nested too deeply"
  | fuel + 1 => do
      let condition ← readNeeded self
      demand self (.keyword .then)
      let yes ← readNeeded self
      match ← nextToken self with
      | .keyword .elif =>
          let no ← readChoice self fuel
          return some (.choice condition yes no)
      | .keyword .else =>
          let no ← readNeeded self
          return some (.choice condition yes no)
      | _ =>
          pushBack
          return some (.choice condition yes none)

/-- Reads words up to something else. -/
def readWords (self : Reader) : Nat → List Word → Read (List Word)
  | 0, _ => refuse "text too long"
  | fuel + 1, words => do
      if (← nextToken self) = .word then readWords self fuel ((← get).word :: words)
      else return words.reverse

/-- The word that stands for all positional parameters. -/
def allPositional : Word :=
  [.mark, .parameter ['@'] .plain false [], .mark]

/-- Reads a loop over words, up to where its end must stand. -/
def readEach (self : Reader) (line : Nat) : Read (Option Statement) := do
  let token ← nextToken self
  let s ← get
  match (if token = .word && !s.quoted then plainWord? s.word else none).filter isName with
  | none => refuse "Bad for loop variable"
  | some name =>
      expect .command
      let words ←
        if (← nextToken self) = .keyword .in then do
          let words ← readWords self readingLimit []
          let last := (← get).token
          if last ≠ .newline && last ≠ .semicolon then unexpected none
          pure words
        else do
          if (← get).token ≠ .semicolon then pushBack
          pure [allPositional]
      expect .command
      demand self (.keyword .do)
      let body ← readNeeded self
      return some (.each line name words body)

/-- Reads the patterns of an arm, from the present word on; gives the token behind them too. -/
def readPatterns (self : Reader) : Nat → List Word → Read (List Word × Token)
  | 0, _ => refuse "text too long"
  | fuel + 1, patterns => do
      let all := (← get).word :: patterns
      let token ← nextToken self
      if token = .bar then
        let _ ← nextToken self
        readPatterns self fuel all
      else return (all.reverse, token)

/-- Reads the arms of a selection, including its end. -/
def readArms (self : Reader) :
    Nat → List (List Word × Option Statement) → Read (List (List Word × Option Statement))
  | 0, _ => refuse "text too long"
  | fuel + 1, arms => do
      expect { newlines := true, keywords := true }
      let token ← nextToken self
      if token = .keyword .esac then return arms.reverse
      else
        if token = .leftParen then
          let _ ← nextToken self
        let (patterns, behind) ← readPatterns self readingLimit []
        if behind ≠ .rightParen then unexpected (some .rightParen)
        let body ← self (.list .optional)
        let all := (patterns, body) :: arms
        expect { newlines := true, keywords := true }
        match ← nextToken self with
        | .keyword .esac => return all.reverse
        | .doubleSemicolon => readArms self fuel all
        | _ => unexpected (some .doubleSemicolon)

/-- Reads a selection, including its end. -/
def readSelect (self : Reader) (line : Nat) : Read (Option Statement) := do
  demand self .word
  let subject := (← get).word
  expect .command
  demand self (.keyword .in)
  let arms ← readArms self readingLimit []
  return some (.select line subject arms)

/-- Reads redirections. -/
def readRedirects (self : Reader) : Nat → List Redirect → Read (List Redirect)
  | 0, _ => refuse "text too long"
  | fuel + 1, redirects => do
      if (← nextToken self) = .redirection then
        let redirect ← readTarget self
        readRedirects self fuel (redirect :: redirects)
      else
        pushBack
        return redirects.reverse

/-- Reads the redirections behind a compound command.  A command in parentheses takes them in the place of
those it had. -/
def readAttached (self : Reader) (line : Nat) (body : Option Statement) : Read (Option Statement) := do
  expect { keywords := true, aliases := true }
  let redirects ← readRedirects self readingLimit []
  if redirects.isEmpty then return body
  match body with
  | some (.subshell line inner _) => return some (.subshell line inner redirects)
  | _ => return some (.redirected line body redirects)

/-- Reads a compound command whose end is a token. -/
def readEnclosed (self : Reader) (line : Nat) (ending : Token) (body : Read (Option Statement)) :
    Read (Option Statement) := do
  let inner ← body
  demand self ending
  readAttached self line inner

/-- Reads a command. -/
def readCommand (self : Reader) : Read (Option Statement) := do
  let line := (← get).source.line
  let enclosed := readEnclosed self line
  match ← nextToken self with
  | .keyword .if => enclosed (.keyword .fi) (readChoice self readingLimit)
  | .keyword .while => enclosed (.keyword .done) (readLoop false)
  | .keyword .until => enclosed (.keyword .done) (readLoop true)
  | .keyword .for => enclosed (.keyword .done) (readEach self line)
  | .keyword .case => readAttached self line (← readSelect self line)
  | .leftParen =>
      enclosed .rightParen do
        let body ← readNeeded self
        return some (.subshell line body [])
  | .keyword .leftBrace => enclosed (.keyword .rightBrace) (readNeeded self)
  | .word | .redirection =>
      pushBack
      let start := (← get).source.line
      readSimple self start readingLimit true {}
  | _ => unexpected none
where
  /-- Reads a loop up to where its end must stand. -/
  readLoop (untilTrue : Bool) : Read (Option Statement) := do
    let condition ← readNeeded self
    demand self (.keyword .do)
    let body ← readNeeded self
    return some (.loop untilTrue condition body)

/-!
## Lists
-/

/-- Reads the commands of a pipeline behind the first one. -/
def readPiped (self : Reader) : Nat → List (Option Statement) → Read (List (Option Statement))
  | 0, _ => refuse "text too long"
  | fuel + 1, commands => do
      if (← nextToken self) = .bar then
        expect .command
        let command ← self .command
        readPiped self fuel (command :: commands)
      else
        pushBack
        return commands.reverse

/-- Reads a pipeline, which may be negated. -/
def readPipeline (self : Reader) : Read (Option Statement) := do
  let negated := (← nextToken self) = .keyword .bang
  if negated then expect { keywords := true, aliases := true } else pushBack
  let first ← self .command
  let commands ← readPiped self readingLimit [first]
  let pipeline := match commands with
    | [single] => single
    | _ => some (.pipeline false commands)
  return if negated then some (.negated pipeline) else pipeline

/-- Reads pipelines joined by "and" and "or", behind the first one. -/
def readJoined (self : Reader) : Nat → Option Statement → Read (Option Statement)
  | 0, _ => refuse "text too long"
  | fuel + 1, first => do
      match ← nextToken self with
      | .andAnd =>
          expect .command
          let second ← readPipeline self
          readJoined self fuel (some (.both first second))
      | .orOr =>
          expect .command
          let second ← readPipeline self
          readJoined self fuel (some (.either first second))
      | _ =>
          pushBack
          return first

/-- A command that is not waited for. -/
def inBackground (command : Option Statement) : Option Statement :=
  match command with
  | some (.pipeline _ commands) => some (.pipeline true commands)
  | some (.redirected line body redirects) => some (.detached line body redirects)
  | other => some (.detached 0 other [])

/-- A list with one more command. -/
def withNext (before : Option (Option Statement)) (next : Option Statement) : Option Statement :=
  match before with
  | none => next
  | some first => some (.sequence first next)

/-- Reads the commands of a list behind some of them. -/
def readCommands (self : Reader) (place : ListPlace) :
    Nat → Option (Option Statement) → Read (Option Statement)
  | 0, _ => refuse "text too long"
  | fuel + 1, before => do
      let separate := place == .line
      expect { newlines := !separate, keywords := true, aliases := true }
      let finish : Read (Option Statement) := do
        readDocuments self
        pushBack
        let _ ← noteToken .endOfText
        return before.join
      match ← nextToken self with
      | .newline =>
          readDocuments self
          return before.join
      | .endOfText => finish
      | token =>
          pushBack
          if (place == .optional || (place == .needed && before.isSome)) && token.endsList then
            return before.join
          else
            let first ← readJoined self readingLimit (← readPipeline self)
            let behind ← nextToken self
            let all := withNext before (if behind = .ampersand then inBackground first else first)
            match behind with
            | .endOfText =>
                readDocuments self
                pushBack
                let _ ← noteToken .endOfText
                return all
            | .newline =>
                pushBack
                readCommands self place fuel (some all)
            | .ampersand | .semicolon => readCommands self place fuel (some all)
            | _ =>
                if separate then unexpected none
                else
                  pushBack
                  return all

/-- Answers a request, commands within commands being read by `self`. -/
def answerRequest (self : Reader) : Reader
  | .list place => readCommands self place readingLimit none
  | .command => readCommand self
  | .substitution => do
      let body ← readCommands self .optional readingLimit none
      demand self .rightParen
      return body

/-- Reads commands that stand so deep within each other at most. -/
def readerOf : Nat → Reader
  | 0 => fun _ => refuse "nested too deeply"
  | depth + 1 => fun request => answerRequest (readerOf depth) request

/-- The characters that mean something in a text that is worked out as if in double quotes. -/
def templateSigns : List Char :=
  ['$', '\\', backquote]

/-- A text that is to be worked out as if in double quotes; nothing if there is nothing to be worked out in
it, or if it makes no sense. -/
def readTemplate? (text : List Char) : Option Word :=
  if !text.any templateSigns.contains then none
  else
    let start : ReadState := { source := { pieces := text.map Piece.char } }
    let document : PendingDocument :=
      { place := 0, expands := true, stripsTabs := false, mark := [Char.ofNat 0] }
    let read : Read Word := do
      let c ← fetchJoined
      let (_, w) ←
        readParts (wordReader (readerOf nestingLimit) nestingLimit) readingLimit c
          { level := Level.start .double, document := some document }
      return w.parts.reverse
    match read.run start with
    | .ok (word, _) => some word
    | .error _ => none

/-!
## The commands of a script, one after the other
-/

/-- What reading on in a script leads to: a command, which may be empty, the end, or a fault.  `last` tells
that the end of the text has been seen behind a command, and `left` how much of the source had not been
looked at when a fault was found. -/
inductive Reading where
  | command (statement : Option Statement) (last : Bool) (source : Source) (documents : Array Word)
  | finished (source : Source)
  | wrong (line left : Nat) (text : String)
  | unfinished
deriving Inhabited

/-- Reads the next line of commands. -/
def readNextCommand (aliases : List (List Char × List Char)) (documents : Array Word)
    (source : Source) : Reading :=
  let start : ReadState := { source := source, aliases := aliases, documents := documents }
  match (readerOf nestingLimit (.list .line)).run start with
  | .error (.wrong line left text) => .wrong line left text
  | .error .unfinished => .unfinished
  | .ok (statement, s) =>
      let atEnd := s.pushedBack && s.token = .endOfText
      if statement.isNone && atEnd then .finished s.source
      else .command statement atEnd s.source s.documents

end JobShell.Machine.Script
