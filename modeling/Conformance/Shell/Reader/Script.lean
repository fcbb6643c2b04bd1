import Conformance.Shell.Reader.Word

/-! # Reading commands

The grammar of commands. A script is read one line of commands at a time, because what a command
does can change how the next line is read.
-/

namespace Conformance.Shell

def specialCommands : List String :=
  [".", ":", "break", "continue", "eval", "exec", "exit", "export", "readonly", "local", "return",
    "set", "shift", "times", "trap", "unset"]

def complain {α : Type} (complaint : Complaint) : Reading α := fun r => r.refuse complaint

def unexpected {α : Type} (wanted : Option Token) : Reading α := do
  complain (.unexpected (← get).token wanted)

/-- What an inner reader of words may call, where nothing can be nested any deeper. -/
def Nested.none : Nested where
  list := unexpected Option.none
  token := unexpected Option.none
  documents := pure ()

def readDocuments (n : Nested) : Reading Unit := do
  let awaited := (← get).awaited
  modify fun r => { r with awaited := [] }
  for entry in awaited do
    let r ← get
    let first ← if entry.expands then look r
      else r.next.map fun (c, after) => (⟨c, r, after⟩ : Look)
    let (d, l) ← readWordFrom n { line := some entry.delimiter, stripsTabs := entry.stripsTabs }
      (if entry.expands then .doubleQuoted else .singleQuoted) first
    set { l.after with documents := (entry.document, d.parts.reverse) :: l.after.documents }

def freshToken (n : Nested) : Reading Token := do
  if (← get).pushedBack then
    modify fun r => { r with pushedBack := false }
    return (← get).token
  else
    let (token, r) ← readToken n manyChars (← get)
    set { r with token }
    return token

def skipNewlines (n : Nested) : Nat → Token → Reading Token
  | 0, token => return token
  | fuel + 1, token => do
    if token = .newline then
      readDocuments n
      modify fun r => { r with checks := {} }
      skipNewlines n fuel (← freshToken n)
    else return token

/-- The value of an alias that is not being read already. -/
def aliasValue? (r : Reader) (name : String) : Option String :=
  if r.replacements.any fun entry => entry.name = name then none
  else (r.aliases.find? fun entry => entry.1 = name).map Prod.snd

def Checks.or (a b : Checks) : Checks where
  newlines := a.newlines || b.newlines
  keywords := a.keywords || b.keywords
  aliases := a.aliases || b.aliases
  delimiter := a.delimiter || b.delimiter

/-- The next token under checks. The value of an alias takes the place of its name. -/
def tokenUnder (n : Nested) : Nat → Checks → Reading Token
  | 0, _ => return .endOfFile
  | fuel + 1, checks => do
    let token ← freshToken n
    let token ← if checks.newlines then skipNewlines n manyChars token else pure token
    let checks := checks.or (← get).checks
    modify fun r => { r with checks := {} }
    let r ← get
    if token ≠ .word || r.quoted then return token
    else match Word.text? r.word with
      | none => return token
      | some text =>
        let text := String.ofList text
        if checks.keywords && Token.keywords.contains text then
          set { r with token := .keyword text }
          return .keyword text
        else
          match if checks.aliases then aliasValue? r text else none with
          | none => return token
          | some value =>
            let chars := value.toList
            unless chars.isEmpty do
              set { r with
                replacements := ⟨text, chars, chars.getLast?⟩ :: r.replacements }
            tokenUnder n fuel checks

def nextToken (n : Nested) : Reading Token := do
  tokenUnder n manyChars (← get).checks

def pushBack : Reading Unit := modify fun r => { r with pushedBack := true }

def check (checks : Checks) : Reading Unit := modify fun r => { r with checks }

/-- A word that may stand for a keyword or an alias, perhaps after line ends. -/
def Checks.command : Checks := { keywords := true, aliases := true }
def Checks.afterLines : Checks := { newlines := true, keywords := true, aliases := true }
def Checks.pattern : Checks := { newlines := true, keywords := true }

def demand (n : Nested) (token : Token) : Reading Unit := do
  let found ← nextToken n
  unless found = token do unexpected (some token)

def bareText (w : Word) : List Char :=
  w.filterMap fun part => match part with
    | .plain c | .escaped c => some c
    | _ => none

def readTarget (n : Nested) : Reading Redirection := do
  let .mk descriptor kind _ _ := (← get).redirection
  let stripsTabs := (← get).stripsTabs
  if kind = .text then check ({ delimiter := true } : Checks)
  let token ← nextToken n
  unless token = .word do unexpected none
  let r ← get
  if kind ≠ .text then return .mk descriptor kind r.word 0
  else
    let document := r.nextDocument
    let expands := !r.quoted
    let entry : Awaited := { document, delimiter := bareText r.word, stripsTabs, expands }
    set { r with nextDocument := document + 1, awaited := r.awaited ++ [entry] }
    return .mk descriptor (if expands then .expandedText else .text) [] document

def readRedirections (n : Nested) : Nat → List Redirection → Reading (List Redirection)
  | 0, taken => return taken.reverse
  | fuel + 1, taken => do
    let token ← nextToken n
    if token = .redirection then
      let redirection ← readTarget n
      readRedirections n fuel (redirection :: taken)
    else
      pushBack
      return taken.reverse

structure Grammar where
  nested : Nested
  /-- A list of commands. The first flag says that a line end ends it, the second that it may be
  empty. -/
  list : (line canBeEmpty : Bool) → Reading (Option Command)
  command : Reading Command

def allParameters : Word := [.quoteMark, .parameter ['@'] .plain [], .quoteMark]

/-- Reads the words of a simple command. `first` tells whether no word has been read that is no
assignment. -/
def readSimple (g : Grammar) (line : Nat) : Nat → (first : Bool) → (assignments words : List Word) →
    List Redirection → Reading Command
  | 0, _, _, _, _ => unexpected none
  | fuel + 1, first, assignments, words, redirections => do
    check { aliases := first }
    let finish : Reading Command := do
      pushBack
      return .simple line assignments.reverse words.reverse redirections.reverse
    match ← nextToken g.nested with
    | .word =>
      let word := (← get).word
      if first && word.isAssignment then
        readSimple g line fuel true (word :: assignments) words redirections
      else readSimple g line fuel false assignments (word :: words) redirections
    | .redirection =>
      let redirection ← readTarget g.nested
      readSimple g line fuel first assignments words (redirection :: redirections)
    | .openParen =>
      match words with
      | [name] =>
        if assignments.isEmpty && redirections.isEmpty then
          demand g.nested .closeParen
          let text := (Word.text? name).getD []
          if !isName text || specialCommands.contains (String.ofList text) then
            complain .badFunctionName
          check .afterLines
          let line := (← get).line
          return .definition line text (some (← g.command))
        else finish
      | _ => finish
    | _ => finish

def readWords (n : Nested) : Nat → List Word → Reading (List Word)
  | 0, words => return words.reverse
  | fuel + 1, words => do
    if (← nextToken n) = .word then readWords n fuel ((← get).word :: words)
    else return words.reverse

def readPatterns (n : Nested) : Nat → List Word → Reading (List Word)
  | 0, patterns => return patterns.reverse
  | fuel + 1, patterns => do
    let patterns := (← get).word :: patterns
    if (← nextToken n) = .pipe then
      let _ ← nextToken n
      readPatterns n fuel patterns
    else return patterns.reverse

def readCases (g : Grammar) : Nat → List (List Word × Option Command) →
    Reading (List (List Word × Option Command))
  | 0, cases => return cases.reverse
  | fuel + 1, cases => do
    check .pattern
    let token ← nextToken g.nested
    if token = .keyword "esac" then return cases.reverse
    else
      if token = .openParen then let _ ← nextToken g.nested
      let patterns ← readPatterns g.nested manyChars []
      unless (← get).token = .closeParen do unexpected (some .closeParen)
      let body ← g.list false true
      let cases := (patterns, body) :: cases
      check .pattern
      let token ← nextToken g.nested
      if token = .keyword "esac" then return cases.reverse
      else if token = .doubleSemicolon then readCases g fuel cases
      else unexpected (some .doubleSemicolon)

def readBranch (g : Grammar) : Nat → Reading Command
  | 0 => unexpected none
  | fuel + 1 => do
    let condition ← g.list false false
    demand g.nested (.keyword "then")
    let body ← g.list false false
    match ← nextToken g.nested with
    | .keyword "elif" => return .branch condition body (some (← readBranch g fuel))
    | .keyword "else" => return .branch condition body (← g.list false false)
    | _ =>
      pushBack
      return .branch condition body none

def readEach (g : Grammar) (line : Nat) : Reading Command := do
  let token ← nextToken g.nested
  let r ← get
  let name := (Word.text? r.word).getD []
  if token ≠ .word || r.quoted || !isName name then complain .badLoopVariable
  check .afterLines
  let words ← if (← nextToken g.nested) = .keyword "in" then
      do
        let words ← readWords g.nested manyChars []
        unless [.newline, .semicolon].contains (← get).token do unexpected none
        pure words
    else do
      unless (← get).token = .semicolon do pushBack
      pure [allParameters]
  check .afterLines
  demand g.nested (.keyword "do")
  let body ← g.list false false
  return .each line name words body

def readChoice (g : Grammar) (line : Nat) : Reading Command := do
  demand g.nested .word
  let subject := (← get).word
  check .afterLines
  demand g.nested (.keyword "in")
  return .choice line subject (← readCases g manyChars [])

def withRedirections (g : Grammar) (line : Nat) (command : Command) : Reading Command := do
  check .command
  let redirections ← readRedirections g.nested manyChars []
  if redirections.isEmpty then return command
  else match command with
    | .subshell line body _ => return .subshell line body redirections
    | _ => return .redirected line command redirections

def readCommand (g : Grammar) : Reading Command := do
  let line := (← get).line
  let closed (command : Command) (token : Token) : Reading Command := do
    demand g.nested token
    withRedirections g line command
  match ← nextToken g.nested with
  | .keyword "if" => closed (← readBranch g manyChars) (.keyword "fi")
  | .keyword "while" =>
    let condition ← g.list false false
    demand g.nested (.keyword "do")
    closed (.loop true condition (← g.list false false)) (.keyword "done")
  | .keyword "until" =>
    let condition ← g.list false false
    demand g.nested (.keyword "do")
    closed (.loop false condition (← g.list false false)) (.keyword "done")
  | .keyword "for" => closed (← readEach g line) (.keyword "done")
  | .keyword "case" => withRedirections g line (← readChoice g line)
  | .openParen => closed (.subshell line (← g.list false false) []) .closeParen
  | .keyword "\x7b" =>
    let body ← g.list false false
    closed (body.getD default) (.keyword "\x7d")
  | .word | .redirection =>
    pushBack
    readSimple g (← get).line manyChars true [] [] []
  | _ => unexpected none

def readPipeline (g : Grammar) : Nat → List Command → Reading (List Command)
  | 0, commands => return commands.reverse
  | fuel + 1, commands => do
    if (← nextToken g.nested) = .pipe then
      check .afterLines
      let command ← g.command
      readPipeline g fuel (command :: commands)
    else
      pushBack
      return commands.reverse

def readNegation (g : Grammar) : Reading Command := do
  let negated := (← nextToken g.nested) = .keyword "!"
  if negated then check .command else pushBack
  let first ← g.command
  let commands ← readPipeline g manyChars [first]
  let command := match commands with
    | [command] => command
    | _ => .pipeline true commands
  return if negated then .negation command else command

/-- Reads the pipelines that depend on each other after the first one. -/
def readConditions (g : Grammar) : Nat → Command → Reading Command
  | 0, command => return command
  | fuel + 1, command => do
    match ← nextToken g.nested with
    | .andIf =>
      check .afterLines
      let next ← readNegation g
      readConditions g fuel (.both command next)
    | .orIf =>
      check .afterLines
      let next ← readNegation g
      readConditions g fuel (.either command next)
    | _ =>
      pushBack
      return command

def inBackground : Command → Command
  | .pipeline _ commands => .pipeline false commands
  | .redirected line command redirections => .background line command redirections
  | command => .background 0 command []

/-- Goes on with a list of commands. The flags: a line end ends the list; what ends a list may come
next. -/
def readListFrom (g : Grammar) (line : Bool) : Nat → (canEnd : Bool) → Option Command →
    Reading (Option Command × Bool)
  | 0, _, command => return (command, false)
  | fuel + 1, canEnd, command => do
    check { newlines := !line, keywords := true, aliases := true }
    match ← nextToken g.nested with
    | .newline =>
      readDocuments g.nested
      return (command, false)
    | .endOfFile =>
      readDocuments g.nested
      pushBack
      modify fun r => { r with token := .endOfFile }
      return (command, line && command.isNone)
    | token =>
      pushBack
      if canEnd && !line && token.endsList then return (command, false)
      else
        let next ← readConditions g manyChars (← readNegation g)
        let token ← nextToken g.nested
        let next := if token = .ampersand then inBackground next else next
        let command := match command with
          | some command => Command.sequence command next
          | none => next
        match token with
        | .newline | .endOfFile =>
          pushBack
          readListFrom g line fuel true (some command)
        | .ampersand | .semicolon => readListFrom g line fuel true (some command)
        | _ =>
          if line then unexpected none
          pushBack
          return (some command, false)

def grammar : Nat → Grammar
  | 0 =>
    { nested := .none, list := fun _ _ => unexpected none, command := unexpected none }
  | depth + 1 =>
    let nested : Nested :=
      { list := fun r => (grammar depth).list false true r
        token := fun r => nextToken (grammar depth).nested r
        documents := fun r => readDocuments (grammar depth).nested r }
    { nested
      list := fun line canBeEmpty r =>
        (Prod.fst <$> readListFrom { grammar depth with nested } line manyChars canBeEmpty none) r
      command := fun r => readCommand { grammar depth with nested } r }

def maxNesting : Nat := 1000000

def readText (text : List Char) : Except Stop Word := do
  let r : Reader := { rest := text, complete := true }
  let first ← look r
  let (d, _) ← readWordFrom (grammar maxNesting).nested { line := some ['\x00'] } .doubleQuoted first
  return d.parts.reverse

inductive Line where
  | endOfFile
  | commands (command : Option Command)

def readLine : Reading Line := do
  modify fun r => { r with
    pushedBack := false, checks := {}, awaited := [], documents := [] }
  let (command, ended) ← readListFrom (grammar maxNesting) true manyChars false none
  let documents := (← get).documents
  return if ended then .endOfFile
    else .commands (command.map fun command => command.withDocuments documents)

end Conformance.Shell
