import Rendezvous.Shell.Words

/-! The grammar of scripts: lists of pipelines, compound commands between keywords, function
definitions and simple commands with their assignments and redirections. -/
namespace Rendezvous.Shell.Reader

def unexpected (token : Token) (expected : Option String) (rest : List Char) :
    Except Refusal α :=
  refuse (.unexpected token.shown expected) rest

/-- The next token, where empty lines mean nothing. -/
def tokenPastLines (lists : Lists) : Reading Token := fun text =>
  token lists (skipLines (text.length + 1) text)

/-- Demands a keyword after a list of commands. -/
def keyword (lists : Lists) (expected : String) (text : List Char) :
    Except Refusal (List Char) := do
  let (found, rest) ← token lists text
  if found.keyword? = some expected then return rest
  else unexpected found (some ("\"" ++ expected ++ "\"")) rest

/-- Whether any part of a word is quoted. -/
def hasQuotes : Word → Bool
  | [] => false
  | .text _ quoted :: rest => quoted || hasQuotes rest
  | _ :: rest => hasQuotes rest

def plainText : Word → Octets
  | [] => []
  | .text chars _ :: rest => chars ++ plainText rest
  | _ :: rest => plainText rest

/-- The lines before the one that closes a document, and those behind it. -/
def documentLines (delimiter : Octets) (dropTabs : Bool) : (fuel : Nat) → List Char →
    Octets × List Char
  | 0, text => ([], text)
  | fuel + 1, text =>
    if text = [] then ([], [])
    else
      let text := if dropTabs then text.dropWhile (· = '\t') else text
      let line := text.takeWhile (· ≠ '\n')
      let behind := text.dropWhile (· ≠ '\n')
      if line = delimiter then ([], behind.drop 1)
      else
        let (content, rest) := documentLines delimiter dropTabs fuel (behind.drop 1)
        (line ++ behind.take 1 ++ content, rest)

/-- Takes a document, which begins on the next line, out of the text. -/
def document (lists : Lists) (delimiter : Word) (dropTabs : Bool) (text : List Char) :
    Except Refusal (Word × List Char) := do
  let line := text.takeWhile (· ≠ '\n')
  let behind := text.dropWhile (· ≠ '\n')
  let (content, rest) := documentLines (plainText delimiter) dropTabs (text.length + 1)
    (behind.drop 1)
  let content ← if hasQuotes delimiter then pure [.text content true]
    else (·.1) <$> pieces lists (content.length + 1) .document [] content
  return (content, line ++ behind.take 1 ++ rest)

/-- What a redirection goes to, behind its sign. -/
def redirection (lists : Lists) (descriptor : Option Nat) (sign : String) :
    Reading Redirection := fun text => do
  let (found, rest) ← token lists text
  match found with
  | .word target =>
    let input := descriptor.getD 0
    let output := descriptor.getD 1
    match sign with
    | "<" => return (.file input .reading target, rest)
    | "<>" => return (.file input .both target, rest)
    | ">" | ">|" => return (.file output .writing target, rest)
    | ">>" => return (.file output .appending target, rest)
    | "<&" => return (.duplicate input target, rest)
    | ">&" => return (.duplicate output target, rest)
    | _ => do
      let (content, rest) ← document lists target (sign = "<<-") rest
      return (.document input content, rest)
  | found => unexpected found none rest

/-- Redirections in a row. -/
def redirections (lists : Lists) : (fuel : Nat) → List Redirection → Reading (List Redirection)
  | 0, done, text => .ok (done.reverse, text)
  | fuel + 1, done, text => do
    match ← token lists text with
    | (.redirection descriptor sign, rest) =>
      let (next, rest) ← redirection lists descriptor sign rest
      redirections lists fuel (next :: done) rest
    | _ => return (done.reverse, text)

/-- Name and value of an assignment. -/
def assignment? : Word → Option (String × Word)
  | .text chars false :: rest =>
    let name := chars.takeWhile (· ≠ '=')
    match chars.dropWhile (· ≠ '=') with
    | _ :: value =>
      if isName name then
        some (String.ofList name, if value.isEmpty then rest else .text value false :: rest)
      else none
    | [] => none
  | _ => none

/-- A simple command that is being read. Its parts are in reverse. -/
structure Draft where
  assignments : List (String × Word) := []
  words : List Word := []
  redirections : List Redirection := []

/-- Words that cannot name a function. -/
def specialNames : List String := [".", ":", "break", "continue", "eval", "exec", "exit", "export",
  "readonly", "return", "set", "shift", "times", "trap", "unset"]

/-- Reads the condition and the branches behind `if` or `elif`. -/
def branches (lists : Lists) : (fuel : Nat) → Reading Command
  | 0, text => refuse (.unexpected "end of file" none) text
  | fuel + 1, text => do
    let (condition, rest) ← lists .filled text
    let (yes, rest) ← lists .filled (← keyword lists "then" rest)
    let (found, behind) ← token lists rest
    match found.keyword? with
    | some "elif" =>
      let (no, rest) ← branches lists fuel behind
      return (.choice condition yes no, rest)
    | some "else" =>
      let (no, rest) ← lists .filled behind
      return (.choice condition yes no, ← keyword lists "fi" rest)
    | _ => return (.choice condition yes .nothing, ← keyword lists "fi" rest)

/-- Reads the words that a loop goes through, or takes all parameters. -/
def values (lists : Lists) : Reading (List Word) := fun text => do
  let (found, rest) ← tokenPastLines lists text
  if found.keyword? = some "in" then wordsFrom (rest.length + 1) [] rest
  else
    let all : List Word := [[.parameter "@" .value true]]
    match ← token lists text with
    | (.sign ";", rest) => return (all, rest)
    | _ => return (all, text)
where
  wordsFrom : (fuel : Nat) → List Word → Reading (List Word)
    | 0, done, text => .ok (done.reverse, text)
    | fuel + 1, done, text => do
      match ← token lists text with
      | (.word word, rest) => wordsFrom fuel (word :: done) rest
      | (.newline, rest) | (.sign ";", rest) => return (done.reverse, rest)
      | (other, rest) => unexpected other none rest

/-- Reads patterns with their commands up to `esac`. -/
def arms (lists : Lists) : (fuel : Nat) → List (List Word × Command) →
    Reading (List (List Word × Command))
  | 0, _, text => refuse (.unexpected "end of file" none) text
  | fuel + 1, done, text => do
    let (found, rest) ← tokenPastLines lists text
    if found.keyword? = some "esac" then return (done.reverse, rest)
    else
      let start := match found with
        | .sign "(" => rest
        | _ => skipLines (text.length + 1) text
      let (patterns, rest) ← patterns (start.length + 1) [] start
      let (body, rest) ← lists .any rest
      let arms' := (patterns, body) :: done
      let (stop, behind) ← tokenPastLines lists rest
      match stop with
      | .sign ";;" => arms lists fuel arms' behind
      | _ =>
        if stop.keyword? = some "esac" then return (arms'.reverse, behind)
        else unexpected stop (some "\";;\"") behind
where
  patterns : (fuel : Nat) → List Word → Reading (List Word)
    | 0, _, text => refuse (.unexpected "end of file" none) text
    | fuel + 1, done, text => do
      let (found, rest) ← token lists text
      let done := match found with
        | .word word => word :: done
        | _ => done
      match ← token lists rest with
      | (.sign "|", rest) => patterns fuel done rest
      | (.sign ")", rest) => return (done.reverse, rest)
      | (other, rest) => unexpected other (some "\")\"") rest

mutual

/-- Reads on in a simple command, or in the definition of a function. -/
def simple (lists : Lists) (line : Nat) : (fuel : Nat) → Draft → Reading Command
  | 0, _, text => refuse (.unexpected "end of file" none) text
  | fuel + 1, draft, text => do
    let (found, rest) ← token lists text
    let finish : Except Refusal (Command × List Char) :=
      return (.simple line draft.assignments.reverse draft.words.reverse
        draft.redirections.reverse, text)
    match found with
    | .word word =>
      match if draft.words.isEmpty then assignment? word else none with
      | some assignment =>
        simple lists line fuel { draft with assignments := assignment :: draft.assignments } rest
      | none => simple lists line fuel { draft with words := word :: draft.words } rest
    | .redirection descriptor sign =>
      let (next, rest) ← redirection lists descriptor sign rest
      simple lists line fuel { draft with redirections := next :: draft.redirections } rest
    | .sign "(" =>
      match draft with
      | ⟨[], [name], []⟩ =>
        let (closing, rest) ← token lists rest
        match closing with
        | .sign ")" =>
          let chars := plainText name
          if isName chars ∧ ¬specialNames.contains (String.ofList chars) then
            let (body, rest) ← command lists line fuel (skipLines (rest.length + 1) rest)
            return (.define (String.ofList chars) body, rest)
          else refuse .badFunctionName rest
        | other => unexpected other (some "\")\"") rest
      | _ => finish
    | _ => finish

/-- Reads a command. -/
def command (lists : Lists) (line : Nat) : (fuel : Nat) → Reading Command
  | 0, text => refuse (.unexpected "end of file" none) text
  | fuel + 1, text => do
    let (found, rest) ← token lists text
    let finish (body : Command) (rest : List Char) : Except Refusal (Command × List Char) := do
      let (next, rest) ← redirections lists (rest.length + 1) [] rest
      return (if next.isEmpty then body else .redirected body line next, rest)
    match found, found.keyword? with
    | .sign "(", _ =>
      let (body, rest) ← lists .filled rest
      match ← token lists rest with
      | (.sign ")", rest) => finish (.subshell body) rest
      | (other, rest) => unexpected other (some "\")\"") rest
    | _, some "\x7b" =>
      let (body, rest) ← lists .filled rest
      finish body (← keyword lists "\x7d" rest)
    | _, some "if" =>
      let (body, rest) ← branches lists fuel rest
      finish body rest
    | _, some "while" | _, some "until" =>
      let (condition, rest) ← lists .filled rest
      let (body, rest) ← lists .filled (← keyword lists "do" rest)
      finish (.loop (found.keyword? = some "until") condition body) (← keyword lists "done" rest)
    | _, some "for" =>
      let (loopName, rest) ← token lists rest
      match loopName.plain? with
      | some name =>
        if isName name.toList then
          let (words, rest) ← values lists rest
          let (start, rest) ← tokenPastLines lists rest
          if start.keyword? = some "do" then
            let (body, rest) ← lists .filled rest
            finish (.each name words body) (← keyword lists "done" rest)
          else unexpected start (some "\"do\"") rest
        else refuse .badLoopVariable rest
      | none => refuse .badLoopVariable rest
    | _, some "case" =>
      match ← token lists rest with
      | (.word subject, rest) =>
        let (start, rest) ← tokenPastLines lists rest
        if start.keyword? = some "in" then
          let (list, rest) ← arms lists (rest.length + 1) [] rest
          finish (.select subject list) rest
        else unexpected start (some "\"in\"") rest
      | (other, rest) => unexpected other (some "word") rest
    | .word _, none | .redirection .., _ => simple lists line fuel {} text
    | other, _ => unexpected other none rest

end

/-- Reads commands joined by pipes. -/
def pipeline (lists : Lists) (total : Nat) : (fuel : Nat) → List Command → Reading Command
  | 0, _, text => refuse (.unexpected "end of file" none) text
  | fuel + 1, stages, text => do
    let line := total + 1 - linesLeft text
    let (stage, rest) ← command lists line (text.length + 3) text
    match ← token lists rest with
    | (.sign "|", rest) =>
      pipeline lists total fuel (stage :: stages) (skipLines (rest.length + 1) rest)
    | _ =>
      return (if stages.isEmpty then stage else .pipeline (stage :: stages).reverse, rest)

/-- Reads a pipeline with a mark of negation before it. -/
def negation (lists : Lists) (total : Nat) : Reading Command := fun text => do
  let (found, rest) ← token lists text
  if found.keyword? = some "!" then
    let (body, rest) ← pipeline lists total (rest.length + 1) [] rest
    return (.negated body, rest)
  else pipeline lists total (text.length + 1) [] text

/-- Reads pipelines of which each depends on how those before it ended. -/
def conditional (lists : Lists) (total : Nat) : (fuel : Nat) → Command → Reading Command
  | 0, first, text => .ok (first, text)
  | fuel + 1, first, text => do
    match ← token lists text with
    | (.sign "&&", rest) =>
      let (second, rest) ← negation lists total (skipLines (rest.length + 1) rest)
      conditional lists total fuel (.both first second) rest
    | (.sign "||", rest) =>
      let (second, rest) ← negation lists total (skipLines (rest.length + 1) rest)
      conditional lists total fuel (.either first second) rest
    | _ => return (first, text)

/-- Keywords and signs that end a list inside a command. -/
def endsList (token : Token) : Bool :=
  match token with
  | .sign ")" | .sign ";;" => true
  | token => match token.keyword? with
    | some keyword => ["do", "done", "elif", "else", "esac", "fi", "then", "\x7d"].contains keyword
    | none => false

def after (done : Option Command) (next : Command) : Command :=
  match done with
  | none => next
  | some first => .inOrder first next

/-- Reads a list of commands. A line ends with its newline; other lists end before what
closes them. -/
def list (total : Nat) : (fuel : Nat) → Option Command → Extent → Reading Command
  | 0, _, _, text => refuse (.unexpected "end of file" none) text
  | fuel + 1, done, extent, text => do
    let lists : Lists := list total fuel none
    let text := if extent = .line then text else skipLines (text.length + 1) text
    let (found, rest) ← token lists text
    let all := done.getD .nothing
    match found, extent with
    | .ended, _ => return (all, [])
    | .newline, .line => return (all, rest)
    | found, extent =>
      if extent ≠ .line ∧ (done.isSome ∨ extent = .any) ∧ endsList found then
        return (all, skipBlanks text)
      else
        let (first, rest) ← negation lists total text
        let (item, rest) ← conditional lists total (rest.length + 1) first rest
        match ← token lists rest with
        | (.sign "&", rest) => list total fuel (some (after done (.background item))) extent rest
        | (.sign ";", rest) => list total fuel (some (after done item)) extent rest
        | (.newline, behind) =>
          if extent = .line then return (after done item, behind)
          else list total fuel (some (after done item)) extent behind
        | (.ended, _) => return (after done item, [])
        | (other, behind) =>
          if extent = .line then unexpected other none behind
          else return (after done item, skipBlanks rest)

/-- Reads the next line of a script of so many lines, with all lines that its commands reach
over. -/
def line (total : Nat) : Reading Command := fun text =>
  list total (text.length + 1) none .line text

end Rendezvous.Shell.Reader
