import Rendezvous.Shell.Condition
import Rendezvous.Shell.Printed
import Rendezvous.Shell.Program
import Rendezvous.Shell.Reader
import Rendezvous.Shell.Signal

/-! Commands that a shell carries out itself and that run no further commands. -/
namespace Rendezvous.Shell

abbrev Builtin := List Octets → Run Unit

namespace Builtin

/-- Commands whose faults end the shell. -/
def special : List String := Reader.specialNames ++ ["local"]

/-- Complains under the command's name; the fault of a special command ends the shell. -/
def fail (name text : String) (status : Nat) : Run Unit := do
  complain (name ++ ": " ++ text)
  if special.contains name then leave status else setStatus status

def illegalNumber (name : String) (text : Octets) : Run α := do
  fail name ("Illegal number: " ++ shown text) 2
  throw .exits

/-- A count from the arguments, or what is taken without one. -/
def countFrom (name : String) (fallback : Nat) (arguments : List Octets) : Run Nat :=
  match arguments with
  | [] => return fallback
  | text :: _ =>
    if text.isEmpty ∨ text.any (!Char.isDigit ·) then illegalNumber name text
    else return Sum.inBase 10 text

/-- A status keeps its last eight bits. -/
def statusOf (number : Nat) : Nat := number % 256

def exit : Builtin := fun arguments => do
  leave (statusOf (← countFrom "exit" (← get).status arguments))

def return_ : Builtin := fun arguments => do
  setStatus (statusOf (← countFrom "return" (← get).status arguments))
  throw .returns

/-- Leaves loops, as many as are asked for and under way. -/
def leaveLoops (name : String) (how : Nat → Leave) : Builtin := fun arguments => do
  let levels ← countFrom name 1 arguments
  if levels = 0 then illegalNumber name ['0']
  else
    setStatus 0
    let loops := (← get).loops
    if loops = 0 then return else throw (how (min levels loops))

def shift : Builtin := fun arguments => do
  let count ← countFrom "shift" 1 arguments
  let state ← get
  if state.parameters.length < count then fail "shift" "can't shift that many" 2
  else set { state with parameters := state.parameters.drop count, status := 0 }

/-- Switches an option by its letter. -/
def option? (letter : Char) (on : Bool) : Option (State → State) :=
  match letter with
  | 'e' => some fun state => { state with stopsOnFailure := on }
  | 'u' => some fun state => { state with needsValues := on }
  | 'x' => some fun state => { state with traces := on }
  | c =>
    let idle := ['a', 'b', 'C', 'f', 'h', 'i', 'm', 'n', 'v', 'V', 'E', 'I']
    if idle.contains c then some id else none

def longOption? : String → Option Char
  | "errexit" => some 'e'
  | "nounset" => some 'u'
  | "xtrace" => some 'x'
  | _ => none

/-- Switches all options of one word. -/
def switchOptions (name : String) (on : Bool) : Octets → Run Unit
  | [] => return
  | letter :: rest => do
    match option? letter on with
    | some switch =>
      modify switch
      switchOptions name on rest
    | none =>
      complain (name ++ "Illegal option -" ++ String.singleton letter)
      leave 2

def setParameters (parameters : List Octets) : Run Unit :=
  modify fun state => { state with parameters := parameters, status := 0 }

/-- Sets options up to the first word that is none, and then the parameters. -/
def set_ : (fuel : Nat) → Builtin
  | 0, _ => return
  | fuel + 1, arguments => do
    setStatus 0
    match arguments with
    | [] => return
    | ['-', '-'] :: rest => setParameters rest
    | ['-', 'o'] :: name :: rest | ['+', 'o'] :: name :: rest =>
      match longOption? (shown name) with
      | some letter =>
        switchOptions "set: " (arguments.head?.bind List.head? = some '-') [letter]
        set_ fuel rest
      | none => fail "set" ("Illegal option -o " ++ shown name) 2
    | ('-' :: letter :: letters) :: rest =>
      switchOptions "set: " true (letter :: letters)
      set_ fuel rest
    | ('+' :: letter :: letters) :: rest =>
      switchOptions "set: " false (letter :: letters)
      set_ fuel rest
    | arguments => setParameters arguments

/-- Goes through names, each with the value that it may be given. -/
def forNames (name : String) (use : String → Option Octets → Run Unit) : Builtin :=
  fun arguments => do
    setStatus 0
    for argument in arguments do
      let variableName := argument.takeWhile (· ≠ '=')
      if isName variableName then
        use (String.ofList variableName)
          (if argument.contains '=' then some (argument.drop (variableName.length + 1)) else none)
      else fail name (shown variableName ++ ": bad variable name") 2

/-- The arguments behind options. -/
def pastOptions (arguments : List Octets) : List Octets :=
  let rest := arguments.dropWhile fun argument => argument.head? = some '-' && argument ≠ ['-', '-']
  if rest.head? = some ['-', '-'] then rest.drop 1 else rest

def unset : Builtin := fun arguments =>
  if arguments.head? = some ['-', 'f'] then do
    setStatus 0
    modify fun state => { state with
      functions := state.functions.filter fun entry =>
        ¬(arguments.drop 1).contains (ofString entry.1) }
  else
    forNames "unset" (fun name _ => do
      if (← get).fixed.contains name then fail "unset" (name ++ ": is read only") 2
      else modify (State.unset name)) (pastOptions arguments)

def exportNames : Builtin := fun arguments =>
  forNames "export" (fun name value => do
    if let some value := value then assign name value
    modify fun state => { state with exported := name :: state.exported }) (pastOptions arguments)

def readonly : Builtin := fun arguments =>
  forNames "readonly" (fun name value => do
    if let some value := value then assign name value
    modify fun state => { state with fixed := name :: state.fixed }) (pastOptions arguments)

def local_ : Builtin := fun arguments => do
  match (← get).locals with
  | none => fail "local" "not in a function" 2
  | some _ =>
    forNames "local" (fun name value => do
      let state ← get
      set { state with locals := state.locals.map ((name, state.find? name) :: ·) }
      if let some value := value then assign name value) arguments

/-- The characters that are read, those behind a backslash being taken as they are. A line
that ends in a backslash goes on in the next one. -/
def readCells (raw : Bool) : (fuel : Nat) → Run (List Cell × Bool)
  | 0 => throw .endless
  | fuel + 1 => do
    let (line, ended) ← readLine pieceLimit
    if raw then return (line.map .result, ended)
    else
      let rec cells : Octets → List Cell × Bool
        | ['\\'] => ([], true)
        | '\\' :: c :: rest => let (more, joins) := cells rest; (.char c true :: more, joins)
        | c :: rest => let (more, joins) := cells rest; (.result c :: more, joins)
        | [] => ([], false)
      match cells line with
      | (found, true) =>
        if ended then
          let (more, ended) ← readCells raw fuel
          return (found ++ more, ended)
        else return (found, ended)
      | (found, false) => return (found, ended)

/-- Cuts what was read into at most so many fields, of which the last takes all that is left. -/
def readFields (separators : Octets) : (count : Nat) → List Cell → List Octets
  | 0, _ => []
  | count + 1, cells =>
    let isSeparator (cell : Cell) : Bool := match cell with
      | .result c => separators.contains c
      | _ => false
    let isSpace (cell : Cell) : Bool := isSeparator cell && match cell with
      | .result c => blankSeparators.contains c
      | _ => false
    let start := cells.dropWhile isSpace
    if count = 0 then [Cell.text (start.reverse.dropWhile isSpace).reverse]
    else
      let field := start.takeWhile (!isSeparator ·)
      let rest := (start.dropWhile (!isSeparator ·)).dropWhile isSpace
      let rest := match rest with
        | cell :: after => if isSeparator cell then after else rest
        | [] => []
      Cell.text field :: readFields separators count rest

def read : Builtin := fun arguments => do
  let raw := arguments.head? = some ['-', 'r']
  let names := pastOptions arguments
  match names.find? (!isName ·) with
  | some bad => fail "read" (shown bad ++ ": bad variable name") 2
  | none =>
    if names.isEmpty then fail "read" "arg count" 2
    else
      let (cells, ended) ← readCells raw pieceLimit
      let fields := readFields (← get).separators names.length cells
      for (name, field) in names.zip fields do assign (String.ofList name) field
      setStatus (if ended then 0 else 1)

/-- The place that a path leads to, as an absolute path. -/
def absolute (state : State) (path : String) : Option String :=
  let located := state.locate path
  match state.world.files.resolve located with
  | .ok (root :: names) =>
    if state.world.files.isDirectory located ∧ root = Local.Files.root then
      some ("/" ++ String.intercalate "/" names)
    else none
  | _ => none

def cd : Builtin := fun arguments => do
  let state ← get
  let target := match arguments.filter (· ≠ ['-', '-']) with
    | [] => (state.find? "HOME").map shown
    | path :: _ => if path = ['-'] then (state.find? "OLDPWD").map shown else some (shown path)
  setStatus 0
  match target with
  | none => return
  | some path =>
    if path = "" then return
    else if state.world.files.isDirectory (state.locate path) then
      let directory := (absolute state path).getD (state.locate path)
      modify fun state =>
        let left := state.assign "OLDPWD" ((state.find? "PWD").getD [])
        { left.assign "PWD" (ofString directory) with directory := directory }
      if arguments.head? = some ['-'] then print (directory ++ "\n")
    else fail "cd" ("can't cd to " ++ path) 2

def pwd : Builtin := fun _ => do
  setStatus 0
  write 1 (((← get).find? "PWD").getD [] ++ ['\n'])

def echo : Builtin := fun arguments => do
  setStatus 0
  match ← channel? 1 with
  | some _ => write 1 (Printed.echo arguments)
  | none => fail "echo" "echo: I/O error" 1

def printf : Builtin := fun arguments => do
  match if arguments.head? = some ['-', '-'] then arguments.drop 1 else arguments with
  | [] => fail "printf" "usage: printf format [arg ...]" 2
  | format :: values =>
    let printed := Printed.printf format values
    for text in printed.complaints do complain ("printf: " ++ text)
    write 1 printed.chars
    setStatus (if printed.broken then 2 else if printed.complaints.isEmpty then 0 else 1)

/-- What conditions see of the files: those of the system and of the working directory. -/
def view (state : State) (isProgram : String → Bool) : Condition.View where
  find path := (state.world.files.find (state.locate (shown path))).toOption
  isProgram path := isProgram (shown path)

def test (isProgram : String → Bool) (name : String) : Builtin := fun arguments => do
  let words := if name = "[" then arguments.dropLast else arguments
  if name = "[" ∧ arguments.getLast? ≠ some [']'] then fail name "missing ]" 2
  else
    match Condition.holds (view (← get) isProgram) words with
    | .ok value => setStatus (if value then 0 else 1)
    | .error text => fail name text 2

def trapText (action : Octets) : Octets :=
  '\'' :: action.flatMap (fun c => if c = '\'' then ['\'', '\\', '\'', '\''] else [c]) ++ ['\'']

/-- Sets what is to be done at signals. -/
def trap : Builtin := fun arguments => do
  setStatus 0
  let change (action : Option Octets) (signals : List Octets) : Run Unit := do
    for signal in signals do
      match Signal.number? (shown signal) with
      | none => fail "trap" (shown signal ++ ": bad trap") 2
      | some number =>
        modify fun state =>
          let others := state.traps.filter (·.1 ≠ number)
          { state with traps := match action with
            | some action => (number, action) :: others
            | none => others }
  match if arguments.head? = some ['-', '-'] then arguments.drop 1 else arguments with
  | [] =>
    for (number, action) in (← get).traps.reverse do
      write 1 (ofString "trap -- " ++ trapText action ++
        ofString (" " ++ Signal.names[number]?.getD "" ++ "\n"))
  | [signal] => change none [signal]
  | ['-'] :: signals => change none signals
  | action :: signals => change (some action) signals

def always (status : Nat) : Builtin := fun _ => setStatus status

def umask : Builtin := fun arguments => do
  setStatus 0
  if arguments.isEmpty then print "0022\n"

/-- Waits for the given background processes, or for all of them. -/
def wait : Builtin := fun arguments => do
  let state ← get
  let waitFor (job : Ending) : Run Unit :=
    match job.time with
    | some time => waitUntil time
    | none => throw .endless
  if arguments.isEmpty then
    for job in state.jobs do waitFor job
    setStatus 0
  else
    for argument in arguments do
      match Condition.number? argument with
      | none => fail "wait" ("Illegal number: " ++ shown argument) 2
      | some number =>
        match state.jobs.find? fun job => job.process = number with
        | none => setStatus 127
        | some job =>
          waitFor job
          if let some text := job.signal.bind Signal.report? then write 2 (ofString (text ++ "\n"))
          setStatus job.status

/-- Commands by name. -/
def all (isProgram : String → Bool) : List (String × Builtin) := [
  (":", always 0), ("true", always 0), ("false", always 1), ("exit", exit), ("return", return_),
  ("break", leaveLoops "break" .breaks), ("continue", leaveLoops "continue" .continues),
  ("shift", shift), ("set", fun arguments => set_ (arguments.length + 1) arguments),
  ("unset", unset), ("export", exportNames), ("readonly", readonly), ("local", local_),
  ("read", read), ("cd", cd), ("pwd", pwd), ("echo", echo), ("printf", printf),
  ("test", test isProgram "test"), ("[", test isProgram "["), ("trap", trap), ("umask", umask),
  ("wait", wait), ("alias", always 0), ("hash", always 0), ("jobs", always 0), ("times", always 0),
  ("ulimit", always 0)]

end Builtin
end Rendezvous.Shell
