import Rendezvous.Shell.Builtin

/-! How commands run. One step is given a way to run the commands inside; the whole is the
step applied to itself as often as the fuel allows. -/
namespace Rendezvous.Shell

/-! Signals -/

/-- Does what a signal does to the process: the action that is set, or the end. -/
def receive (runText : Octets → Run Unit) (signal : Nat) : Run Unit := do
  match (← get).traps.lookup signal with
  | some action =>
    if signal = Signal.killing then throw (.killed signal)
    let status := (← get).status
    runText action
    setStatus status
  | none =>
    match Signal.effect signal with
    | .ends => throw (.killed signal)
    | .ignored => return
    | .stops => throw .endless

/-- Does what a signal does that has arrived in the meantime. An end dates back to its
arrival. -/
def receivePending (runText : Octets → Run Unit) : Run Unit := do
  match (← get).pending? with
  | none => return
  | some (signal, time) =>
    modify (State.dropSignal (signal, time))
    if ((← get).traps.lookup signal).isNone ∧ Signal.effect signal = .ends then
      modify fun state => { state with clock := time }
    receive runText signal

/-- Goes on after a process has ended: with its status, and with what a shell has to say about
its end. -/
def settle (runText : Octets → Run Unit) (ending : Ending) : Run Unit := do
  match ending.time with
  | none => throw .endless
  | some time => waitUntil time
  setStatus ending.status
  receivePending runText
  if let some text := ending.signal.bind Signal.report? then write 2 (ofString (text ++ "\n"))

/-! Scripts and processes -/

/-- Reads and runs a script line by line. Complaints about its grammar name the command that
runs it. -/
def runLines (run : Command → Run Unit) (total : Nat) (who : String) : (fuel : Nat) → Octets →
    Run Unit
  | 0, _ => return
  | fuel + 1, text => do
    if text.isEmpty then return
    match Reader.line total text with
    | .error refusal =>
      if who = "" then modify fun state => { state with line := total + 1 - refusal.linesLeft }
      complain (who ++ "Syntax error: " ++ refusal.fault.message)
      leave 2
    | .ok (command, rest) =>
      run command
      runLines run total who fuel rest

def runScript (run : Command → Run Unit) (who : String) (text : Octets) : Run Unit :=
  runLines run (linesLeft text) who (text.length + 1) text

/-- Runs a body and then what is set for the end of the shell, which keeps the status unless
it ends the shell itself. -/
def withExitTrap (run : Command → Run Unit) (body : Run Unit) : Run Unit := do
  let ended : Option Leave ← tryCatch (do body; return none) (fun how => return some how)
  match ended with
  | some (.killed signal) => throw (.killed signal)
  | some .endless => throw .endless
  | _ =>
    let state ← get
    match state.traps.lookup Signal.exitNumber with
    | none => return
    | some action =>
      set { state with traps := state.traps.filter (·.1 ≠ Signal.exitNumber) }
      runScript run "" action
      setStatus state.status

/-- A process that goes on with what the shell knows. It ignores the signals that the shell
ignores, and nothing else is arranged for. -/
def State.asPart (state : State) : State :=
  { state with traps := state.traps.filter (·.2.isEmpty), loops := 0 }

/-- A part of the shell that runs as a process of its own. -/
def subshell (run : Command → Run Unit) (alter : State → State) (body : Run Unit) : Run Ending :=
  child (fun state => alter state.asPart) (withExitTrap run body)

/-- Runs a command as such a part, in the process that is there for it. -/
def part (run : Command → Run Unit) (command : Command) : Run Unit := do
  modify State.asPart
  withExitTrap run (run command)

/-- A fresh shell inside a process: it knows only what was exported. -/
def freshShell (name : String) (parameters : List Octets) (state : State) : State :=
  let inherited := state.values.filter fun entry => state.exported.contains entry.1
  { state with
    name := name, leader := state.process, line := 1, status := 0, outputStatus := none
    parameters := parameters, functions := [], locals := none, fixed := [], lastJob := none
    values := ("PPID", decimal state.parent) :: inherited.filter (·.1 ≠ "PPID")
    traps := state.traps.filter (·.2.isEmpty), stopsOnFailure := false, needsValues := false
    traces := false, tested := false, loops := 0 }

/-- Complains as a shell does before its first line. -/
def complainEarly (name text : String) : Run Unit := do
  write 2 (ofString (name ++ ": 0: " ++ text ++ "\n"))
  leave 2

/-- A shell as a program: options, then a script in the arguments, in a file or to be read. -/
def shellProgram (run : Command → Run Unit) (name : String) : (fuel : Nat) →
    (given : Bool) → List Octets → Run Unit
  | 0, _, _ => return
  | fuel + 1, given, arguments => do
    match arguments with
    | ('-' :: letter :: letters) :: rest =>
      if letter :: letters = ['-'] then shellProgram run name fuel given rest
      else
        let all := letter :: letters
        for letter in all.filter fun c => c ≠ 'c' ∧ c ≠ 's' do
          match Builtin.option? letter true with
          | some switch => modify switch
          | none => complainEarly name ("Illegal option -" ++ String.singleton letter)
        if all.contains 's' then
          setParameters' rest
          withExitTrap run (do runScript run "" (← readText))
        else shellProgram run name fuel (given || all.contains 'c') rest
    | operand :: rest =>
      if given then
        let name := (rest.head?.map shown).getD name
        modify fun state => { state with name := name, parameters := rest.drop 1 }
        withExitTrap run (runScript run "" operand)
      else
        match ← contentOf operand with
        | .ok text =>
          modify fun state => { state with name := shown operand, parameters := rest }
          withExitTrap run (runScript run "" text)
        | .error _ => complainEarly name ("cannot open " ++ shown operand ++ ": No such file")
    | [] =>
      if given then complainEarly name "-c requires an argument"
      else withExitTrap run (do runScript run "" (← readText))
where
  setParameters' (parameters : List Octets) : Run Unit :=
    modify fun state => { state with parameters := parameters }

/-! Programs -/

/-- Directories of the system that hold programs. -/
def programDirectories : List String := ["/bin", "/usr/bin", "/usr/local/bin"]

def shellNames : List String := ["sh", "dash", "bash"]

/-- Programs that start other programs. -/
def startingNames : List String := ["env", "nohup", "setsid"]

/-- Commands of the shell that are programs as well. -/
def doubledNames : List String := ["true", "false", "printf", "test", "[", "echo", "pwd", "kill"]

def isSystemProgram (name : String) : Bool :=
  (Program.all.lookup name).isSome || shellNames.contains name || startingNames.contains name ||
    doubledNames.contains name

/-- The name of a system program that a path leads to. -/
def systemProgram? (path : String) : Option String :=
  programDirectories.findSome? fun directory =>
    if (directory ++ "/").toList.isPrefixOf path.toList then
      let name := String.ofList (path.toList.drop (directory.length + 1))
      if isSystemProgram name then some name else none
    else none

/-- The name of the system program at the place that a path leads to. -/
def programAt? (state : State) (path : String) : Option String :=
  match state.world.files.resolve path with
  | .ok place =>
    if place.head? = some Local.Files.root then
      systemProgram? ("/" ++ String.intercalate "/" (place.drop 1))
    else none
  | .error _ => none

/-- What a name of a program turns out to be. -/
inductive Found where
  | system (name : String)
  | script (path : String) (text : Octets)

/-- Whether a path leads to one of the programs that came with the files. -/
def isOwnProgram (state : State) (path : String) : Bool :=
  match state.world.ownPrograms, state.world.files.resolve (state.locate path) with
  | some directory, .ok place => place.dropLast = [directory]
  | _, _ => false

/-- Looks a program up: by its path, or among the programs that came with the files and those
of the system. -/
def findProgram (state : State) (name : String) : Except Local.PathFault Found :=
  if name.toList.contains '/' then
    match systemProgram? name with
    | some system => .ok (.system system)
    | none =>
      match state.world.files.find (state.locate name) with
      | .ok (.file content) =>
        match programAt? state (state.locate name) with
        | some system => .ok (.system system)
        | none =>
          if isOwnProgram state name then .ok (.script name (ofBytes content)) else .error .denied
      | .ok .directory => .error .denied
      | .error fault => .error fault
  else if name = "." ∨ name = ".." then .error .denied
  else
    let own := state.world.ownPrograms.bind fun directory =>
      let path := directory ++ "/" ++ name
      ((state.world.files.find path).toOption).map fun entry => (path, entry)
    match own with
    | some (path, .file content) => .ok (.script path (ofBytes content))
    | some (_, .directory) =>
      if isSystemProgram name then .ok (.system name) else .error .denied
    | none => if isSystemProgram name then .ok (.system name) else .error .notFound

/-- The status of a command whose program cannot be run, and what the shell says. -/
def refusalOf (name : String) (fault : Local.PathFault) : Nat × String :=
  if name = "" then (127, ": Permission denied")
  else if fault = .notFound ∨ fault = .notDirectory then (127, name ++ ": not found")
  else (126, name ++ ": " ++ refusalText fault)

/-- The program that the first line of a script asks for, and its argument. -/
def interpreter? (text : Octets) : Option (String × List Octets) :=
  match text with
  | '#' :: '!' :: rest =>
    let line := (rest.takeWhile (· ≠ '\n')).dropWhile isBlank
    let path := line.takeWhile (!isBlank ·)
    let argument := (((line.drop path.length).dropWhile isBlank).reverse.dropWhile isBlank).reverse
    some (shown path, if argument.isEmpty then [] else [argument])
  | _ => none

/-- Runs a program inside a process that is there for it. The fuel bounds how often one program
starts the next. -/
def runProgram (run : Command → Run Unit) : (fuel : Nat) → Found → String → List Octets → Run Unit
  | 0, _, _, _ => throw .endless
  | fuel + 1, found, name, arguments => do
    let start (who : String) (words : List Octets) : Run Unit := do
      match words with
      | [] => return
      | word :: rest =>
        match findProgram (← get) (shown word) with
        | .error fault =>
          let lead := if who = "env" then "'" else "failed to run command '"
          let quoted := lead ++ shown word ++ "'"
          write 2 (ofString (who ++ ": " ++ quoted ++ ": " ++ refusalText fault ++ "\n"))
          setStatus (if fault = .notFound then 127 else 126)
        | .ok found => runProgram run fuel found (shown word) rest
    match found with
    | .script path text =>
      match interpreter? text with
      | none =>
        modify (freshShell path arguments)
        withExitTrap run (runScript run "" text)
      | some (interpreter, argument) =>
        match findProgram (← get) interpreter with
        | .ok found =>
          runProgram run fuel found interpreter (argument ++ ofString path :: arguments)
        | .error _ =>
          complain (name ++ ": not found")
          setStatus 127
    | .system system =>
      setStatus 0
      if shellNames.contains system then
        modify (freshShell name [])
        shellProgram run name (arguments.length + 1) false arguments
      else if system = "env" then
        let cleared := arguments.contains ['-', 'i']
        let words := arguments.filter (· ≠ ['-', 'i'])
        let isSetting (word : Octets) : Bool := word.contains '='
        if cleared then modify fun state => { state with values := [], exported := [] }
        for word in words.takeWhile isSetting do
          let variableName := word.takeWhile (· ≠ '=')
          let name := shown variableName
          modify fun state => { state.assign name (word.drop (variableName.length + 1)) with
            exported := name :: state.exported }
        let rest := words.dropWhile isSetting
        if rest.isEmpty then
          for (name, value) in (← get).values do
            if (← get).exported.contains name then
              write 1 (ofString name ++ '=' :: value ++ ['\n'])
        else start "env" rest
      else if startingNames.contains system then start system arguments
      else if system = "echo" then
        let quiet := arguments.head? = some ['-', 'n']
        let words := if quiet then arguments.drop 1 else arguments
        write 1 ((words.intersperse [' ']).flatten ++ if quiet then [] else ['\n'])
      else
        match Program.all.lookup system with
        | some program => program arguments
        | none =>
          match (Builtin.all (fun _ => false)).lookup system with
          | some builtin => builtin arguments
          | none => return

/-- How often one program may start the next. -/
def programLimit : Nat := 40

/-! Redirections -/

/-- Input that is there from the beginning. -/
def inputOf (content : Octets) : Run Channel := do
  let number ← freshNumber
  setInput number ⟨if content.isEmpty then [] else [(0, content)], 0⟩
  return .reading (.numbered number)

/-- A device by its path: what it is for reading and for writing. -/
def device? (state : State) (path : String) : Option (Channel × Channel) :=
  let same (descriptor : Nat) : Option (Channel × Channel) :=
    (state.descriptors.lookup descriptor).map fun channel => (channel, channel)
  match path with
  | "/dev/null" => some (.reading .empty, .writing .nowhere)
  | "/dev/zero" => some (.reading .zeros, .writing .nowhere)
  | "/dev/stdin" => same 0
  | "/dev/stdout" => same 1
  | "/dev/stderr" => same 2
  | _ => none

/-- What a shell says when a file cannot be opened. -/
def openText (reading : Bool) (path : String) (fault : Local.PathFault) : String :=
  let reason := match fault with
    | .notFound => if reading then "No such file" else "Directory nonexistent"
    | fault => refusalText fault
  (if reading then "cannot open " else "cannot create ") ++ path ++ ": " ++ reason

/-- Opens a file for a redirection. -/
def openFile (opening : Opening) (path : Octets) : Run (Except String Channel) := do
  let state ← get
  let name := shown path
  let forReading := opening = .reading
  match device? state name with
  | some (reading, writing) => return .ok (if forReading then reading else writing)
  | none =>
    if forReading then
      match ← contentOf path with
      | .ok content => return .ok (← inputOf content)
      | .error .isDirectory => return .ok (.reading .empty)
      | .error fault => return .error (openText true name fault)
    else
      let change := if opening = .writing then Local.Files.openForWriting
        else Local.Files.openForAppending
      match ← changeFiles path change with
      | .ok () => return .ok (.writing (.file (state.locate name)))
      | .error fault => return .error (openText false name fault)

/-- Makes redirections one after the other, and tells whether all could be made. -/
def redirect (run : Command → Run Unit) : List Redirection → Run Bool
  | [] => return true
  | redirection :: rest => do
    let problem : Option String ← match redirection with
      | .file descriptor opening path =>
        match ← openFile opening (← textOf (part run) path) with
        | .ok channel => setDescriptor descriptor (some channel); pure none
        | .error text => pure (some text)
      | .duplicate descriptor source =>
        let source ← textOf (part run) source
        if source = ['-'] then setDescriptor descriptor none; pure none
        else if source.length ≠ 1 ∨ source.any (!Char.isDigit ·) then
          complain "Syntax error: Bad fd number"
          leave 2
        else
          match ← channel? (Sum.inBase 10 source) with
          | some channel => setDescriptor descriptor (some channel); pure none
          | none => pure (some (shown source ++ ": Bad file descriptor"))
      | .document descriptor content =>
        setDescriptor descriptor (some (← inputOf (← textOf (part run) content)))
        pure none
    match problem with
    | none => redirect run rest
    | some text =>
      complain text
      setStatus 2
      return false

/-- Runs a body, and after that something in any case. -/
def thenAlways (body : Run Unit) (after : Run Unit) : Run Unit := do
  tryCatch body fun how => do
    after
    throw how
  after

/-- Runs a body with redirections that hold only for it. -/
def withRedirections (run : Command → Run Unit) (redirections : List Redirection)
    (body : Run Unit) : Run Unit := do
  let descriptors := (← get).descriptors
  let restore : Run Unit := modify fun state => { state with descriptors := descriptors }
  thenAlways (do if ← redirect run redirections then body) restore

/-! Commands -/

/-- Ends the shell after a failure, if failures end it. -/
def stopOnFailure : Run Unit := do
  let state ← get
  if state.stopsOnFailure ∧ ¬state.tested ∧ state.status ≠ 0 then throw .exits

/-- Runs a body whose failure is only looked at. -/
def testing (body : Run Unit) : Run Unit := do
  let tested := (← get).tested
  modify fun state => { state with tested := true }
  thenAlways body (modify fun state => { state with tested := tested })

/-- Calls a function with its own parameters and variables. -/
def callFunction (run : Command → Run Unit) (body : Command) (arguments : List Octets) :
    Run Unit := do
  let before ← get
  set { before with parameters := arguments, locals := some [], loops := 0 }
  let body : Run Unit := tryCatch (run body) fun
    | .returns => return
    | how => throw how
  thenAlways body (modify fun state =>
    let restored := (state.locals.getD []).foldl (fun state entry => match entry with
      | (name, some value) => state.assign name value
      | (name, none) => state.unset name) state
    { restored with
      parameters := before.parameters, locals := before.locals, loops := before.loops })

/-- Sends a signal. -/
def send (runText : Octets → Run Unit) (signal process : Nat) : Run Unit := do
  let state ← get
  if process = state.process then
    unless signal = 0 do receive runText signal
  else
    match state.jobs.find? fun job => job.process = process with
    | some job =>
      let alive := match job.time with
        | some time => decide (state.clock < time)
        | none => true
      if alive && signal ≠ 0 && Signal.effect signal = .ends then
        let ended : Ending := ⟨process, signalStatus signal, some state.clock, some signal⟩
        let change (job : Ending) : Ending := if job.process = process then ended else job
        set { state with
          jobs := state.jobs.map change
          world := { state.world with writes := state.world.writes.filter fun write =>
            ¬(write.process = process ∧ state.clock < write.time) } }
    | none =>
      if process = state.leader ∨ process = state.parent then
        unless signal = 0 do
          set { state with world := { state.world with
            signals := (process, signal, state.clock) :: state.world.signals } }
      else
        complain "kill: No such process\n"
        setStatus 1

def kill (runText : Octets → Run Unit) (arguments : List Octets) : Run Unit := do
  setStatus 0
  let usage : Run Unit := do
    complain ("kill: Usage: kill [-s sigspec | -signum | -sigspec] [pid | job]... or\n" ++
      "kill -l [exitstatus]")
    setStatus 2
  let toAll (signal : Nat) (processes : List Octets) : Run Unit := do
    if processes.isEmpty then usage
    for process in processes do
      match Condition.number? process with
      | some number => send runText signal number.toNat
      | none => Builtin.fail "kill" ("Illegal number: " ++ shown process) 2
  match arguments with
  | ['-', 'l'] :: number :: _ =>
    print (Signal.names[Sum.inBase 10 (number.filter Char.isDigit) % 128]?.getD "" ++ "\n")
  | ['-', 's'] :: name :: processes =>
    match Signal.number? (shown name) with
    | some signal => toAll signal processes
    | none => Builtin.fail "kill" ("invalid signal number or name: " ++ shown name) 2
  | ['-', '-'] :: processes => toAll Signal.termination processes
  | ('-' :: name) :: processes =>
    match Signal.number? (shown name) with
    | some signal => toAll signal processes
    | none => Builtin.fail "kill" ("Illegal option -" ++ shown (name.take 1)) 2
  | processes => toAll Signal.termination processes

/-- Describes what a command is, in short or in a sentence. -/
def describe (sentence : Bool) (name : String) : Run Unit := do
  let state ← get
  let show' (short text : String) : Run Unit :=
    print ((if sentence then name ++ text else short) ++ "\n")
  setStatus 0
  if keywords.contains name then show' name " is a shell keyword"
  else if (state.functions.lookup name).isSome then show' name " is a shell function"
  else if Builtin.special.contains name ∧ name ≠ "local" then
    show' name " is a special shell builtin"
  else if ((Builtin.all fun _ => false).lookup name).isSome ∨
      ["kill", "command", "type"].contains name then
    show' name " is a shell builtin"
  else
    match findProgram state name with
    | .ok (.system system) =>
      let path := if name.toList.contains '/' then name else "/usr/bin/" ++ system
      show' path (" is " ++ path)
    | .ok (.script path _) => show' path (" is " ++ path)
    | .error _ =>
      if sentence then print (name ++ ": not found\n")
      setStatus 127

/-- Runs a program in a process of its own. -/
def startProgram (run : Command → Run Unit) (assignments : List (String × Octets)) (name : String)
    (arguments : List Octets) : Run Unit := do
  match findProgram (← get) name with
  | .error fault =>
    let (status, text) := refusalOf name fault
    complain text
    setStatus (if name.toList.contains '/' then status else 127)
  | .ok found =>
    let setAll (state : State) : State :=
      assignments.foldl (fun state entry =>
        { state.assign entry.1 entry.2 with exported := entry.1 :: state.exported }) state
    let enter (state : State) : State := setAll { state with
      traps := state.traps.filter (·.2.isEmpty), clock := state.clock + startTime }
    settle (runScript run "")
      (← child enter (runProgram run programLimit found name arguments))

/-- Runs the script in a file as a part of this one. -/
def runFile (run : Command → Run Unit) (arguments : List Octets) : Run Unit := do
  setStatus 0
  match arguments with
  | [] => return
  | path :: _ =>
    match ← contentOf path with
    | .ok text =>
      tryCatch (runScript run "" text) fun
        | .returns => return
        | how => throw how
    | .error _ => Builtin.fail "." ("cannot open " ++ shown path ++ ": No such file") 2

/-- Puts a program in the place of the shell. -/
def replaceShell (run : Command → Run Unit) (exported : List String) (arguments : List Octets) :
    Run Unit := do
  setStatus 0
  match arguments with
  | [] => return
  | word :: rest =>
    match findProgram (← get) (shown word) with
    | .error fault =>
      let (status, text) := refusalOf (shown word) fault
      complain ("exec: " ++ text)
      leave status
    | .ok found =>
      modify fun state => { state with
        traps := state.traps.filter (·.2.isEmpty), exported := exported ++ state.exported }
      runProgram run programLimit found (shown word) rest
      throw .exits

/-- Variables that are set for one command only. -/
def withAssignments (assignments : List (String × Octets)) (body : Run Unit) : Run Unit := do
  let state ← get
  for (name, value) in assignments do assign name value
  thenAlways body (modify fun after => assignments.foldl (fun after entry =>
    match state.find? entry.1 with
    | some value => after.assign entry.1 value
    | none => after.unset entry.1) after)

/-- The commands of a shell that do not run others, by name. -/
def plainBuiltin? (state : State) (name : String) : Option Builtin :=
  (Builtin.all fun path => (systemProgram? path).isSome || isOwnProgram state path).lookup name

/-- Runs a command by its name, functions left out if only programs and the shell's own
commands are looked for. -/
def callCommand (run : Command → Run Unit) (assignments : List (String × Octets)) :
    (fuel : Nat) → (withFunctions : Bool) → List Octets → Run Unit
  | 0, _, _ => return
  | _, _, [] => return
  | fuel + 1, withFunctions, word :: arguments => do
    let name := shown word
    let state ← get
    let function? := if withFunctions then state.functions.lookup name else none
    if Builtin.special.contains name then for (name, value) in assignments do assign name value
    match function?, name with
    | some body, _ => withAssignments assignments (callFunction run body arguments)
    | none, "eval" =>
      setStatus 0
      runScript run "eval: " ((arguments.intersperse [' ']).flatten)
    | none, "." => runFile run arguments
    | none, "exec" => replaceShell run (assignments.map (·.1)) arguments
    | none, "kill" => kill (runScript run "") arguments
    | none, "type" => for name in arguments do describe true (shown name)
    | none, "command" =>
      setStatus 0
      match arguments with
      | ['-', 'v'] :: names => for name in names do describe false (shown name)
      | ['-', 'V'] :: names => for name in names do describe true (shown name)
      | ['-', 'p'] :: rest => callCommand run assignments fuel false rest
      | rest => callCommand run assignments fuel false rest
    | none, name =>
      match plainBuiltin? state name with
      | none => startProgram run assignments name arguments
      | some builtin =>
        if Builtin.special.contains name then builtin arguments
        else withAssignments assignments (builtin arguments)

/-- How many rounds of a loop are run before it is taken to go on for ever. -/
def roundLimit : Nat := 100000

/-- How many commands are run in all before a script is taken to go on for ever. -/
def totalLimit : Nat := 50000

/-- Counts a command. -/
def count : Run Unit := do
  let state ← get
  if totalLimit ≤ state.world.commands then throw .endless
  set { state with world := { state.world with commands := state.world.commands + 1 } }

/-- Runs a simple command: its words are expanded, its redirections and assignments made, and
what the first word names is run. Without words, redirections are made and undone. -/
def simple (run : Command → Run Unit) (line : Nat) (assignments : List (String × Word))
    (words : List Word) (redirections : List Redirection) : Run Unit := do
  count
  modify fun state => { state with line := line, outputStatus := none }
  let fields := (← words.mapM (fieldsOf (part run))).flatten
  let traced (values : List (String × Octets)) : Run Unit := do
    if (← get).traces then
      let shownValues := values.map fun entry => ofString (entry.1 ++ "=") ++ entry.2
      write 2 (['+', ' '] ++ ((shownValues ++ fields).intersperse [' ']).flatten ++ ['\n'])
  let assigned : Run (List (String × Octets)) := assignments.mapM fun (name, value) =>
    return (name, ← textOf (part run) value)
  if fields.isEmpty then
    let descriptors := (← get).descriptors
    if ← redirect run redirections then
      modify fun state => { state with descriptors := descriptors }
      let mut values := []
      for (name, value) in assignments do
        let value ← textOf (part run) value
        assign name value
        values := values ++ [(name, value)]
      unless values.isEmpty do traced values
      setStatus ((← get).outputStatus.getD 0)
    else modify fun state => { state with descriptors := descriptors }
  else
    let isExec := fields.head? = some (ofString "exec")
    let body : Run Unit := do
      let values ← assigned
      traced values
      callCommand run values (fields.length + 1) true fields
    if isExec then
      if ← redirect run redirections then body else throw .exits
    else if redirections.isEmpty then body
    else
      let descriptors := (← get).descriptors
      let restore : Run Unit := modify fun state => { state with descriptors := descriptors }
      let isSpecial := fields.head?.any fun word => Builtin.special.contains (shown word)
      thenAlways (do
        if ← redirect run redirections then body
        else if isSpecial then throw .exits) restore
  receivePending (runScript run "")
  stopOnFailure

/-- Runs a body inside a loop, and tells whether the loop goes on. -/
def inLoop (body : Run Unit) : Run Bool :=
  tryCatch (do body; return true) fun
    | .breaks levels => if levels ≤ 1 then return false else throw (.breaks (levels - 1))
    | .continues levels => if levels ≤ 1 then return true else throw (.continues (levels - 1))
    | how => throw how

/-- Runs a loop as one that commands can leave. -/
def asLoop (body : Run Unit) : Run Unit := do
  modify fun state => { state with loops := state.loops + 1 }
  thenAlways body (modify fun state => { state with loops := state.loops - 1 })

/-- Runs the rounds of a loop, which ends with the status of the round before. -/
def rounds (run : Command → Run Unit) (stopOn : Bool) (condition body : Command) :
    (fuel : Nat) → (last : Nat) → Run Unit
  | 0, _ => throw .endless
  | fuel + 1, last => do
    if ← inLoop (testing (run condition)) then
      if ((← get).status = 0) = stopOn then setStatus last
      else if ← inLoop (run body) then rounds run stopOn condition body fuel (← get).status
      else return

/-- Runs the stages of a pipeline from the left: what one writes is what the next one reads. -/
def stages (run : Command → Run Unit) (source : Option Channel) (ends : List Ending) :
    List Command → Run (List Ending)
  | [] => return ends
  | stage :: rest => do
    let pipe ← freshNumber
    let ending ← subshell run id do
      if let some channel := source then setDescriptor 0 (some channel)
      unless rest.isEmpty do setDescriptor 1 (some (.writing (.pipe pipe)))
      run stage
    match ending.time with
    | none => throw .endless
    | some time =>
      let written ← takePipe pipe
      setInput pipe ⟨written, time⟩
      stages run (some (.reading (.numbered pipe))) (ending :: ends) rest

/-- The commands of the first arm that has a fitting pattern. -/
def chooseArm (run : Command → Run Unit) (subject : Octets) :
    List (List Word × Command) → Run Unit
  | [] => return
  | (patterns, body) :: rest => do
    let fitting ← patterns.anyM fun pattern =>
      return Wildcard.fits (← patternOf (part run) pattern) subject
    if fitting then run body else chooseArm run subject rest

/-- Runs one command, given a way to run the commands inside it. -/
def step (run : Command → Run Unit) : Command → Run Unit
  | .nothing => return
  | .simple line assignments words redirections => simple run line assignments words redirections
  | .redirected body line redirections => do
    modify fun state => { state with line := line }
    withRedirections run redirections (run body)
  | .pipeline commands => do
    let start := (← get).clock
    let ends ← stages run none [] commands
    modify fun state => { state with clock := start }
    for ending in ends do if let some time := ending.time then waitUntil time
    if let some last := ends.head? then settle (runScript run "") last
    stopOnFailure
  | .negated body => do
    testing (run body)
    setStatus (if (← get).status = 0 then 1 else 0)
  | .both first second => do
    testing (run first)
    if (← get).status = 0 then run second
  | .either first second => do
    testing (run first)
    if (← get).status ≠ 0 then run second
  | .inOrder first second => do
    run first
    run second
  | .background body => do
    let ending ← subshell run
      (fun state => { state with tested := true, clock := state.clock + startTime }) do
        setDescriptor 0 (some (.reading .empty))
        run body
    modify fun state => { state with
      lastJob := some ending.process, jobs := state.jobs ++ [ending], status := 0 }
  | .subshell body => do
    settle (runScript run "") (← subshell run id (run body))
    stopOnFailure
  | .choice condition yes no => do
    testing (run condition)
    let holds := (← get).status = 0
    setStatus 0
    if holds then run yes else run no
  | .loop stopOn condition body => asLoop (rounds run stopOn condition body roundLimit 0)
  | .each name words body => do
    let values := (← words.mapM (fieldsOf (part run))).flatten
    setStatus 0
    asLoop (eachValue name body values)
  | .select subject arms => do
    let subject ← textOf (part run) subject
    setStatus 0
    chooseArm run subject arms
  | .define name body => do
    modify fun state => { state with
      functions := (name, body) :: state.functions.filter (·.1 ≠ name), status := 0 }
where
  eachValue (name : String) (body : Command) : List Octets → Run Unit
    | [] => return
    | value :: rest => do
      assign name value
      if ← inLoop (run body) then eachValue name body rest

/-- Runs a command. Commands that nest deeper than the fuel reaches never end. -/
def execute : (fuel : Nat) → Command → Run Unit
  | 0, _ => throw .endless
  | fuel + 1, command => step (execute fuel) command

/-- How deep commands may nest. -/
def commandLimit : Nat := 1000

end Rendezvous.Shell
