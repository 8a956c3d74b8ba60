/-!
The command line's grammar.

`flowcanvas [OPTIONS] <COMMAND>` with the commands `export <SNAPSHOT> [-o <OUTPUT>]
[--repository <REPOSITORY>]`, `import-script <INPUT> [-o <OUTPUT>]`, `import-reversed <INPUT>
[-o <OUTPUT>]`, `inspect <SNAPSHOT>` and `help [COMMAND]`. The options `-v` / `--verbose`
(counted), `--log-filter <FILTER>` and `--data-dir <DATA_DIR>` may stand before or after the
command; given after it they win over the ones before. `-h` / `--help` asks for help.

A long option takes its value after `=` or as the next argument, a short one after it, after
`=`, or as the next argument; short flags may be grouped (`-vv`). A value may not look like an
option, a path (the data directory, an output, a command's file) may not be empty, and an option
that takes one value may be given once. After `--` every argument is a
positional one. A missing command or argument, an unknown option or command, and an extra
argument are usage errors.
-/

namespace PipelineEditor

/-- A command of the command line. -/
inductive Command where
  /-- Writes the execution config of a snapshot file. -/
  | export (snapshot : String) (output : Option String) (repository : Option String)
  /-- Decompiles a script file into a snapshot. -/
  | importScript (input : String) (output : Option String)
  /-- Turns a decompiled script file into a snapshot. -/
  | importDecompiled (input : String) (output : Option String)
  /-- Prints a summary of a snapshot file. -/
  | inspect (snapshot : String)
  deriving BEq, Inhabited, Repr

/-- What a command line asks for. -/
structure Invocation where
  command : Command
  verbose : Nat := 0
  logFilter : Option String := none
  dataDir : Option String := none
  deriving Inhabited, Repr

/-- Why a command line is not one. -/
inductive UsageError where
  | unknownArgument (arg : String)
  | missingValue (option : String)
  | repeated (option : String)
  | emptyPath (option : String)
  | missingCommand
  | unknownCommand (name : String)
  | missingArgument (command : String)
  | extraArgument (arg : String)
  deriving BEq, Inhabited, Repr

/-- The text of a usage error. -/
def UsageError.message : UsageError → String
  | .unknownArgument arg => "unexpected argument '" ++ arg ++ "' found"
  | .missingValue option => "a value is required for '--" ++ option ++ "' but none was supplied"
  | .repeated option => "the argument '--" ++ option ++ "' cannot be used multiple times"
  | .emptyPath option => "an empty path was given to '" ++ option ++ "'"
  | .missingCommand => "'flowcanvas' requires a subcommand but one was not provided"
  | .unknownCommand name => "unrecognized subcommand '" ++ name ++ "'"
  | .missingArgument command => "'" ++ command ++ "' requires an argument that was not provided"
  | .extraArgument arg => "unexpected argument '" ++ arg ++ "' found"

/-- The outcome of reading a command line: a run, help text, or a usage error. -/
inductive ArgsResult where
  | run (invocation : Invocation)
  | help (text : String)
  | usage (error : UsageError)
  deriving Inhabited

namespace Args

/-- The command names. -/
def commandNames : List String := ["export", "import-script", "import-reversed", "inspect"]

/-- The options of one place on the line (before or after the command). -/
structure Scope where
  verbose : Option Nat := none
  logFilter : Option String := none
  dataDir : Option String := none
  deriving Inhabited

/-- What has been read of a command line. -/
structure State where
  top : Scope := {}
  sub : Scope := {}
  command : Option String := none
  positionals : List String := []
  output : Option String := none
  repository : Option String := none
  onlyPositionals : Bool := false
  deriving Inhabited

/-- The options that take a value in the current command, by long name, with their short
letter. -/
def valueOptions (command : Option String) : List (String × Option Char) :=
  [("log-filter", none), ("data-dir", none)] ++
    (match command with
      | some "export" => [("output", some 'o'), ("repository", none)]
      | some "import-script" | some "import-reversed" => [("output", some 'o')]
      | _ => [])

/-- Whether an argument looks like an option. -/
def looksLikeOption (arg : String) : Bool := arg.startsWith "-" && arg != "-"

/-- The help text of the program or of a command. -/
def helpText (command : Option String) : String :=
  match command with
  | some "export" =>
    "Write the execution config for a saved editor snapshot\n\n" ++
    "Usage: flowcanvas export [OPTIONS] <SNAPSHOT>\n"
  | some "import-script" =>
    "Decompile a pipeline script through the backend into a snapshot\n\n" ++
    "Usage: flowcanvas import-script [OPTIONS] <INPUT>\n"
  | some "import-reversed" =>
    "Convert an already decompiled script payload into a snapshot\n\n" ++
    "Usage: flowcanvas import-reversed [OPTIONS] <INPUT>\n"
  | some "inspect" =>
    "Print the nodes and edges of a saved snapshot\n\n" ++
    "Usage: flowcanvas inspect [OPTIONS] <SNAPSHOT>\n"
  | _ =>
    "Headless pipeline graph editor\n\n" ++
    "Usage: flowcanvas [OPTIONS] <COMMAND>\n\n" ++
    "Commands:\n  export\n  import-script\n  import-reversed\n  inspect\n  help\n"

/-- The options whose value is a path. -/
def pathOptions : List String := ["data-dir", "output"]

/-- Sets an option that takes a value, in the scope it belongs to. -/
def setValue (s : State) (name value : String) : Except UsageError State :=
  if value.isEmpty && pathOptions.contains name then .error (.emptyPath name) else
  let inSub := s.command.isSome
  let scope := if inSub then s.sub else s.top
  let put := fun (scope : Scope) => if inSub then { s with sub := scope } else { s with top := scope }
  match name with
  | "log-filter" =>
    if scope.logFilter.isSome then .error (.repeated name)
    else .ok (put { scope with logFilter := some value })
  | "data-dir" =>
    if scope.dataDir.isSome then .error (.repeated name)
    else .ok (put { scope with dataDir := some value })
  | "output" =>
    if s.output.isSome then .error (.repeated name) else .ok { s with output := some value }
  | "repository" =>
    if s.repository.isSome then .error (.repeated name) else .ok { s with repository := some value }
  | _ => .error (.unknownArgument name)

/-- Counts one `-v`. -/
def addVerbose (s : State) : State :=
  if s.command.isSome then { s with sub := { s.sub with verbose := some (s.sub.verbose.getD 0 + 1) } }
  else { s with top := { s.top with verbose := some (s.top.verbose.getD 0 + 1) } }

/-- What one step of reading gives: the state and the arguments left, or help, or an error. -/
inductive Progress where
  | next (s : State) (rest : List String)
  | stop (result : ArgsResult)

/-- Reads a long option. -/
def longOption (s : State) (body : String) (rest : List String) : Progress :=
  let name := (body.splitOn "=").headD ""
  let inline := if body.contains '=' then some (body.drop (name.length + 1)).copy else none
  if name == "help" then
    if inline.isSome then .stop (.usage (.unknownArgument ("--" ++ body)))
    else .stop (.help (helpText s.command))
  else if name == "verbose" then
    if inline.isSome then .stop (.usage (.unknownArgument ("--" ++ body)))
    else .next (addVerbose s) rest
  else if (valueOptions s.command).any (·.1 == name) then
    match inline, rest with
    | some value, _ => match setValue s name value with
      | .ok s => .next s rest
      | .error e => .stop (.usage e)
    | none, value :: more =>
      if looksLikeOption value then .stop (.usage (.missingValue name))
      else match setValue s name value with
        | .ok s => .next s more
        | .error e => .stop (.usage e)
    | none, [] => .stop (.usage (.missingValue name))
  else .stop (.usage (.unknownArgument ("--" ++ body)))

/-- Reads a group of short options. -/
def shortOptions (s : State) : List Char → List String → Progress
  | [], rest => .next s rest
  | 'v' :: more, rest => shortOptions (addVerbose s) more rest
  | 'h' :: _, _ => .stop (.help (helpText s.command))
  | c :: more, rest =>
    match (valueOptions s.command).find? (·.2 == some c) with
    | some (name, _) =>
      let inline := match more with
        | '=' :: value => some (String.ofList value)
        | [] => none
        | value => some (String.ofList value)
      match inline, rest with
      | some value, _ => match setValue s name value with
        | .ok s => .next s rest
        | .error e => .stop (.usage e)
      | none, value :: after =>
        if looksLikeOption value then .stop (.usage (.missingValue name))
        else match setValue s name value with
          | .ok s => .next s after
          | .error e => .stop (.usage e)
      | none, [] => .stop (.usage (.missingValue name))
    | none => .stop (.usage (.unknownArgument ("-" ++ c.toString)))

/-- Reads a positional argument: the command name, or an argument of the command. -/
def positional (s : State) (arg : String) (rest : List String) : Progress :=
  match s.command with
  | some command =>
    if arg.isEmpty && command != "help" && s.positionals.isEmpty then
      .stop (.usage (.emptyPath command))
    else .next { s with positionals := s.positionals ++ [arg] } rest
  | none =>
    if commandNames.contains arg || arg == "help" then .next { s with command := some arg } rest
    else .stop (.usage (.unknownCommand arg))

/-- Reads one argument. -/
def step (s : State) : String → List String → Progress
  | arg, rest =>
    if s.onlyPositionals then positional s arg rest
    else if arg == "--" then
      if s.command.isSome then .next { s with onlyPositionals := true } rest
      else .stop (.usage (.unknownArgument arg))
    else if arg.startsWith "--" then longOption s (arg.drop 2).copy rest
    else if looksLikeOption arg then shortOptions s (arg.toList.drop 1) rest
    else positional s arg rest

/-- Reads the arguments one after another. -/
def readAll : Nat → State → List String → Except ArgsResult State
  | 0, s, _ => .ok s
  | _ + 1, s, [] => .ok s
  | fuel + 1, s, arg :: rest =>
    match step s arg rest with
    | .next s rest => readAll fuel s rest
    | .stop result => .error result

/-- The run a complete reading asks for. -/
def finish (s : State) : ArgsResult :=
  let base := fun (command : Command) => ArgsResult.run {
    command
    verbose := (s.sub.verbose.or s.top.verbose).getD 0
    logFilter := s.sub.logFilter.or s.top.logFilter
    dataDir := s.sub.dataDir.or s.top.dataDir }
  match s.command with
  | none => .usage .missingCommand
  | some "help" =>
    match s.positionals with
    | [] => .help (helpText none)
    | [name] => if commandNames.contains name then .help (helpText (some name))
      else .usage (.unknownCommand name)
    | _ :: extra :: _ => .usage (.extraArgument extra)
  | some name =>
    match s.positionals with
    | [] => .usage (.missingArgument name)
    | _ :: extra :: _ => .usage (.extraArgument extra)
    | [arg] =>
      match name with
      | "export" => base (.export arg s.output s.repository)
      | "import-script" => base (.importScript arg s.output)
      | "import-reversed" => base (.importDecompiled arg s.output)
      | _ => base (.inspect arg)

end Args

/-- Reads a command line (without the program's name). -/
def readArgs (args : List String) : ArgsResult :=
  match Args.readAll (args.length + 1) {} args with
  | .ok s => Args.finish s
  | .error result => result

end PipelineEditor
