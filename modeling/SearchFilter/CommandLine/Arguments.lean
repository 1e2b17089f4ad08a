import SearchFilter.CommandLine.Setting

/-!
Reading the words of the command line. Settings stand in front of the command, after it, or on both
sides, where the ones after it win.
-/

namespace SearchFilter.CommandLine

inductive UsageError where
  | unexpected (word : String)
  | missingValue (setting : Setting)
  | needlessValue (setting : Setting)
  | badValue (setting : Setting) (value : String)
  | repeated (setting : Setting)
  | missingCommand
  | missingState
  | emptyState
deriving DecidableEq

def UsageError.message : UsageError → String
  | unexpected word => "unexpected argument '" ++ word ++ "'"
  | missingValue setting => "--" ++ setting.name ++ " needs a value"
  | needlessValue setting => "--" ++ setting.name ++ " takes no value"
  | badValue setting value => "invalid value '" ++ value ++ "' for --" ++ setting.name
  | repeated setting => "--" ++ setting.name ++ " is given more than once"
  | missingCommand => "a command is missing"
  | missingState => "the state file is missing"
  | emptyState => "the name of the state file is empty"

inductive Halt where
  | usage (error : UsageError)
  | help
  | version
deriving DecidableEq

structure Given where
  config : Option String := none
  format : Option Format := none
  output : Option String := none
  color : Option Colors := none
  verbose : Nat := 0
  quiet : Bool := false
  compact : Bool := false
  catalog : Option String := none
  field : Option String := none
  state : Option String := none

namespace Given

def switch (given : Given) (setting : Setting) : Except Halt Given :=
  let once := fun (on : Bool) (changed : Given) =>
    if on then .error (.usage (.repeated setting)) else .ok changed
  match setting with
  | .help => .error .help
  | .version => .error .version
  | .verbose => .ok { given with verbose := given.verbose + 1 }
  | .quiet => once given.quiet { given with quiet := true }
  | .compact => once given.compact { given with compact := true }
  | other => .error (.usage (.missingValue other))

def put (given : Given) (setting : Setting) (value : String) : Except Halt Given :=
  let bad : Except Halt Given := .error (.usage (.badValue setting value))
  let once := fun (present : Bool) (changed : Given) =>
    if present then .error (.usage (.repeated setting)) else .ok changed
  let path := fun (present : Bool) (changed : Given) =>
    if value = "" then bad else once present changed
  match setting with
  | .config => path given.config.isSome { given with config := some value }
  | .output => path given.output.isSome { given with output := some value }
  | .catalog => path given.catalog.isSome { given with catalog := some value }
  | .field => once given.field.isSome { given with field := some value }
  | .format =>
    match Format.ofName? value with
    | some format => once given.format.isSome { given with format := some format }
    | none => bad
  | .color =>
    match Colors.ofName? value with
    | some color => once given.color.isSome { given with color := some color }
    | none => bad
  | other => .error (.usage (.needlessValue other))

def place (given : Given) (verb : Option Verb) (word : String) : Except Halt Given :=
  if verb = none ∨ verb = some .fields ∨ given.state.isSome then
    .error (.usage (.unexpected word))
  else if word = "" then .error (.usage .emptyState)
  else .ok { given with state := some word }

/-- Letters behind one hyphen. A setting with a value ends them: its value is the rest of the word,
or else the next word. -/
def letters (given : Given) (verb : Option Verb) :
    List Char → Except Halt (Given × Option Setting)
  | [] => .ok (given, none)
  | letter :: rest =>
    match Setting.ofLetter? verb letter with
    | none => .error (.usage (.unexpected (String.ofList ['-', letter])))
    | some setting =>
      if setting.takesValue then
        match rest with
        | [] => .ok (given, some setting)
        | '=' :: value => (given.put setting (String.ofList value)).map fun given => (given, none)
        | value => (given.put setting (String.ofList value)).map fun given => (given, none)
      else (given.switch setting).bind fun given => letters given verb rest

def long (given : Given) (verb : Option Verb) (body : List Char) :
    Except Halt (Given × Option Setting) :=
  let name := String.ofList (body.takeWhile (· != '='))
  match Setting.ofName? verb name with
  | none => .error (.usage (.unexpected ("--" ++ name)))
  | some setting =>
    match body.dropWhile (· != '='), setting.takesValue with
    | _ :: value, true =>
      (given.put setting (String.ofList value)).map fun given => (given, none)
    | _ :: _, false => .error (.usage (.needlessValue setting))
    | [], true => .ok (given, some setting)
    | [], false => (given.switch setting).map fun given => (given, none)

end Given

def isHyphened (word : String) : Bool :=
  match word.toList with
  | '-' :: _ :: _ => true
  | _ => false

/-- The words of one side, up to the command when it has not been read yet. After two hyphens all
words are plain ones. -/
def read (verb : Option Verb) :
    Given → List String → Except Halt (Given × Option (String × List String))
  | given, [] => .ok (given, none)
  | given, word :: rest =>
    let step : Option (Except Halt (Given × Option Setting)) := match word.toList with
      | ['-', '-'] => none
      | '-' :: '-' :: body => some (given.long verb body)
      | '-' :: first :: body => some (given.letters verb (first :: body))
      | _ => none
    match step with
    | some (.error halt) => .error halt
    | some (.ok (given, none)) => read verb given rest
    | some (.ok (given, some setting)) =>
      match rest with
      | [] => .error (.usage (.missingValue setting))
      | value :: rest =>
        if isHyphened value then .error (.usage (.missingValue setting))
        else
          match given.put setting value with
          | .error halt => .error halt
          | .ok given => read verb given rest
    | none =>
      if word = "--" then
        (rest.foldlM (fun (held : Given) word => held.place verb word) given).map fun given => (given, none)
      else if verb = none then .ok (given, some (word, rest))
      else
        match given.place verb word with
        | .error halt => .error halt
        | .ok given => read verb given rest

inductive Task where
  | compile (state : String) (compact : Bool)
  | preview (state : String)
  | explain (state : String)
  | fields (catalog : Option String) (field : Option String)
deriving DecidableEq

structure Invocation where
  config : Option String
  format : Format
  output : Option String
  color : Colors
  verbose : Nat
  quiet : Bool
  task : Task
deriving DecidableEq

def taskOf (verb : Verb) (given : Given) : Except Halt Task :=
  match verb, given.state with
  | .fields, _ => .ok (.fields given.catalog given.field)
  | .compile, some state => .ok (.compile state given.compact)
  | .preview, some state => .ok (.preview state)
  | .explain, some state => .ok (.explain state)
  | _, none => .error (.usage .missingState)

/-- The settings of both sides, and the one that the environment may hold. A side without a path of
its own takes the one of the environment, which then may not be empty. -/
def combine (environment : Option String) (before after : Given) (task : Task) :
    Except Halt Invocation :=
  if environment = some "" ∧ (before.config = none ∨ after.config = none) then
    .error (.usage (.badValue .config ""))
  else .ok {
    config := (after.config.or before.config).or environment
    format := (after.format.or before.format).getD .text
    output := after.output.or before.output
    color := (after.color.or before.color).getD .auto
    verbose := if after.verbose = 0 then before.verbose else after.verbose
    quiet := after.quiet || before.quiet
    task := task
  }

def helpOn : List String → Halt
  | [] => .help
  | [word] => if (Verb.ofName? word).isSome || word = "help" then .help else .usage (.unexpected word)
  | _ :: word :: _ => .usage (.unexpected word)

def parse (environment : Option String) (words : List String) : Except Halt Invocation :=
  match read none {} words with
  | .error halt => .error halt
  | .ok (_, none) => .error (.usage .missingCommand)
  | .ok (before, some (word, rest)) =>
    match Verb.ofName? word with
    | none => .error (if word = "help" then helpOn rest else .usage (.unexpected word))
    | some verb =>
      match read (some verb) {} rest with
      | .error halt => .error halt
      | .ok (after, _) =>
        match taskOf verb after with
        | .error halt => .error halt
        | .ok task => combine environment before after task

end SearchFilter.CommandLine
