import TableProfile.Number.Integer

/-!
# Options on a command line

A command takes options and nothing else. An option has a long name,
written after two dashes, and maybe a short one, a letter after one dash;
letters of options without a value can be put together. The value of an
option is attached to it, after an equals sign or directly after the
letter, or it is the next argument.

A value in the next argument is taken up only when the next option
begins, or at the end, and only then is it checked; an attached value is
checked at once. So of two faults the one that is told need not be the
one that comes first on the line.
-/

namespace TableProfile.CommandLine

/-- **Why a command line cannot be followed.** -/
inductive UsageFault where
  /-- Help was asked for. -/
  | help
  /-- There is no argument at all. -/
  | helpForNothing
  /-- An option that has to be there is missing. -/
  | missingOption
  /-- There is no such command. -/
  | unknownCommand
  /-- There is no such option, or no room for an argument. -/
  | unknownArgument
  /-- An option has no value, or an empty one that may not be empty. -/
  | missingValue
  /-- The value of an option is not of its kind. -/
  | wrongValue
  /-- An option that takes no value has one. -/
  | unwantedValue
  /-- An option that may come once comes twice. -/
  | repeatedOption
  deriving DecidableEq, Repr

/-- **What an option takes.** -/
inductive ValueKind where
  /-- Nothing. -/
  | flag
  /-- A path, which may not be empty. -/
  | path
  /-- A single character. -/
  | character
  /-- A signed number of sixty-four bits, which may begin with a dash. -/
  | integer
  /-- An unsigned number of sixty-four bits. -/
  | natural
  /-- Texts with commas between, and all those of its repetitions. -/
  | list
  deriving DecidableEq, Repr

/-- The fault of a value, if it is not of a kind. -/
def ValueKind.fault? (kind : ValueKind) (value : String) : Option UsageFault :=
  let ok := match kind with
    | .flag | .list => true
    | .path => !value.isEmpty
    | .character => value.length == 1
    | .integer => (Number.int64? value.toList).isSome
    | .natural => (Number.uint64? value.toList).isSome
  if ok then none else some (if kind = .path then .missingValue else .wrongValue)

/-- Whether a value of a kind may begin with a dash. -/
def ValueKind.mayBeginWithDash (kind : ValueKind) : Bool :=
  kind = .integer

/-- The values that an argument gives. -/
def ValueKind.split (kind : ValueKind) (value : String) : List String :=
  if kind = .list then value.splitOn "," else [value]

/-- **An option.** -/
structure OptionSpec where
  /-- The long name. -/
  name : String
  /-- The letter. -/
  letter : Option Char := none
  /-- What it takes. -/
  kind : ValueKind
  /-- Whether it has to be there. -/
  required : Bool := false
  deriving DecidableEq, Repr

/-- The values that were given, by the names of their options. -/
abbrev Given : Type := List (String × List String)

/-- An option that waits for its value, and the value, once it is there. -/
structure Waiting where
  /-- The option. -/
  option : OptionSpec
  /-- The value. -/
  value : Option String := none

/-- **The state in the course of a command line.** -/
structure Parse where
  /-- The values taken up. -/
  given : Given := []
  /-- The option whose value is not taken up yet. -/
  waiting : Option Waiting := none

/-- The values of an option. -/
def valuesOf (given : Given) (name : String) : Option (List String) :=
  given.lookup name

/-- Adds values to those of an option. -/
def addValues (name : String) (values : List String) : Given → Given
  | [] => [(name, values)]
  | (other, old) :: rest =>
    if name = other then (name, old ++ values) :: rest
    else (other, old) :: addValues name values rest

namespace Parse

/-- **Takes up an option** with its value, if it has one. -/
def take (given : Given) (option : OptionSpec) (value : Option String) :
    Except UsageFault Given :=
  let values := match value with
    | some value => option.kind.split value
    | none => []
  if option.kind ≠ .flag ∧ value.isNone then .error .missingValue
  else if option.kind ≠ .list ∧ (valuesOf given option.name).isSome then .error .repeatedOption
  else match values.findSome? option.kind.fault? with
    | some fault => .error fault
    | none => .ok (addValues option.name values given)

/-- Takes up the option that waits. -/
def settle (s : Parse) : Except UsageFault Parse :=
  match s.waiting with
  | none => .ok s
  | some w => (take s.given w.option w.value).map fun given => { given }

/-- Takes up an option with a value that is attached to it, or none. -/
def attached (s : Parse) (option : OptionSpec) (value : Option String) :
    Except UsageFault Parse := do
  let s ← s.settle
  let given ← take s.given option value
  return { given }

/-- Lets an option wait for its value. -/
def await (s : Parse) (option : OptionSpec) : Except UsageFault Parse := do
  let s ← s.settle
  return { s with waiting := some { option } }

/-- Whether the last option waits for a value. -/
def isWaiting (s : Parse) : Bool :=
  s.waiting.any (·.value.isNone)

/-- Whether the last option waits for a value that may begin with a dash. -/
def takesAnything (s : Parse) : Bool :=
  s.waiting.any fun w => w.value.isNone && w.option.kind.mayBeginWithDash

/-- Gives the option that waits its value. -/
def supply (s : Parse) (value : String) : Parse :=
  { s with waiting := s.waiting.map fun w => { w with value := some value } }

end Parse

/-- Asks for help: an option that waits is taken up before. -/
def askHelp (s : Parse) : Except UsageFault Unit := do
  let _ ← s.settle
  return ()

/-- **An argument with two dashes in front**, without them. -/
def long (options : List OptionSpec) (s : Parse) (argument : String) :
    Except UsageFault Parse :=
  let (name, value) := match argument.splitOn "=" with
    | [name] => (name, none)
    | name :: rest => (name, some ("=".intercalate rest))
    | [] => (argument, none)
  if name = "help" then
    match value with
    | some _ => .error .unwantedValue
    | none => do
      askHelp s
      .error .help
  else match options.find? (·.name == name) with
    | none => .error .unknownArgument
    | some option =>
      if option.kind = .flag then
        if value.isSome then .error .unwantedValue else s.attached option none
      else match value with
        | some value => s.attached option (some value)
        | none => s.await option

/-- **The letters after one dash.** `helped` tells whether one of them
asked for help, which counts if only letters without a value follow. -/
def short (options : List OptionSpec) (s : Parse) (helped : Bool) :
    List Char → Except UsageFault Parse
  | [] => if helped then .error .help else .ok s
  | c :: rest =>
    if c = 'h' then do
      let s ← s.settle
      short options s true rest
    else match options.find? (·.letter == some c) with
      | none => .error .unknownArgument
      | some option =>
        if option.kind = .flag then do
          let s ← s.attached option none
          short options s false rest
        else match rest with
          | [] => s.await option
          | '=' :: value => s.attached option (some (String.ofList value))
          | value => s.attached option (some (String.ofList value))

/-- What was given, once no argument is left. -/
def finished (options : List OptionSpec) (s : Parse) : Except UsageFault Given := do
  let s ← s.settle
  if options.all fun option => !option.required || (valuesOf s.given option.name).isSome then
    return s.given
  else .error .missingOption

/-- **The arguments of a command**, one after the other. -/
def arguments (options : List OptionSpec) (s : Parse) : List String → Except UsageFault Given
  | [] => finished options s
  | argument :: rest =>
    match argument.toList with
    | '-' :: '-' :: [] =>
      if s.takesAnything then arguments options (s.supply argument) rest
      else match rest with
        | [] => finished options s
        | _ :: _ => .error .unknownArgument
    | '-' :: '-' :: name =>
      if s.takesAnything then arguments options (s.supply argument) rest
      else do
        let s ← long options s (String.ofList name)
        arguments options s rest
    | '-' :: c :: letters =>
      if s.takesAnything then arguments options (s.supply argument) rest
      else do
        let s ← short options s false (c :: letters)
        arguments options s rest
    | _ =>
      if s.isWaiting then arguments options (s.supply argument) rest
      else .error .unknownArgument

end TableProfile.CommandLine
