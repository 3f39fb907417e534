import SchemaScaffold.Settings.Basic

/-!
# Command-line arguments

* `Invocation`: what a run is asked to do.
* `UsageFault`: why arguments ask for nothing that can be done, help and version included.
* `Invocation.ofArguments`: reads arguments from the left. An option takes its value from the same
  argument or from the next one; a value is looked at only when the next option, operand or the end
  is reached, so that an unknown argument is reported before a bad value in front of it.
-/

namespace SchemaScaffold

/-- Why arguments ask for nothing that can be done. -/
inductive UsageFault where
  | help
  | version
  | nothingAsked
  | missingSubcommand
  | unknownSubcommand
  | unknownArgument
  | repeatedArgument
  | badValue
  | unexpectedValue
  deriving Repr, DecidableEq

/-- What `build` is asked to do; what is absent comes from the settings. -/
structure BuildRequest where
  document : Option String
  output : Option String
  onCollision : Option CollisionRule
  linkSeparator : Option String
  yes : Bool
  deriving Repr, DecidableEq

/-- What a run is asked to do. -/
inductive Request where
  | build (request : BuildRequest)
  | inspect (document : Option String)
  deriving Repr, DecidableEq

/-- A request, and the settings file to use for it. -/
structure Invocation where
  settingsFile : Option String
  request : Request
  deriving Repr, DecidableEq

namespace Arguments

/-! ## Options -/

/-- The options, and the operand of a subcommand. -/
inductive Key where
  | help
  | version
  | settingsFile
  | verbosity
  | logFormat
  | output
  | onCollision
  | linkSeparator
  | yes
  | document
  deriving Repr, DecidableEq

/-- Whether an option takes a value. -/
def Key.takesValue : Key → Bool
  | .help | .version | .yes => false
  | _ => true

/-- Whether a text is a value of the option. -/
def Key.accepts (key : Key) (value : String) : Bool :=
  match key with
  | .settingsFile | .output | .document => value ≠ ""
  | .onCollision => (CollisionRule.ofName? value).isSome
  | _ => true

/-- What can be said in front of a subcommand, or behind one of them. -/
inductive Level where
  | top
  | build
  | inspect
  deriving Repr, DecidableEq

/-- The options of every level. -/
def commonKeys : List (String × Key) :=
  [("config", .settingsFile), ("verbosity", .verbosity), ("log-format", .logFormat),
   ("help", .help)]

/-- The options of a level, by their long names. -/
def Level.longKeys : Level → List (String × Key)
  | .top => ("version", .version) :: commonKeys
  | .build =>
    ("out", .output) :: ("on-collision", .onCollision) :: ("link-separator", .linkSeparator) ::
      ("yes", .yes) :: commonKeys
  | .inspect => commonKeys

/-- The options of a level, by their letters. -/
def Level.shortKeys : Level → List (Char × Key)
  | .top => [('h', .help), ('V', .version)]
  | .build => [('h', .help), ('o', .output), ('y', .yes)]
  | .inspect => [('h', .help)]

/-! ## Values -/

/-- The options that have been given, and the one that waits for its value to be looked at. -/
structure Given where
  values : List (Key × String) := []
  pending : Option (Key × Option String) := none
  deriving Repr, DecidableEq

/-- Outcomes of reading arguments. -/
abbrev Parse := Except UsageFault

namespace Given

/-- Adds an option that was not given before. -/
def store (given : Given) (key : Key) (value : String) : Parse Given :=
  if given.values.any fun old => old.1 = key then .error .repeatedArgument
  else if key.accepts value then .ok { given with values := (key, value) :: given.values }
  else .error .badValue

/-- Looks at the value that waits. -/
def settle (given : Given) : Parse Given :=
  match given.pending with
  | none => .ok given
  | some (_, none) => .error .badValue
  | some (key, some value) => store { given with pending := none } key value

/-- Gives an option without a value. -/
def flag (given : Given) (key : Key) : Parse Given := do
  let given ← given.settle
  match key with
  | .help => .error .help
  | .version => .error .version
  | key => given.store key ""

/-- Gives an option whose value stands in the same argument. -/
def attached (given : Given) (key : Key) (value : String) : Parse Given := do
  let given ← given.settle
  given.store key value

/-- Gives an option whose value is still to come. -/
def await (given : Given) (key : Key) (value : Option String) : Parse Given := do
  let given ← given.settle
  .ok { given with pending := some (key, value) }

/-- Gives the option that waits its value. -/
def fill (given : Given) (key : Key) (value : String) : Given :=
  { given with pending := some (key, some value) }

/-- The value of an option. -/
def value? (given : Given) (key : Key) : Option String := given.values.lookup key

end Given

/-! ## Arguments -/

/-- A long option: its name, and its value if one is attached. -/
def splitLong (text : List Char) : String × Option String :=
  match text.dropWhile (· ≠ '=') with
  | _ :: value => (String.ofList (text.takeWhile (· ≠ '=')), some (String.ofList value))
  | [] => (String.ofList text, none)

/-- Whether an option still waits for a value. -/
def Given.waits (given : Given) : Bool :=
  match given.pending with
  | some (_, none) => true
  | _ => false

/-- Gives a long option. -/
def giveLong (level : Level) (given : Given) (text : List Char) : Parse Given :=
  let (name, value) := splitLong text
  match level.longKeys.lookup name, value with
  | none, _ => .error .unknownArgument
  | some key, some value =>
    if key.takesValue then given.attached key value else .error .unexpectedValue
  | some key, none => if key.takesValue then given.await key none else given.flag key

/-- Gives the options of a cluster of letters; an option that takes a value takes the rest. -/
def giveShort (level : Level) (given : Given) : List Char → Parse Given
  | [] => .ok given
  | letter :: rest =>
    match level.shortKeys.lookup letter with
    | none => .error .unknownArgument
    | some key =>
      if key.takesValue then
        match rest with
        | [] => given.await key none
        | '=' :: value => given.attached key (String.ofList value)
        | value => given.attached key (String.ofList value)
      else do
        let given ← given.flag key
        giveShort level given rest

/-- Reads the arguments behind a subcommand. Behind `--` every argument is an operand, and there is
place for one operand only. -/
def readBehind (level : Level) (operandsOnly operandSeen : Bool) (given : Given) :
    List String → Parse Given
  | [] => given.settle
  | argument :: rest =>
    let operand : Parse Given :=
      if operandSeen then .error .unknownArgument
      else do
        let given ← given.await .document (some argument)
        readBehind level operandsOnly true given rest
    let value : Parse Given :=
      match given.pending with
      | some (key, none) =>
        readBehind level operandsOnly operandSeen (given.fill key argument) rest
      | _ => operand
    if operandsOnly then operand
    else
      match argument.toList with
      | ['-', '-'] => readBehind level true operandSeen given rest
      | '-' :: '-' :: text => do
        let given ← giveLong level given text
        readBehind level operandsOnly operandSeen given rest
      | ['-'] => value
      | '-' :: letters => do
        let given ← giveShort level given letters
        readBehind level operandsOnly operandSeen given rest
      | _ => value

/-- The level of a subcommand. -/
def level? (name : String) : Option Level :=
  if name = "build" then some .build else if name = "inspect" then some .inspect else none

/-- The outcome of asking for help on what the names lead to. -/
def helpOn : List String → UsageFault
  | [] => .help
  | [name] => if (level? name).isSome || name = "help" then .help else .unknownSubcommand
  | _ => .unknownSubcommand

/-- The outcome of reading the arguments in front of a subcommand: the options there, the
subcommand's level and its options. -/
def readFront (operandsOnly : Bool) (given : Given) : List String → Parse (Given × Level × Given)
  | [] => do
    let given ← given.settle
    if given.values.isEmpty then .error .nothingAsked else .error .missingSubcommand
  | argument :: rest =>
    let operand : Parse (Given × Level × Given) :=
      if operandsOnly then
        if (level? argument).isSome || argument = "help" then .error .unknownArgument
        else .error .unknownSubcommand
      else if given.waits then
        match given.pending with
        | some (key, _) => readFront operandsOnly (given.fill key argument) rest
        | none => .error .unknownSubcommand
      else
        match level? argument with
        | some level => do
          let behind ← readBehind level false false {} rest
          let given ← given.settle
          .ok (given, level, behind)
        | none => if argument = "help" then .error (helpOn rest) else .error .unknownSubcommand
    if operandsOnly then operand
    else
      match argument.toList with
      | ['-', '-'] => readFront true given rest
      | '-' :: '-' :: text => do
        let given ← giveLong .top given text
        readFront operandsOnly given rest
      | ['-'] => operand
      | '-' :: letters => do
        let given ← giveShort .top given letters
        readFront operandsOnly given rest
      | _ => operand

end Arguments

open Arguments in
/-- What the arguments ask for; a settings file named behind the subcommand goes before one named
in front of it. -/
def Invocation.ofArguments (arguments : List String) : Except UsageFault Invocation := do
  let (front, level, behind) ← readFront false {} arguments
  let settingsFile := (behind.value? .settingsFile).or (front.value? .settingsFile)
  let document := behind.value? .document
  match level with
  | .inspect => .ok ⟨settingsFile, .inspect document⟩
  | _ =>
    .ok ⟨settingsFile, .build
      { document := document
        output := behind.value? .output
        onCollision := (behind.value? .onCollision).bind CollisionRule.ofName?
        linkSeparator := behind.value? .linkSeparator
        yes := (behind.value? .yes).isSome }⟩

end SchemaScaffold
