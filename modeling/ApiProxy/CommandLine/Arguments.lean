/-!
# Reading arguments

Arguments are options and words. An option has a long name behind two dashes and may have a
letter behind one; letters may be joined. An option with a value takes it from behind an equals
sign, from behind its letter or from the next argument, which may not look like an option. After
a lone `--` everything is a word. An option may be given once.

The arguments are read from the left, and the first one that asks for help or the version, or
that cannot be understood, ends the reading. An option's value is checked when the next option
is met, or at the end.
-/

namespace ApiProxy.CommandLine

/-- What an option does. -/
inductive OptionKind where
  /-- It stands for itself. -/
  | flag
  /-- It has a value, of which not every text is accepted. -/
  | value (accepts : String → Bool)
  /-- It asks for help. -/
  | help
  /-- It asks for the version. -/
  | version

/-- An option. -/
structure OptionSpec where
  /-- The long name. -/
  name : String
  letter? : Option Char
  kind : OptionKind
  /-- What the option is about, for the help text. -/
  about : String
  /-- The variable of the environment that can take the place of the option. -/
  environmentName? : Option String := none
  /-- The value if none is given. -/
  default? : Option String := none

/-- What may stand in the arguments of a command. -/
structure Rules where
  /-- The options, in the order of the help text. -/
  options : List OptionSpec
  /-- The word that may stand beside the options, as an option with a value. -/
  word? : Option OptionSpec := none
  /-- The names of the commands that take over the arguments behind them, each with what it is
  about. -/
  commands : List (String × String) := []

/-- Why the reading of arguments ends early. -/
inductive Stop where
  | help
  | version
  /-- An argument cannot be understood, or one is missing. -/
  | misuse
deriving DecidableEq, Repr

/-- What is known when some arguments are read. -/
structure Reading where
  /-- The options that were given, with their values, the last one first. -/
  given : List (String × String)
  /-- The option that was met last, and its value once it is known. -/
  pending? : Option (OptionSpec × Option String)
  /-- Whether the word was given. -/
  wordGiven : Bool
  /-- Whether all arguments to come are words. -/
  onlyWords : Bool

namespace Reading

/-- Nothing was read. -/
def start : Reading := ⟨[], none, false, false⟩

/-- The value of an option that was given. -/
def value? (r : Reading) (name : String) : Option String := r.given.lookup name

/-- Whether an option was given. -/
def has (r : Reading) (name : String) : Bool := (r.value? name).isSome

/-- Whether the next argument has to be the value of an option. -/
def isAwaiting (r : Reading) : Bool :=
  match r.pending? with
  | some (_, none) => true
  | _ => false

/-- Take note of an option and its value. -/
def add (r : Reading) (o : OptionSpec) (value : String) : Except Stop Reading :=
  let accepted := match o.kind with
    | .value accepts => accepts value
    | _ => true
  if accepted && !r.has o.name then .ok { r with given := (o.name, value) :: r.given }
  else .error .misuse

/-- Take note of the option that was met last. -/
def settle (r : Reading) : Except Stop Reading :=
  match r.pending? with
  | none => .ok r
  | some (_, none) => .error .misuse
  | some (o, some value) => { r with pending? := none }.add o value

/-- Meet an option that has no value behind it in the same argument. -/
def meet (r : Reading) (o : OptionSpec) : Except Stop Reading := do
  let r ← r.settle
  match o.kind with
  | .flag => r.add o ""
  | .value _ => .ok { r with pending? := some (o, none) }
  | .help => .error .help
  | .version => .error .version

/-- Meet an option with its value behind it. -/
def meetWith (r : Reading) (o : OptionSpec) (value : List Char) : Except Stop Reading := do
  let r ← r.settle
  r.add o (String.ofList value)

end Reading

namespace Rules

/-- The option of a long name. -/
def long? (g : Rules) (name : String) : Option OptionSpec :=
  g.options.find? (·.name == name)

/-- The option of a letter. -/
def short? (g : Rules) (letter : Char) : Option OptionSpec :=
  g.options.find? (·.letter? == some letter)

/-- Read what follows two dashes. -/
def readLong (g : Rules) (r : Reading) (body : List Char) : Except Stop Reading :=
  match g.long? (String.ofList (body.takeWhile (· != '='))) with
  | none => .error .misuse
  | some o =>
    match o.kind, body.dropWhile (· != '=') with
    | _, [] => r.meet o
    | .value _, _ :: value => r.meetWith o value
    | _, _ :: _ => .error .misuse

/-- Read what follows one dash. -/
def readShort (g : Rules) (r : Reading) : List Char → Except Stop Reading
  | [] => .ok r
  | c :: cs =>
    match g.short? c with
    | none => .error .misuse
    | some o =>
      match o.kind, cs with
      | .value _, '=' :: value => r.meetWith o value
      | .value _, d :: value => r.meetWith o (d :: value)
      | _, cs => do
        let r ← r.meet o
        g.readShort r cs

/-- Read a word. -/
def readWord (g : Rules) (r : Reading) (word : String) : Except Stop Reading :=
  match g.word? with
  | some o =>
    if r.wordGiven then .error .misuse
    else do
      let r ← r.settle
      .ok { r with pending? := some (o, some word), wordGiven := true }
  | none => .error .misuse

/-- Read an argument that is no option: a value that is waited for, or a word. -/
def readPlain (g : Rules) (r : Reading) (arg : String) : Except Stop Reading :=
  match r.pending? with
  | some (o, none) => .ok { r with pending? := some (o, some arg) }
  | _ => g.readWord r arg

/-- Read one argument. -/
def readArgument (g : Rules) (r : Reading) (arg : String) : Except Stop Reading :=
  if r.onlyWords then g.readWord r arg
  else
    match arg.toList with
    | ['-', '-'] => .ok { r with onlyWords := true }
    | '-' :: '-' :: body => g.readLong r body
    | '-' :: c :: cs => g.readShort r (c :: cs)
    | _ => g.readPlain r arg

/-- Whether an argument is the name of a command that takes over. -/
def takesOver (g : Rules) (r : Reading) (arg : String) : Bool :=
  !r.onlyWords && !r.isAwaiting && (g.commands.lookup arg).isSome

/-- Read arguments up to one that takes over: what was read, that argument and those behind
it. -/
def scan (g : Rules) (r : Reading) :
    List String → Except Stop (Reading × Option (String × List String))
  | [] => .ok (r, none)
  | arg :: args =>
    if g.takesOver r arg then .ok (r, some (arg, args))
    else do
      let r ← g.readArgument r arg
      g.scan r args

end Rules

end ApiProxy.CommandLine
