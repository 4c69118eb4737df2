import ApiProxy.CommandLine.Request

/-!
# Help texts

A help text says what the program or a command is about, how it is called, and which commands,
words and options may stand behind it. What an entry is about stands behind it, aligned with the
others, unless a long entry leaves too little room in a line for one that has much to say: then
all of them stand on lines of their own.
-/

namespace ApiProxy.CommandLine

/-- The name under which the program is called. -/
def programName : String := "proxygen"

/-- How long a line may be. -/
def lineWidth : Nat := 100

/-- A text with blanks behind it up to a length. -/
def padded (length : Nat) (text : String) : String :=
  text ++ String.ofList (List.replicate (length - text.length) ' ')

/-- An entry of a list in a help text. -/
structure HelpEntry where
  form : String
  about : String
  /-- What is known besides about the values of an option. -/
  remarks : String := ""

namespace HelpEntry

/-- What stands behind or below an entry. -/
def explanation (e : HelpEntry) : String :=
  if e.remarks = "" then e.about else e.about ++ " " ++ e.remarks

/-- Whether an entry leaves too little room behind the longest one. -/
def isCrowded (longest : Nat) (e : HelpEntry) : Bool :=
  let taken := longest + 12
  taken ≤ lineWidth && lineWidth * 40 < taken * 100 &&
    lineWidth - taken < e.about.length + e.remarks.length

/-- The lines of entries. -/
def lines (es : List HelpEntry) : String :=
  let longest := (es.map (·.form.length)).foldl max 0
  String.join (es.map fun e =>
    if es.any (isCrowded longest) then "  " ++ e.form ++ "\n          " ++ e.explanation ++ "\n"
    else "  " ++ padded longest e.form ++ "  " ++ e.explanation ++ "\n")

/-- Entries under a heading, with an empty line before it, if there are any. -/
def block (heading : String) (es : List HelpEntry) : String :=
  if es.isEmpty then "" else "\n" ++ heading ++ ":\n" ++ lines es

end HelpEntry

namespace OptionSpec

/-- How the value of an option is called. -/
def valueName (o : OptionSpec) : String :=
  "<" ++ String.ofList (o.name.toList.map fun c => if c = '-' then '_' else c.toUpper) ++ ">"

/-- How an option is written. -/
def form (o : OptionSpec) : String :=
  let short := match o.letter? with
    | some c => String.ofList ['-', c, ',', ' ']
    | none => "    "
  short ++ "--" ++ o.name ++ match o.kind with
    | .value _ => " " ++ o.valueName
    | _ => ""

/-- What is known about the values of an option. -/
def remarks (env : Environment) (o : OptionSpec) : String :=
  let setting := o.environmentName?.map fun v => "[env: " ++ v ++ "=" ++ (env v).getD "" ++ "]"
  let substitute := o.default?.map fun v => "[default: " ++ v ++ "]"
  " ".intercalate (setting.toList ++ substitute.toList)

/-- The entry of an option. -/
def entry (env : Environment) (o : OptionSpec) : HelpEntry := ⟨o.form, o.about, o.remarks env⟩

end OptionSpec

/-- The way to call the program or a command of it. -/
def Rules.call (g : Rules) (command? : Option String) : String :=
  " ".intercalate ([programName] ++ command?.toList ++ ["[OPTIONS]"] ++
    (g.word?.map (·.valueName)).toList ++ (if g.commands.isEmpty then [] else ["<COMMAND>"]))

/-- The help text about arguments by their rules. -/
def Rules.help (env : Environment) (g : Rules) (command? : Option String) (about : String) :
    String :=
  about ++ "\n\nUsage: " ++ g.call command? ++ "\n" ++
    HelpEntry.block "Commands" (g.commands.map fun c => ⟨c.1, c.2, ""⟩) ++
    HelpEntry.block "Arguments" (g.word?.map fun w => ⟨w.valueName, w.about, ""⟩).toList ++
    HelpEntry.block "Options" (g.options.map (·.entry env))

/-- The help text about a topic. -/
def helpText (env : Environment) : HelpTopic → String
  | .program => topRules.help env none "Proxygen - C# client proxy generator"
  | .generate => generateRules.help env (some "generate") generateAbout
  | .remove => removeRules.help env (some "remove") removeAbout
  | .completions => completionsRules.help env (some "completions") completionsAbout

end ApiProxy.CommandLine
