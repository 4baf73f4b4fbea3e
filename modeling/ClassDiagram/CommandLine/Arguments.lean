import ClassDiagram.DiagramStyle

/-!
# Arguments

The words behind the program's name: options of the program, the name of a command, and
options of the command. An option is written `--long value`, `--long=value`, `-s value`,
`-svalue` or `-s=value`; options without a value may share a dash. A value that begins with
a dash has to be attached. Options of the program may also stand behind the command.

Words are taken from left to right. The first thing wrong with them ends the reading, and so
does a question for the version or for help. The command `help` takes the name of a command
and no options.
-/

namespace ClassDiagram.CommandLine

/-- The options there are. -/
inductive Key where
  | verbose
  | logLevel
  | logFormat
  | help
  | version
  | manifest
  | assembly
  | className
  | output
  | copyTo
  | qualifier
  | rootType
  | json
deriving DecidableEq

/-- What an option takes for a value. -/
inductive ValueShape where
  /-- No value: the option says all by being there. -/
  | flag
  | text
  /-- A text that is not empty. -/
  | path
  | oneOf (names : List String)

/-- How an option is written. -/
structure OptionShape where
  key : Key
  long : String
  short : Option Char := none
  value : ValueShape := .flag
  /-- Whether the option may come more than once. -/
  repeats : Bool := false

/-- What is wrong with the words. -/
inductive UsageError where
  | unknownOption (word : String)
  | unexpectedWord (word : String)
  | missingValue (option : String)
  | unexpectedValue (option : String)
  | badValue (option value : String)
  | repeated (option : String)
  | missingOption (option : String)
  | missingCommand

/-- What people are told. -/
def UsageError.message : UsageError → String
  | unknownOption word => "there is no option " ++ word
  | unexpectedWord word => "there is no place for " ++ word
  | missingValue option => "the option --" ++ option ++ " needs a value"
  | unexpectedValue option => "the option --" ++ option ++ " takes no value"
  | badValue option value => "the option --" ++ option ++ " cannot be " ++ value
  | repeated option => "the option --" ++ option ++ " can be given only once"
  | missingOption option => "the option --" ++ option ++ " is missing"
  | missingCommand => "there is no command"

/-- Why reading the words ends before their end. -/
inductive Stop where
  | usage (error : UsageError)
  | version
  | help

/-- The options that were given, in order, each with its value. -/
abbrev Given := List (Key × String)

namespace Given

/-- The value given for an option. -/
def value? (given : Given) (key : Key) : Option String :=
  given.lookup key

/-- Whether an option is given. -/
def has (given : Given) (key : Key) : Bool :=
  (given.value? key).isSome

/-- All values given for an option. -/
def values (given : Given) (key : Key) : List String :=
  (given.filter fun option => option.1 = key).map (·.2)

end Given

/-- Whether a value has the shape that the option asks for. -/
def ValueShape.admits : ValueShape → String → Bool
  | flag, _ | text, _ => true
  | path, value => value ≠ ""
  | oneOf names, value => names.contains value

namespace OptionShape

/-- Takes in an option with its value. -/
def accept (shape : OptionShape) (value : String) (given : Given) : Except Stop Given :=
  if shape.key = .version then .error .version
  else if shape.key = .help then .error .help
  else if given.has shape.key && !shape.repeats then .error (.usage (.repeated shape.long))
  else if shape.value.admits value then .ok (given ++ [(shape.key, value)])
  else .error (.usage (.badValue shape.long value))

/-- Whether the option takes a value. -/
def takesValue (shape : OptionShape) : Bool :=
  match shape.value with
  | .flag => false
  | _ => true

end OptionShape

/-- A word as it is written. -/
inductive Word where
  /-- Two dashes: no more options follow. -/
  | endOfOptions
  | long (name : String) (value : Option String)
  | short (letters : List Char)
  | plain (text : String)

/-- What a word is. A lone dash is a plain word. -/
def Word.ofString (word : String) : Word :=
  match word.toList with
  | ['-', '-'] => endOfOptions
  | '-' :: '-' :: rest =>
    let value := rest.dropWhile (· ≠ '=')
    long (String.ofList (rest.takeWhile (· ≠ '=')))
      (if value.isEmpty then none else some (String.ofList value.tail))
  | '-' :: letter :: letters => short (letter :: letters)
  | _ => plain word

/-- The options of the words taken so far, and an option whose value is the next word. -/
abbrev Progress := Given × Option OptionShape

/-- Takes the letters behind a single dash. -/
def takeLetters (shapes : List OptionShape) (given : Given) : List Char → Except Stop Progress
  | [] => .ok (given, none)
  | letter :: letters =>
    match shapes.find? fun shape => shape.short = some letter with
    | none => .error (.usage (.unknownOption (String.ofList ['-', letter])))
    | some shape =>
      if shape.takesValue then
        match letters with
        | [] => .ok (given, some shape)
        | '=' :: value => (shape.accept (String.ofList value) given).map (·, none)
        | value => (shape.accept (String.ofList value) given).map (·, none)
      else (shape.accept "" given).bind fun given => takeLetters shapes given letters

/-- Takes a long option. -/
def takeLong (shapes : List OptionShape) (given : Given) (name : String)
    (value : Option String) : Except Stop Progress :=
  match shapes.find? fun shape => shape.long = name with
  | none => .error (.usage (.unknownOption ("--" ++ name)))
  | some shape =>
    match shape.takesValue, value with
    | true, none => .ok (given, some shape)
    | true, some value => (shape.accept value given).map (·, none)
    | false, none => (shape.accept "" given).map (·, none)
    | false, some _ => .error (.usage (.unexpectedValue name))

/-- Takes words until they end or one of them is a command; gives the options, and the
command with the words behind it. -/
def takeWords (shapes : List OptionShape) (commands : List String) :
    Progress → List String → Except Stop (Given × Option (String × List String))
  | (given, none), [] => .ok (given, none)
  | (_, some shape), [] => .error (.usage (.missingValue shape.long))
  | (given, pending), word :: rest =>
    match Word.ofString word, pending with
    | .plain value, some shape =>
      (shape.accept value given).bind fun given => takeWords shapes commands (given, none) rest
    | _, some shape => .error (.usage (.missingValue shape.long))
    | .plain word, none =>
      if commands.contains word then .ok (given, some (word, rest))
      else .error (.usage (.unexpectedWord word))
    | .endOfOptions, none =>
      match rest with
      | [] => .ok (given, none)
      | word :: _ => .error (.usage (.unexpectedWord word))
    | .long name value, none =>
      (takeLong shapes given name value).bind fun progress =>
        takeWords shapes commands progress rest
    | .short letters, none =>
      (takeLetters shapes given letters).bind fun progress =>
        takeWords shapes commands progress rest

/-- What the program is asked to do. Paths that are absent stand for the standard input or
output. -/
inductive Command where
  | assemblies (manifest : Option String) (json : Bool)
  | classes (manifest : Option String) (assembly : String) (json : Bool)
  | render (manifest : Option String) (assembly className : String)
      (output copyTo : Option String) (style : DiagramStyle)
  | inspect (manifest output : Option String)

/-- The command, and how much is said while it is carried out. -/
structure Invocation where
  verbose : Bool := false
  /-- The log format asked for by name. -/
  logFormat : Option String := none
  command : Command

/-- The options that may stand anywhere. -/
def globalOptions : List OptionShape :=
  [{ key := .verbose, long := "verbose", short := some 'v' },
   { key := .logLevel, long := "log-level",
     value := .oneOf ["trace", "debug", "info", "warn", "error", "off"] },
   { key := .logFormat, long := "log-format", value := .oneOf ["compact", "pretty", "json"] },
   { key := .help, long := "help", short := some 'h' }]

/-- The options of the program. -/
def programOptions : List OptionShape :=
  globalOptions ++ [{ key := .version, long := "version", short := some 'V' }]

/-- Where the manifest is. -/
def manifestOption : OptionShape :=
  { key := .manifest, long := "manifest", short := some 'm', value := .path }

/-- Which assembly it is about. -/
def assemblyOption : OptionShape :=
  { key := .assembly, long := "assembly", short := some 'a', value := .text }

/-- Where the result goes. -/
def outputOption : OptionShape :=
  { key := .output, long := "output", short := some 'o', value := .path }

/-- Whether a list is written as JSON. -/
def jsonOption : OptionShape :=
  { key := .json, long := "json" }

/-- The commands and their options. -/
def commandOptions : List (String × List OptionShape) :=
  [("assemblies", [manifestOption, jsonOption]),
   ("classes", [manifestOption, assemblyOption, jsonOption]),
   ("render",
    [manifestOption, assemblyOption,
     { key := .className, long := "class", short := some 'c', value := .text },
     outputOption,
     { key := .copyTo, long := "copy-to", value := .path },
     { key := .qualifier, long := "qualifier",
       value := .oneOf ["namespace", "assembly", "bare"] },
     { key := .rootType, long := "root-type", value := .text, repeats := true }]),
   ("inspect", [manifestOption, outputOption])]

/-- The command that only explains the others. -/
def helpCommand : String := "help"

/-- The names of the commands. -/
def commandNames : List String :=
  commandOptions.map (·.1) ++ [helpCommand]

/-- What comes of asking for help with the words behind the question. They may be the name of
one command, and nothing else, not even an option. -/
def helpOn : List String → Stop
  | [] => .help
  | name :: rest =>
    if commandNames.contains name then
      match rest with
      | [] => .help
      | word :: _ => .usage (.unexpectedWord word)
    else .usage (.unexpectedWord name)

namespace Given

/-- The value of an option that has to be given. -/
def need (given : Given) (key : Key) (long : String) : Except Stop String :=
  match given.value? key with
  | some value => .ok value
  | none => .error (.usage (.missingOption long))

/-- The style of diagrams. -/
def style (given : Given) : DiagramStyle :=
  (given.values .rootType).foldl DiagramStyle.addRoot
    { labels := ((given.value? .qualifier).bind LabelStyle.ofName?).getD .byNamespace }

/-- The command of this name with its options. -/
def command (given : Given) (name : String) : Except Stop Command :=
  match name with
  | "assemblies" => .ok (.assemblies (given.value? .manifest) (given.has .json))
  | "classes" => do
    .ok (.classes (given.value? .manifest) (← given.need .assembly "assembly") (given.has .json))
  | "render" => do
    .ok (.render (given.value? .manifest) (← given.need .assembly "assembly")
      (← given.need .className "class") (given.value? .output) (given.value? .copyTo)
      given.style)
  | "inspect" => .ok (.inspect (given.value? .manifest) (given.value? .output))
  | _ => .error (.usage (.unexpectedWord name))

end Given

/-- Reads the words behind the program's name. An option of the program that stands behind
the command counts before one in front of it. -/
def Invocation.ofWords (words : List String) : Except Stop Invocation := do
  let (before, command) ← takeWords programOptions commandNames ([], none) words
  match command with
  | none => .error (.usage .missingCommand)
  | some (name, rest) =>
    if name = helpCommand then throw (helpOn rest)
    let shapes := globalOptions ++ (commandOptions.lookup name).getD []
    let (behind, _) ← takeWords shapes [] ([], none) rest
    let given := behind ++ before
    .ok {
      verbose := given.has .verbose
      logFormat := given.value? .logFormat
      command := ← behind.command name }

end ClassDiagram.CommandLine
