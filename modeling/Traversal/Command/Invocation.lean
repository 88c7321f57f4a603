import Traversal.Command.Build
import Traversal.Number.Word

/-! # Command lines

A command line names one of three commands. Options may stand among the steps until two hyphens end
them. The arguments are read from left to right, and the first thing that is wrong, or that asks for
help or the version, ends the reading. -/

namespace Traversal

inductive CommandName where
  | render | query | settings
deriving DecidableEq, Repr

def CommandName.ofText? : String → Option CommandName
  | "render" => some .render
  | "query" => some .query
  | "settings" => some .settings
  | _ => none

/-- What a command line asks for. -/
inductive Invocation where
  | render (steps : List StepArg)
  | query (steps : List StepArg) (options : QueryOptions)
  | settings
  | version
  /-- Help on a command, or on the program. -/
  | help (command : Option CommandName)
deriving Repr

inductive ArgumentError where
  | missingCommand
  | unknownCommand (name : String)
  | unexpected (argument : String)
  | unexpectedValue (option : String)
  | missingValue (option : String)
  | repeated (option : String)
  | badStep (raw : String) (cause : StepArgError)
  | badNumber (raw : String)
  | missingSteps
deriving DecidableEq, Repr

def ArgumentError.message : ArgumentError → String
  | missingCommand => "a command is required: render, query or settings"
  | unknownCommand name => s!"unrecognized subcommand '{name}'"
  | unexpected argument => s!"unexpected argument '{argument}' found"
  | unexpectedValue option => s!"no value is allowed for '{option}'"
  | missingValue option => s!"a value is required for '{option}' but none was supplied"
  | repeated option => s!"the argument '{option}' cannot be used multiple times"
  | badStep raw cause => s!"invalid value '{raw}' for '<STEPS>...': {cause.message}"
  | badNumber raw => s!"invalid value '{raw}' for '--limit <LIMIT>'"
  | missingSteps => "the following required arguments were not provided: <STEPS>..."

/-- How one argument looks. -/
inductive Token where
  | endOfOptions
  /-- After two hyphens, with the value after an equals sign. -/
  | long (name : String) (value : Option String)
  /-- Letters after one hyphen. -/
  | short (letters : List Char)
  | value (text : String)
deriving DecidableEq, Repr

def Token.ofText (text : String) : Token :=
  match text.toList with
  | ['-', '-'] => .endOfOptions
  | '-' :: '-' :: rest =>
    match splitAtEquals rest with
    | some (before, after) => .long (String.ofList before) (some (String.ofList after))
    | none => .long (String.ofList rest) none
  | '-' :: c :: rest => .short (c :: rest)
  | _ => .value text

/-- What the arguments of a command have given so far. -/
structure Draft where
  /-- Newest first. -/
  steps : List StepArg := []
  options : QueryOptions := {}

namespace Draft

def addStep (draft : Draft) (raw : String) : Except ArgumentError Draft :=
  match StepArg.parse raw with
  | .ok step => .ok { draft with steps := step :: draft.steps }
  | .error cause => .error (.badStep raw cause)

def setDistinct (draft : Draft) : Except ArgumentError Draft :=
  if draft.options.distinct then .error (.repeated "--distinct")
  else .ok { draft with options := { draft.options with distinct := true } }

def setClean (draft : Draft) : Except ArgumentError Draft :=
  if draft.options.clean then .error (.repeated "--clean")
  else .ok { draft with options := { draft.options with clean := true } }

def setLanguage (draft : Draft) (raw : String) : Except ArgumentError Draft :=
  if draft.options.language.isSome then .error (.repeated "--lang <LANG>")
  else .ok { draft with options := { draft.options with language := some raw } }

def setLimit (draft : Draft) (raw : String) : Except ArgumentError Draft :=
  if draft.options.limit.isSome then .error (.repeated "--limit <LIMIT>")
  else
    match readInt64? raw.toList with
    | some limit => .ok { draft with options := { draft.options with limit := some limit } }
    | none => .error (.badNumber raw)

/-- What the command does with all its arguments read. -/
def invocation (draft : Draft) : CommandName → Except ArgumentError Invocation
  | .settings => .ok .settings
  | .render =>
    if draft.steps.isEmpty then .error .missingSteps else .ok (.render draft.steps.reverse)
  | .query =>
    if draft.steps.isEmpty then .error .missingSteps
    else .ok (.query draft.steps.reverse draft.options)

end Draft

/-- Letters after one hyphen: `v` may be repeated, and `h` asks for help. -/
def asksHelp (letters : List Char) : Except ArgumentError Bool :=
  match letters with
  | [] => .ok false
  | 'v' :: rest => asksHelp rest
  | 'h' :: _ => .ok true
  | c :: _ => .error (.unexpected (String.ofList ['-', c]))

/-- A setter of an option that takes a value. -/
def valueSetter? : String → Option (Draft → String → Except ArgumentError Draft)
  | "lang" => some Draft.setLanguage
  | "limit" => some Draft.setLimit
  | _ => none

/-- A setter of an option without a value. -/
def flagSetter? : String → Option (Draft → Except ArgumentError Draft)
  | "distinct" => some Draft.setDistinct
  | "clean" => some Draft.setClean
  | "verbose" => some .ok
  | _ => none

/-- The options that a command has. -/
def CommandName.hasOption (command : CommandName) (name : String) : Bool :=
  name == "verbose" || command == .query

/-- Reads the arguments of a command; with `literal`, all of them are values. -/
def readArguments (command : CommandName) (literal : Bool) (draft : Draft) :
    List String → Except ArgumentError Invocation
  | [] => draft.invocation command
  | text :: rest =>
    let token := if literal then .value text else Token.ofText text
    match token with
    | .endOfOptions => readArguments command true draft rest
    | .value raw =>
      if command = .settings then .error (.unexpected raw)
      else
        match draft.addStep raw with
        | .ok draft => readArguments command literal draft rest
        | .error error => .error error
    | .short letters =>
      match asksHelp letters with
      | .ok true => .ok (.help (some command))
      | .ok false => readArguments command literal draft rest
      | .error error => .error error
    | .long "help" none => .ok (.help (some command))
    | .long name value =>
      if command.hasOption name then
        match flagSetter? name, valueSetter? name, value with
        | some set, _, none =>
          match set draft with
          | .ok draft => readArguments command literal draft rest
          | .error error => .error error
        | some _, _, some _ => .error (.unexpectedValue text)
        | none, some set, some raw =>
          match set draft raw with
          | .ok draft => readArguments command literal draft rest
          | .error error => .error error
        | none, some set, none =>
          match rest with
          | [] => .error (.missingValue text)
          | next :: rest =>
            match Token.ofText next with
            | .value raw =>
              match set draft raw with
              | .ok draft => readArguments command literal draft rest
              | .error error => .error error
            | _ => .error (.missingValue text)
        | none, none, _ => .error (.unexpected text)
      else .error (.unexpected text)

/-- Help on the commands named after `help`. -/
def readHelp : List String → Except ArgumentError Invocation
  | [] => .ok (.help none)
  | name :: rest =>
    match CommandName.ofText? name, rest with
    | some command, [] => .ok (.help (some command))
    | some _, extra :: _ => .error (.unknownCommand extra)
    | none, [] => if name = "help" then .ok (.help none) else .error (.unknownCommand name)
    | none, _ => .error (.unknownCommand name)

/-- Letters after one hyphen and before the command. -/
def readLetters : List Char → Except ArgumentError (Option Invocation)
  | [] => .ok none
  | 'v' :: rest => readLetters rest
  | 'V' :: _ => .ok (some .version)
  | 'h' :: _ => .ok (some (.help none))
  | c :: _ => .error (.unexpected (String.ofList ['-', c]))

namespace Invocation

/-- Reads a whole command line. -/
def parse : List String → Except ArgumentError Invocation
  | [] => .error .missingCommand
  | text :: rest =>
    match Token.ofText text with
    | .endOfOptions =>
      match rest with
      | [] => .error .missingCommand
      | next :: _ => .error (.unexpected next)
    | .value name =>
      match CommandName.ofText? name with
      | some command => readArguments command false {} rest
      | none => if name = "help" then readHelp rest else .error (.unknownCommand name)
    | .short letters =>
      match readLetters letters with
      | .ok (some invocation) => .ok invocation
      | .ok none => parse rest
      | .error error => .error error
    | .long "verbose" none => parse rest
    | .long "version" none => .ok .version
    | .long "help" none => .ok (.help none)
    | .long _ _ => .error (.unexpected text)

end Invocation

end Traversal
