import Medallion.Sheet.Load
import Medallion.Text.Control
import Medallion.Tier

/-!
# Arguments

The program takes options only, each at most once.  The value of an option is the next
argument, unless that looks like an option itself, or stands behind the name: `-i=FILE`,
`-iFILE`, `--input=FILE`.

An option is checked when the next one begins, or at the end.  An argument that is no option
is an error at once, whatever is wrong with the option in front of it.
-/

namespace Medallion

/-- What the program does with the artifacts beyond writing them. -/
inductive Mode where
  | debug
  | live
  deriving DecidableEq, Repr, Inhabited

namespace Mode

/-- The name of a mode. -/
def name : Mode → String
  | debug => "debug"
  | live => "live"

/-- The mode of a name. -/
def ofName? (s : String) : Option Mode := [debug, live].find? fun m => m.name == s

end Mode

/-- The arguments of the program. -/
structure Arguments where
  input : Path
  domain : String
  fileType : FileType
  target : Tier
  mode : Mode
  settingsFile : Option Path
  logLevel : Option String
  deriving DecidableEq, Repr

namespace Arguments

/-! ## Options -/

/-- An option with a value. -/
inductive Key where
  | input
  | domain
  | fileType
  | target
  | mode
  | config
  | logLevel
  deriving DecidableEq, Repr

namespace Key

/-- The options with a value. -/
def all : List Key := [input, domain, fileType, target, mode, config, logLevel]

/-- The letter of an option. -/
def letter : Key → Char
  | input => 'i'
  | domain => 'd'
  | fileType => 't'
  | target => 'a'
  | mode => 'm'
  | config => 'c'
  | logLevel => 'l'

/-- The long name of an option. -/
def name : Key → String
  | input => "input"
  | domain => "domain"
  | fileType => "type"
  | target => "target"
  | mode => "mode"
  | config => "config"
  | logLevel => "log-level"

/-- Whether a text is a value of the option. -/
def accepts (key : Key) (value : String) : Bool :=
  match key with
  | input | config => value ≠ ""
  | domain | logLevel => true
  | fileType => (FileType.ofName? value).isSome
  | target => (Tier.ofName? value).isSome
  | mode => (Mode.ofName? value).isSome

/-- The option as messages show it: its name and a word for its value. -/
def shown : Key → String
  | input => "--input <INPUT>"
  | domain => "--domain <DOMAIN>"
  | fileType => "--type <FILE_TYPE>"
  | target => "--target <TARGET>"
  | mode => "--mode <MODE>"
  | config => "--config <CONFIG>"
  | logLevel => "--log-level <LOG_LEVEL>"

end Key

end Arguments

/-! ## Errors -/

open Arguments (Key)

/-- Why the arguments are not followed. -/
inductive UsageError where
  /-- Options that have to be there are not. -/
  | missingOptions (keys : List Key)
  | missingValue (key : Key)
  | invalidValue (key : Key) (value : String)
  | unknownArgument (text : String)
  | repeatedOption (key : Key)
  /-- An option that takes no value is given one. -/
  | unexpectedValue (option value : String)
  /-- The help text is asked for. -/
  | displayHelp
  /-- The version is asked for. -/
  | displayVersion
  deriving DecidableEq, Repr

/-- A text that was given, as a message quotes it. -/
def UsageError.quoted (s : String) : String := "'" ++ Text.Control.shown s ++ "'"

/-- The wording of an error.  It quotes what was given, line by line as it is, but without
anything that would steer a terminal. -/
def UsageError.message : UsageError → String
  | .missingOptions keys =>
    "the following required arguments were not provided:" ++
      String.join (keys.map fun k => "\n  " ++ k.shown)
  | .missingValue key =>
    "a value is required for '" ++ key.shown ++ "' but none was supplied"
  | .invalidValue key value => "invalid value " ++ quoted value ++ " for '" ++ key.shown ++ "'"
  | .unknownArgument text => "unexpected argument " ++ quoted text ++ " found"
  | .repeatedOption key =>
    "the argument '" ++ key.shown ++ "' cannot be used multiple times"
  | .unexpectedValue option value =>
    "unexpected value " ++ quoted value ++ " for '" ++ option ++
      "' found; no more were expected"
  | .displayHelp | .displayVersion => ""

namespace Arguments

/-! ## Options that are given -/

/-- The options given so far. -/
abbrev Given := List (Key × String)

/-- An option whose value may still come. -/
structure Pending where
  key : Key
  value : Option String

/-- Takes an option with its value. -/
def take (given : Given) (key : Key) (value : Option String) : Except UsageError Given :=
  match value with
  | none => .error (.missingValue key)
  | some v =>
    if (given.lookup key).isSome then .error (.repeatedOption key)
    else if key.accepts v then .ok (given ++ [(key, v)])
    else if v = "" then .error (.missingValue key)
    else .error (.invalidValue key v)

/-- Takes the pending option, if there is one. -/
def settle (given : Given) : Option Pending → Except UsageError Given
  | none => .ok given
  | some p => take given p.key p.value

/-! ## Reading -/

/-- What an argument is. -/
inductive Kind where
  /-- An option, with the value that stands behind its name. -/
  | option (key : Key) (value : Option String)
  /-- A request that ends the reading. -/
  | request (error : UsageError)
  /-- A fault in the argument itself. -/
  | fault (error : UsageError)
  /-- The end of the options. -/
  | terminator
  /-- A value. -/
  | word (text : String)

/-- The kind of an argument of the form `--name` or `--name=value`. -/
def longKind (text : List Char) : Kind :=
  let name := String.ofList (text.takeWhile (· ≠ '='))
  let value := match text.dropWhile (· ≠ '=') with
    | _ :: v => some (String.ofList v)
    | [] => none
  match Key.all.find? fun k => k.name == name with
  | some key => .option key value
  | none =>
    let request (e : UsageError) : Kind :=
      match value with
      | some v => .fault (.unexpectedValue ("--" ++ name) v)
      | none => .request e
    if name = "help" then request .displayHelp
    else if name = "version" then request .displayVersion
    else .fault (.unknownArgument ("--" ++ name))

/-- The kind of an argument of the form `-x` or `-xvalue`. -/
def shortKind (letter : Char) (rest : List Char) : Kind :=
  let value := match rest with
    | [] => none
    | '=' :: v => some (String.ofList v)
    | v => some (String.ofList v)
  match Key.all.find? fun k => k.letter == letter with
  | some key => .option key value
  | none =>
    if letter = 'h' then .request .displayHelp
    else if letter = 'V' then .request .displayVersion
    else .fault (.unknownArgument (String.ofList ['-', letter]))

/-- The kind of an argument. -/
def kind (arg : String) : Kind :=
  match arg.toList with
  | ['-', '-'] => .terminator
  | '-' :: '-' :: text => longKind text
  | '-' :: letter :: rest => shortKind letter rest
  | _ => .word arg

/-- Reads the arguments; `pending` is the option in front of them. -/
def scan (given : Given) (pending : Option Pending) : List String → Except UsageError Given
  | [] => settle given pending
  | arg :: args =>
    match kind arg with
    | .fault e => .error e
    | .request e =>
      match settle given pending with
      | .error e => .error e
      | .ok _ => .error e
    | .terminator =>
      match args with
      | [] => settle given pending
      | next :: _ => .error (.unknownArgument next)
    | .option key value =>
      match settle given pending with
      | .error e => .error e
      | .ok given =>
        match value with
        | none => scan given (some ⟨key, none⟩) args
        | some v =>
          match take given key (some v) with
          | .error e => .error e
          | .ok given => scan given none args
    | .word text =>
      match pending with
      | some ⟨key, none⟩ => scan given (some ⟨key, some text⟩) args
      | _ => .error (.unknownArgument text)

/-- The options that have to be given. -/
def required : List Key := [.input, .domain, .target]

/-- The arguments that some options make up. -/
def ofGiven (given : Given) : Except UsageError Arguments :=
  match given.lookup .input, given.lookup .domain,
      (given.lookup .target).bind Tier.ofName? with
  | some input, some domain, some target =>
    .ok
      { input := ⟨input⟩
        domain := domain
        fileType := ((given.lookup .fileType).bind FileType.ofName?).getD .excel
        target := target
        mode := ((given.lookup .mode).bind Mode.ofName?).getD .debug
        settingsFile := (given.lookup .config).map Path.mk
        logLevel := given.lookup .logLevel }
  | _, _, _ => .error (.missingOptions (required.filter fun k => (given.lookup k).isNone))

/-- Reads the arguments of the program. -/
def parse (args : List String) : Except UsageError Arguments := do
  ofGiven (← scan [] none args)

end Arguments

end Medallion
