/-!
# Log levels

A log level is named in any case.  Letters count as the same when their upper-case form is
the same letter of ASCII, so the dotless `ı` stands for an `I` and the long `ſ` for an `S`.
A name that is not known gives the level `INFO`, with a warning.
-/

namespace Medallion

/-- How much is logged. -/
inductive LogLevel where
  | info
  | trace
  | debug
  | warn
  | error
  deriving DecidableEq, Repr, Inhabited

namespace LogLevel

/-- The name of a level. -/
def name : LogLevel → String
  | info => "INFO"
  | trace => "TRACE"
  | debug => "DEBUG"
  | warn => "WARN"
  | error => "ERROR"

/-- The upper-case letter of ASCII that a character stands for, or the character itself. -/
def letter (c : Char) : Char :=
  if c = 'ı' then 'I' else if c = 'ſ' then 'S' else c.toUpper

/-- The level of a name. -/
def ofName? (s : String) : Option LogLevel :=
  match String.ofList (s.toList.map letter) with
  | "INFO" => some info
  | "TRACE" => some trace
  | "DEBUG" => some debug
  | "WARN" | "WARNING" => some warn
  | "ERROR" => some error
  | _ => none

/-- The level of a name that may be missing. -/
def ofOption (s : Option String) : LogLevel := (s.bind ofName?).getD info

/-- The warning that a name gives, if it is not known. -/
def warning? (s : Option String) : Option String :=
  match s with
  | none => none
  | some s =>
    match ofName? s with
    | some _ => none
    | none => some ("Warning: Unknown log-level '" ++ s ++ "', defaulting to INFO")

end LogLevel

end Medallion
