/-!
# Secrets

Connection strings are secrets, named by a vault and a name.  The environment holds a
secret in a variable whose name is made of both: letters and digits of ASCII in upper case,
everything else an underscore, and two underscores between the parts.
-/

namespace Medallion

/-- Who knows secrets; the error says in words why there is none. -/
abbrev SecretStore := (vault name : String) → Except String String

/-- The variables of the environment. -/
abbrev Environment := List (String × String)

namespace SecretStore

/-- The character of a variable's name that a character becomes. -/
def variableChar (c : Char) : Char := if c.isAlphanum then c.toUpper else '_'

/-- The part of a variable's name that a text becomes. -/
def variablePart (s : String) : String := String.ofList (s.toList.map variableChar)

/-- The variable that holds a secret. -/
def variableName (vault name : String) : String :=
  variablePart vault ++ "__" ++ variablePart name

/-- The secrets that the environment holds. -/
def ofEnvironment (env : Environment) : SecretStore := fun vault name =>
  let var := variableName vault name
  match env.lookup var with
  | none => .error (var ++ ": environment variable not found")
  | some value => if value = "" then .error (var ++ " is empty") else .ok value

end SecretStore

end Medallion
