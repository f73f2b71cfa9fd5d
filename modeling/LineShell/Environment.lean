import LineShell.Text.Octets

/-!
# Environments

A program is started with an environment: strings that give variables their values.

## Main definitions

* `Environment.value?` — the value of a variable.
* `Environment.remove`, `Environment.put` — the environment without a variable, and with another
  value for one.
-/

namespace LineShell.Environment

/-- The name of the variable in an entry. -/
def nameOf (entry : Octets) : Octets := entry.takeWhile (· ≠ '=')

/-- The value of a variable. -/
def value? (name : Octets) (environment : List Octets) : Option Octets :=
  if name.contains '=' then none
  else (environment.find? fun entry => (name ++ ['=']).isPrefixOf entry).map
    (·.drop (name.length + 1))

/-- The environment without a variable. -/
def remove (name : Octets) (environment : List Octets) : List Octets :=
  environment.filter fun entry => nameOf entry ≠ name

/-- The environment with an entry in place of the one with the same name. -/
def put (entry : Octets) (environment : List Octets) : List Octets :=
  if environment.any fun other => nameOf other = nameOf entry then
    environment.map fun other => if nameOf other = nameOf entry then entry else other
  else environment ++ [entry]

end LineShell.Environment
