/-
  Why a command line is not run: a mistake in it, or because it asks for the help or the version.
  A mistake names the argument it is about.
-/

namespace ChangeLog.Command

/-- Why a command line is not run. -/
inductive UsageError where
  | unknownArgument (text : String)
  | unknownCommand (text : String)
  | missingValue (name : String)
  | badValue (name text : String)
  | notOffered (name text : String)
  | unwantedValue (name : String)
  | repeated (name : String)
  | missingArgument (name : String)
  | missingCommand
  | nothingGiven
  | helpAsked
  | versionAsked
deriving DecidableEq, Repr

namespace UsageError

/-- The words for a refusal; what is asked for instead of a command goes without. -/
def message : UsageError → String
  | .unknownArgument text => "unexpected argument '" ++ text ++ "'"
  | .unknownCommand text => "unknown command '" ++ text ++ "'"
  | .missingValue name => "a value is needed for '" ++ name ++ "'"
  | .badValue name text => "invalid value '" ++ text ++ "' for '" ++ name ++ "'"
  | .notOffered name text => "'" ++ text ++ "' is not one of the values of '" ++ name ++ "'"
  | .unwantedValue name => "'" ++ name ++ "' takes no value"
  | .repeated name => "'" ++ name ++ "' is given more than once"
  | .missingArgument name => "'" ++ name ++ "' is missing"
  | .missingCommand => "a command is missing"
  | .nothingGiven | .helpAsked | .versionAsked => ""

end UsageError
end ChangeLog.Command
