/-!
# Why a command line is not run

A command line that is refused, or that asks for help only, has one of these
faults.
-/

namespace StreamWarden.CommandLine

/-- Why a command line is not run. -/
inductive Fault where
  /-- It asks for help. -/
  | help
  /-- It asks for the version. -/
  | version
  /-- It says nothing at all. -/
  | empty
  /-- It names no command. -/
  | noCommand
  /-- A word stands where a command should, and is none. -/
  | unknownCommand
  /-- The command lacks a value that it needs. -/
  | missingValue
  /-- An option or a word has no meaning here. -/
  | unknownWord
  /-- A value is missing, empty, or none of the values to choose from. -/
  | unfitValue
  /-- A value cannot be read. -/
  | unreadableValue
  /-- A value is given twice. -/
  | repeated
  /-- A value is given to an option that takes none. -/
  | needlessValue
  deriving DecidableEq, Repr

namespace Fault

/-- The label of a fault. -/
def label : Fault → String
  | .help => "DisplayHelp"
  | .version => "DisplayVersion"
  | .empty => "DisplayHelpOnMissingArgumentOrSubcommand"
  | .noCommand => "MissingSubcommand"
  | .unknownCommand => "InvalidSubcommand"
  | .missingValue => "MissingRequiredArgument"
  | .unknownWord => "UnknownArgument"
  | .unfitValue => "InvalidValue"
  | .unreadableValue => "ValueValidation"
  | .repeated => "ArgumentConflict"
  | .needlessValue => "TooManyValues"

/-- The exit code of a program that ends with a fault; to be asked for help or
for the version is no failure. -/
def exitCode : Fault → Nat
  | .help | .version => 0
  | _ => 2

end Fault

end StreamWarden.CommandLine
