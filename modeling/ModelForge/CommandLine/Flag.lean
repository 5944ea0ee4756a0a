import ModelForge.Path
import ModelForge.Report.Format
/-!
The flags of the command line: how they are written, how messages name them, and which values
they take.
-/

namespace ModelForge.CommandLine

inductive Flag
  | validate
  | generate
  | language
  | output
  | config
  | grammar
  | program
  | verbose
  | logFormat
  | reportFormat
  | help
  | version
  deriving DecidableEq, Repr

/-- The values that a flag takes. -/
inductive ValueKind
  | none
  /-- Any text, the empty one too. -/
  | text
  | path
  /-- The name of a format. -/
  | format
  deriving DecidableEq, Repr

namespace Flag

def all : List Flag :=
  [validate, generate, language, output, config, grammar, program, verbose, logFormat, reportFormat, help,
    version]

/-- The names behind two dashes. -/
def longNames : Flag → List String
  | validate => ["validate"]
  | generate => ["generate"]
  | language => ["langauge", "language"]
  | output => ["output"]
  | config => ["config"]
  | grammar => ["grammar"]
  | program => ["quicktype"]
  | verbose => ["verbose"]
  | logFormat => ["log-format"]
  | reportFormat => ["report-format"]
  | help => ["help"]
  | version => ["version"]

/-- The letter behind one dash. -/
def letter? : Flag → Option Char
  | validate => some 'v'
  | generate => some 'g'
  | language => some 'l'
  | output => some 'o'
  | help => some 'h'
  | version => some 'V'
  | _ => none

def valueKind : Flag → ValueKind
  | validate => .path
  | generate => .path
  | language => .text
  | output => .path
  | config => .path
  | grammar => .path
  | program => .path
  | verbose => .none
  | logFormat => .format
  | reportFormat => .format
  | help => .none
  | version => .none

/-- The flag as messages name it. -/
def shown : Flag → String
  | validate => "--validate <PATH>"
  | generate => "--generate <PATH>"
  | language => "--langauge <LANG>"
  | output => "--output <DIR>"
  | config => "--config <FILE>"
  | grammar => "--grammar <FILE>"
  | program => "--quicktype <PROGRAM>"
  | verbose => "--verbose..."
  | logFormat => "--log-format <LOG_FORMAT>"
  | reportFormat => "--report-format <REPORT_FORMAT>"
  | help => "--help"
  | version => "--version"

def ofLong? (name : String) : Option Flag := all.find? (·.longNames.contains name)

def ofLetter? (c : Char) : Option Flag := all.find? (·.letter? = some c)

end Flag

/-- What is wrong with a command line. -/
inductive UsageError
  | noMode
  | missingValue (flag : Flag)
  | repeated (flag : Flag)
  | conflict (first second : Flag)
  | unexpectedArgument (argument : String)
  | unexpectedValue (value : String) (flag : Flag)
  | invalidValue (value : String) (flag : Flag)
  deriving DecidableEq, Repr

namespace UsageError

def message : UsageError → String
  | noMode => "the following required arguments were not provided:"
  | missingValue f => "a value is required for '" ++ f.shown ++ "' but none was supplied"
  | repeated f => "the argument '" ++ f.shown ++ "' cannot be used multiple times"
  | conflict a b => "the argument '" ++ a.shown ++ "' cannot be used with '" ++ b.shown ++ "'"
  | unexpectedArgument a => "unexpected argument '" ++ a ++ "' found"
  | unexpectedValue v f => "unexpected value '" ++ v ++ "' for '" ++ f.shown ++ "' found; no more were expected"
  | invalidValue v f => "invalid value '" ++ v ++ "' for '" ++ f.shown ++ "'"

end UsageError

end ModelForge.CommandLine
