/-! The options of the command line, and the values that they are given. -/

namespace SearchFilter.CommandLine

inductive Format where
  | text
  | json
deriving DecidableEq

def Format.ofName? (name : String) : Option Format :=
  if name = "text" then some text else if name = "json" then some json else none

inductive Colors where
  | auto
  | always
  | never
deriving DecidableEq

namespace Colors

def ofName? (name : String) : Option Colors :=
  if name = "auto" then some auto
  else if name = "always" then some always
  else if name = "never" then some never
  else none

/-- Left to itself a report has no colours, since it may go to a file. -/
def areOn : Colors → Bool
  | always => true
  | _ => false

end Colors

inductive LogLevel where
  | error
  | warn
  | info
  | debug
deriving DecidableEq

namespace LogLevel

def name : LogLevel → String
  | error => "error"
  | warn => "warn"
  | info => "info"
  | debug => "debug"

def of (verbose : Nat) (quiet : Bool) : LogLevel :=
  match quiet, verbose with
  | true, _ => error
  | false, 0 => warn
  | false, 1 => info
  | false, _ => debug

end LogLevel

inductive Verb where
  | compile
  | preview
  | explain
  | fields
deriving DecidableEq

namespace Verb

def name : Verb → String
  | compile => "compile"
  | preview => "preview"
  | explain => "explain"
  | fields => "fields"

def all : List Verb := [compile, preview, explain, fields]

def ofName? (name : String) : Option Verb := all.find? fun verb => verb.name == name

end Verb

inductive Setting where
  | config
  | format
  | output
  | color
  | verbose
  | quiet
  | compact
  | catalog
  | field
  | help
  | version
deriving DecidableEq

namespace Setting

def name : Setting → String
  | config => "config"
  | format => "format"
  | output => "output"
  | color => "color"
  | verbose => "verbose"
  | quiet => "quiet"
  | compact => "compact"
  | catalog => "catalog"
  | field => "field"
  | help => "help"
  | version => "version"

def all : List Setting :=
  [config, format, output, color, verbose, quiet, compact, catalog, field, help, version]

def letter? : Setting → Option Char
  | format => some 'F'
  | output => some 'o'
  | verbose => some 'v'
  | quiet => some 'q'
  | help => some 'h'
  | version => some 'V'
  | _ => none

def takesValue : Setting → Bool
  | config | format | output | color | catalog | field => true
  | _ => false

def isAllowed : Setting → Option Verb → Bool
  | compact, verb => verb == some .compile
  | catalog, verb | field, verb => verb == some .fields
  | version, verb => verb == none
  | _, _ => true

def ofName? (verb : Option Verb) (name : String) : Option Setting :=
  all.find? fun setting => setting.name == name && setting.isAllowed verb

def ofLetter? (verb : Option Verb) (letter : Char) : Option Setting :=
  all.find? fun setting => setting.letter? == some letter && setting.isAllowed verb

end Setting

end SearchFilter.CommandLine
