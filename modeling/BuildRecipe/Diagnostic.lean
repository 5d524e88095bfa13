/-
Diagnostics: a headline (`error: ...` or `warning: ...`) followed by an optional location, context
lines and numbered suggestions. With colour the labels are wrapped in ANSI escape sequences
(bold red, bold yellow, bold green for `help`); without colour the text is plain.
-/

namespace BuildRecipe

/-- how serious a diagnostic is -/
inductive Severity where
  | error
  | warning
deriving DecidableEq, Repr, Inhabited

/-- the label of a severity, coloured or plain -/
def Severity.label : Severity → Bool → String
  | .error, true => "\x1b[1;31merror\x1b[0m"
  | .error, false => "error"
  | .warning, true => "\x1b[1;33mwarning\x1b[0m"
  | .warning, false => "warning"

/-- a message for the user, with where it happened, why, and what to try -/
structure Diagnostic where
  message : String
  severity : Severity := .error
  context : List String := []
  suggestions : List String := []
  location : Option String := none
deriving Repr, Inhabited

namespace Diagnostic

/-- an error diagnostic with nothing but its message -/
def error (message : String) : Diagnostic := { message }

/-- a warning diagnostic with nothing but its message -/
def warning (message : String) : Diagnostic := { message, severity := .warning }

/-- the diagnostic with one more context line -/
def withContext (d : Diagnostic) (line : String) : Diagnostic :=
  { d with context := d.context ++ [line] }

/-- the diagnostic with one more suggestion -/
def withSuggestion (d : Diagnostic) (line : String) : Diagnostic :=
  { d with suggestions := d.suggestions ++ [line] }

/-- the diagnostic pointing at a file -/
def withLocation (d : Diagnostic) (path : String) : Diagnostic :=
  { d with location := some path }

/-- the numbered suggestion lines, counting from `start` -/
def numbered : Nat → List String → String
  | _, [] => ""
  | i, s :: rest => "  " ++ toString i ++ ". " ++ s ++ "\n" ++ numbered (i + 1) rest

/-- everything after the headline: location, context lines, then the suggestions -/
def details (d : Diagnostic) (color : Bool) : String :=
  let loc := match d.location with
    | some p => "  --> " ++ p ++ "\n"
    | none => ""
  let ctx := String.join (d.context.map fun c => "  = " ++ c ++ "\n")
  let help := if d.suggestions.isEmpty then "" else
    "\n" ++ (if color then "\x1b[1;32mhelp\x1b[0m" else "help") ++ ": consider:\n" ++
      numbered 1 d.suggestions
  loc ++ ctx ++ help

/-- the whole diagnostic: the headline, then its details -/
def format (d : Diagnostic) (color : Bool) : String :=
  d.severity.label color ++ ": " ++ d.message ++ "\n" ++ d.details color

end Diagnostic

end BuildRecipe
