/-
Command lines of external tools: a program, its arguments and extra environment variables. A
command line is shown as it would be typed into a shell, the program first and each argument
that holds a space in double quotes.
-/
import BuildRecipe.Data.SortedMap
import BuildRecipe.Path

namespace BuildRecipe

/-- a command line: program, arguments and extra environment variables -/
structure Command where
  program : Path
  args : List String := []
  env : SortedMap String := {}
deriving Repr, Inhabited

namespace Command

/-- the command that runs `program` with no arguments -/
def new (program : Path) : Command := { program }

/-- the command with one more argument -/
def arg (c : Command) (a : String) : Command := { c with args := c.args ++ [a] }

/-- an argument as shown: in double quotes when it holds a space -/
def showArg (a : String) : String := if a.contains ' ' then "\"" ++ a ++ "\"" else a

/-- the command line as typed into a shell -/
def display (c : Command) : String := " ".intercalate (c.program.display :: c.args.map showArg)

end Command

end BuildRecipe
