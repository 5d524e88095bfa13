/-
Target platforms: the operating system and the processor architecture. Both are read from any
text: the recognised spellings (compared with ASCII letters case-folded) become their canonical
variant, and every other text is kept verbatim as an `other` platform.
-/
import BuildRecipe.Text.Case

namespace BuildRecipe

/-- a target operating system -/
inductive Os where
  | linux
  | macos
  | windows
  | other (name : String)
deriving DecidableEq, Repr, Inhabited

namespace Os

/-- the recognised spellings, lower-case, with the system each names -/
def spellings : List (String × Os) :=
  [("linux", .linux), ("macos", .macos), ("darwin", .macos), ("windows", .windows)]

/-- reads an operating system; unknown spellings are kept as they are -/
def parse (s : String) : Os := Text.readSpelling spellings .other s

/-- the display name -/
def name : Os → String
  | .linux => "Linux"
  | .macos => "Macos"
  | .windows => "Windows"
  | .other s => s

/-- the operating system assumed when none is given: that of the host, Linux -/
def host : Os := .linux

end Os

/-- a target processor architecture -/
inductive Arch where
  | x86
  | x86_64
  | armv8
  | other (name : String)
deriving DecidableEq, Repr, Inhabited

namespace Arch

/-- the recognised spellings, lower-case, with the architecture each names -/
def spellings : List (String × Arch) :=
  [("x86", .x86), ("i686", .x86), ("x86_64", .x86_64), ("amd64", .x86_64), ("armv8", .armv8),
    ("aarch64", .armv8), ("arm64", .armv8)]

/-- reads an architecture; unknown spellings are kept as they are -/
def parse (s : String) : Arch := Text.readSpelling spellings .other s

/-- the display name -/
def name : Arch → String
  | .x86 => "x86"
  | .x86_64 => "x86_64"
  | .armv8 => "armv8"
  | .other s => s

/-- the architecture assumed when none is given: that of the host, x86_64 -/
def host : Arch := .x86_64

end Arch

end BuildRecipe
