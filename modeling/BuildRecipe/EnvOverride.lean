/-
Scoped changes of environment variables. Applying a set of overrides (a value sets a variable,
none removes it) saves the value each key had; restoring puts the saved values back, last key
first, so that a key listed twice ends at the value it had before. A job run under overrides has
them restored whether it succeeds or fails.
-/
import BuildRecipe.Workspace

namespace BuildRecipe

/-- the values that overridden variables had before, in the order they were overridden -/
structure EnvOverride where
  saved : List (String × Option String)
deriving Repr, Inhabited

namespace EnvOverride

/-- applies overrides in order, saving each key's value first -/
def apply (overrides : List (String × Option String)) : Job EnvOverride := do
  let saved ← overrides.mapM fun (key, value) => do
    let before ← Job.getEnv key
    Job.setEnv key value
    pure (key, before)
  pure ⟨saved⟩

/-- the keys the override will restore -/
def keys (g : EnvOverride) : List String := g.saved.map (·.1)

/-- puts the saved values back, last key first -/
def restore (g : EnvOverride) : Job Unit :=
  g.saved.reverse.forM fun (key, before) => Job.setEnv key before

end EnvOverride

/-- runs a job with environment overrides in place, restoring them afterwards -/
def withEnv {α : Type} (overrides : List (String × Option String)) (j : Job α) : Job α := do
  let g ← EnvOverride.apply overrides
  let r ← Job.attempt j
  g.restore
  Job.ofOutcome r

end BuildRecipe
