/-
Walking a file tree. A walk starts at one path, visits it first, and then, depth first, every
entry below it, the entries of each directory by name in ascending order; directories at the
depth limit are visited but not entered. A step runs at every visit and may change the tree:
the entries of a directory are those it holds when the walk visits it.
-/
import BuildRecipe.FileTree

namespace BuildRecipe

/-- an entry met by a walk: its path, its depth below the start, and what is there (nothing when
the start itself cannot be read) -/
structure Visit where
  path : Path
  depth : Nat
  entry : Option Entry
deriving Repr, Inhabited

namespace FileTree

/-- the visits of the entries directly inside the directory at `p`, one level deeper -/
def listing (t : FileTree) (p : Path) (depth : Nat) : List Visit :=
  match t.locate p with
  | .ok names => (t.children names).map fun (n, e) => ⟨p.join ⟨n⟩, depth, some e⟩
  | .error _ => []

/-- the visit of a walk's start -/
def startVisit (t : FileTree) (p : Path) : Visit :=
  ⟨p, 0, (t.stat p).toOption⟩

/-- runs a walk over the pending visits, a stack of sibling lists, for at most `fuel` visits:
each visit runs `step`, which may end the walk, and a directory above the depth limit has its
entries, as they are before the step, put on top -/
def walkLoop {σ : Type} (files : σ → FileTree) (maxDepth : Nat)
    (step : Visit → σ → ForInStep σ) : Nat → List (List Visit) → σ → σ
  | 0, _, s => s
  | _, [], s => s
  | fuel + 1, [] :: rest, s => walkLoop files maxDepth step (fuel + 1) rest s
  | fuel + 1, (v :: vs) :: rest, s =>
    let below : List Visit :=
      match v.entry with
      | some .directory => if v.depth < maxDepth then (files s).listing v.path (v.depth + 1) else []
      | _ => []
    match step v s with
    | .done s' => s'
    | .yield s' => walkLoop files maxDepth step fuel (below :: vs :: rest) s'
termination_by fuel stack => (fuel, stack.length)

/-- walks from `start`, running `step` at every visit, for at most `fuel` visits -/
def walk {σ : Type} (files : σ → FileTree) (maxDepth : Nat) (step : Visit → σ → ForInStep σ)
    (start : Path) (fuel : Nat) (s : σ) : σ :=
  walkLoop files maxDepth step fuel [[(files s).startVisit start]] s

end FileTree

end BuildRecipe
