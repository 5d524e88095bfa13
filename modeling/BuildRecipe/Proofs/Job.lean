/-
Running jobs. A job runs on a workspace to an outcome and the workspace it leaves (`Job.run`).
The equations below say what each primitive and each combinator does there, so that a proof
follows a job step by step and never unfolds the monad:
- `run_bind`: the second part runs only when the first succeeds, from where the first left the
  workspace; a failure is passed on with the workspace as the failing part left it;
- `run_attempt`: a failure becomes a value, and nothing the job did is undone;
- the file, environment and journal primitives each change the one part of the workspace they
  name.

The environment frame (`KeepsEnv`): a job that never sets a variable leaves every variable as it
found it. Every primitive but `setEnv` keeps the environment, and binds, loops, contexts and
attempts keep it, so every file operation of the library does.
-/
import BuildRecipe.Proofs.SortedMap
import BuildRecipe.Workspace

namespace BuildRecipe.Job

variable {α β : Type}

/-! ## Running the combinators -/

@[simp] theorem run_pure (a : α) (w : Workspace) : (pure a : Job α).run w = (.ok a, w) := rfl

theorem run_bind (x : Job α) (f : α → Job β) (w : Workspace) :
    (x >>= f).run w = match x.run w with
      | (.ok a, w') => (f a).run w'
      | (.error e, w') => (.error e, w') := by
  unfold Job.run
  simp only [ExceptT.run_bind, StateT.run_bind]
  rcases (ExceptT.run x).run w with ⟨r, w'⟩
  cases r <;> rfl

theorem run_bind_ok {x : Job α} {w w' : Workspace} {a : α} (h : x.run w = (.ok a, w'))
    (f : α → Job β) : (x >>= f).run w = (f a).run w' := by
  rw [run_bind, h]

theorem run_bind_error {x : Job α} {w w' : Workspace} {e : Failure} (h : x.run w = (.error e, w'))
    (f : α → Job β) : (x >>= f).run w = (.error e, w') := by
  rw [run_bind, h]

@[simp] theorem run_fail (f : Failure) (w : Workspace) : (fail f : Job α).run w = (.error f, w) :=
  rfl

@[simp] theorem run_throw (f : Failure) (w : Workspace) : (throw f : Job α).run w = (.error f, w) :=
  rfl

@[simp] theorem run_attempt (j : Job α) (w : Workspace) :
    (attempt j).run w = (.ok (j.run w).1, (j.run w).2) := by
  unfold Job.run Job.attempt
  simp only [ExceptT.run_tryCatch, ExceptT.run_map, StateT.run_bind, StateT.run_map]
  rcases (ExceptT.run j).run w with ⟨r, w'⟩
  cases r <;> rfl

@[simp] theorem run_context (line : String) (j : Job α) (w : Workspace) :
    (context line j).run w = ((j.run w).1.mapError (·.withContext line), (j.run w).2) := by
  unfold Job.run Job.context
  simp only [ExceptT.run_tryCatch, StateT.run_bind]
  rcases (ExceptT.run j).run w with ⟨r, w'⟩
  cases r <;> rfl

@[simp] theorem run_ofOutcome (r : Outcome α) (w : Workspace) : (ofOutcome r).run w = (r, w) := by
  cases r <;> rfl

@[simp] theorem run_ofOs (r : Except OsError α) (w : Workspace) :
    (ofOs r).run w = (r.mapError fun e => Failure.of (.os e), w) := by
  cases r <;> rfl

/-! ## Running the primitives -/

@[simp] theorem run_getEnv (k : String) (w : Workspace) :
    (getEnv k).run w = (.ok (w.env.get? k), w) := rfl

@[simp] theorem run_setEnv (k : String) (v : Option String) (w : Workspace) :
    (setEnv k v).run w =
      (.ok (), { w with env := match v with | some s => w.env.insert k s | none => w.env.erase k }) :=
  rfl

theorem env_setEnv_get? (k : String) (v : Option String) (w : Workspace) (k' : String) :
    ((setEnv k v).run w).2.env.get? k' = if k' = k then v else w.env.get? k' := by
  cases v <;> simp

@[simp] theorem run_record (e : Event) (w : Workspace) :
    (record e).run w = (.ok (), { w with journal := w.journal ++ [e] }) := rfl

@[simp] theorem run_files (w : Workspace) : files.run w = (.ok w.files, w) := rfl

@[simp] theorem run_setFiles (t : FileTree) (w : Workspace) :
    (setFiles t).run w = (.ok (), { w with files := t }) := rfl

/-! ## The environment frame -/

/-- the job leaves every environment variable as it found it -/
def KeepsEnv (j : Job α) : Prop := ∀ w, (j.run w).2.env = w.env

theorem keepsEnv_pure (a : α) : KeepsEnv (pure a : Job α) := fun _ => rfl

theorem keepsEnv_fail (f : Failure) : KeepsEnv (fail f : Job α) := fun _ => rfl

theorem KeepsEnv.bind {x : Job α} {f : α → Job β} (hx : KeepsEnv x) (hf : ∀ a, KeepsEnv (f a)) :
    KeepsEnv (x >>= f) := by
  intro w
  rw [run_bind]
  rcases h : x.run w with ⟨r, w'⟩
  have hw' : w'.env = w.env := by simpa [h] using hx w
  cases r with
  | error e => exact hw'
  | ok a => exact (hf a w').trans hw'

theorem KeepsEnv.attempt {j : Job α} (hj : KeepsEnv j) : KeepsEnv (attempt j) := by
  intro w
  simpa using hj w

theorem KeepsEnv.context {j : Job α} (hj : KeepsEnv j) (line : String) :
    KeepsEnv (context line j) := by
  intro w
  simpa using hj w

theorem keepsEnv_ofOutcome (r : Outcome α) : KeepsEnv (ofOutcome r) := fun w => by simp

theorem keepsEnv_ofOs (r : Except OsError α) : KeepsEnv (ofOs r) := fun w => by simp

theorem keepsEnv_getEnv (k : String) : KeepsEnv (getEnv k) := fun _ => rfl

theorem keepsEnv_record (e : Event) : KeepsEnv (record e) := fun _ => rfl

theorem keepsEnv_files : KeepsEnv files := fun _ => rfl

theorem keepsEnv_setFiles (t : FileTree) : KeepsEnv (setFiles t) := fun _ => rfl

theorem KeepsEnv.forM {l : List α} {f : α → Job Unit} (hf : ∀ a, KeepsEnv (f a)) :
    KeepsEnv (l.forM f) := by
  induction l with
  | nil => exact keepsEnv_pure ()
  | cons a rest ih => exact (hf a).bind fun _ => ih

theorem KeepsEnv.foldlM {l : List α} {f : β → α → Job β} (hf : ∀ b a, KeepsEnv (f b a)) (b : β) :
    KeepsEnv (l.foldlM f b) := by
  induction l generalizing b with
  | nil => exact keepsEnv_pure b
  | cons a rest ih =>
    rw [List.foldlM_cons]
    exact (hf b a).bind ih

/-! ### The file operations keep the environment -/

theorem keepsEnv_readFile (p : Path) : KeepsEnv (readFile p) :=
  keepsEnv_files.bind fun _ => keepsEnv_ofOs _

theorem keepsEnv_writeFile (p : Path) (content : String) : KeepsEnv (writeFile p content) :=
  keepsEnv_files.bind fun _ => (keepsEnv_ofOs _).bind fun t' => keepsEnv_setFiles t'

theorem keepsEnv_createDirAll (p : Path) : KeepsEnv (createDirAll p) :=
  keepsEnv_files.bind fun _ => (keepsEnv_ofOs _).bind fun t' => keepsEnv_setFiles t'

theorem keepsEnv_copyFile (src dst : Path) : KeepsEnv (copyFile src dst) :=
  keepsEnv_files.bind fun _ => (keepsEnv_ofOs _).bind fun t' => keepsEnv_setFiles t'

theorem keepsEnv_pathExists (p : Path) : KeepsEnv (pathExists p) :=
  keepsEnv_files.bind fun _ => keepsEnv_pure _

theorem keepsEnv_isFile (p : Path) : KeepsEnv (isFile p) :=
  keepsEnv_files.bind fun _ => keepsEnv_pure _

theorem keepsEnv_isDir (p : Path) : KeepsEnv (isDir p) :=
  keepsEnv_files.bind fun _ => keepsEnv_pure _

theorem keepsEnv_ensureDir (p : Path) : KeepsEnv (ensureDir p) := by
  refine (keepsEnv_pathExists p).bind fun b => ?_
  cases b
  · exact (keepsEnv_createDirAll p).context _
  · exact keepsEnv_pure ()

theorem keepsEnv_writeText (p : Path) (content : String) : KeepsEnv (writeText p content) := by
  unfold writeText
  cases p.parent? with
  | none => exact (keepsEnv_writeFile p content).context _
  | some parent => exact (keepsEnv_ensureDir parent).bind fun _ => (keepsEnv_writeFile p content).context _

theorem keepsEnv_copyTo (src dst : Path) : KeepsEnv (copyTo src dst) := by
  unfold copyTo
  cases dst.parent? with
  | none => exact (keepsEnv_copyFile src dst).context _
  | some parent => exact (keepsEnv_ensureDir parent).bind fun _ => (keepsEnv_copyFile src dst).context _

/-! ## What a job returns -/

/-- every run of the job that succeeds returns `a` -/
def Returns (j : Job α) (a : α) : Prop := ∀ w b w', j.run w = (.ok b, w') → b = a

theorem returns_pure (a : α) : Returns (pure a : Job α) a := fun w b w' h => by
  rw [run_pure] at h
  cases h
  rfl

/-- a job returns what its last part returns, whatever the first part does -/
theorem Returns.bind (x : Job β) {f : β → Job α} {a : α} (hf : ∀ v, Returns (f v) a) :
    Returns (x >>= f) a := fun w b w' h => by
  rw [run_bind] at h
  split at h
  · exact hf _ _ _ _ h
  · cases h

/-- a fold of jobs that each return what a pure step gives returns the pure fold -/
theorem Returns.foldlM {step : β → α → Job β} {f : β → α → β}
    (hstep : ∀ b a, Returns (step b a) (f b a)) (l : List α) (b : β) :
    Returns (l.foldlM step b) (l.foldl f b) := by
  induction l generalizing b with
  | nil => exact returns_pure b
  | cons a rest ih =>
    intro w b' w' h
    rw [List.foldlM_cons, run_bind] at h
    rcases hs : (step b a).run w with ⟨_ | b₁, w₁⟩ <;> rw [hs] at h
    · cases h
    · rw [List.foldl_cons, ← hstep b a w b₁ w₁ hs]
      exact ih b₁ w₁ b' w' h

/-! ## Loop invariants -/

/-- a fold of jobs over `l` succeeds and ends in `I l` when each step, from `I` of the items
before it, succeeds and gives `I` of the items up to it: whatever the fold's run gives is such a
success -/
theorem run_foldlM_of_invariant {l : List α} {step : β → α → Job β}
    (I : List α → β → Workspace → Prop)
    (hstep : ∀ pre a rest b w, pre ++ a :: rest = l → I pre b w →
      ∃ b' w', (step b a).run w = (.ok b', w') ∧ I (pre ++ [a]) b' w')
    {b : β} {w : Workspace} (h0 : I [] b w) {r : Outcome β} {w' : Workspace}
    (hrun : (l.foldlM step b).run w = (r, w')) : ∃ b', r = .ok b' ∧ I l b' w' := by
  -- induction on the items still to fold, which follow the items folded
  suffices ∀ rest pre b w, pre ++ rest = l → I pre b w →
      ∃ b' w', (rest.foldlM step b).run w = (.ok b', w') ∧ I l b' w' by
    obtain ⟨b', w'', hrun', hI⟩ := this l [] b w rfl h0
    rw [hrun] at hrun'
    cases hrun'
    exact ⟨b', rfl, hI⟩
  intro rest
  induction rest with
  | nil =>
    intro pre b w hl h
    exact ⟨b, w, rfl, by simpa [← hl] using h⟩
  | cons a rest ih =>
    intro pre b w hl h
    obtain ⟨b₁, w₁, hrun, h₁⟩ := hstep pre a rest b w hl h
    obtain ⟨b', w', hrest, h'⟩ := ih (pre ++ [a]) b₁ w₁ (by simpa using hl) h₁
    exact ⟨b', w', by rw [List.foldlM_cons, run_bind, hrun]; exact hrest, h'⟩

end BuildRecipe.Job
