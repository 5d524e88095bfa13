/-
The hooks after the build. A dispatch after the build makes one call for each of the package's
hooks that has a destination recorded under its id, with that destination, in registration order
(`postCalls`). It runs every call, each from the workspace the one before left, whatever the
outcome of the one before (`runCalls`, `run_postBuildGo`): a failure stops nothing, and the
dispatch leaves the workspace the last call leaves. It succeeds exactly when every call did;
otherwise it fails with the first failure, under the line naming its hook, and charged to that
hook as a hook-side-effect failure with the failure's whole message, unless the failure carries a
recipe error already (`firstCharged_eq_none_iff`, `firstCharged_of_first`).

Main statement: `Hook.Registry.dispatchPostBuild_runs_every_call`.
-/
import BuildRecipe.Proofs.Job
import BuildRecipe.Hook.Registry

namespace BuildRecipe.Hook.Registry

open Job

/-! ## The calls and their run -/

/-- the calls a dispatch after the build makes for a list of hooks: each hook with a destination
recorded under its id, with that destination, in order -/
def callsOf (c : Context) (hooks : List Hook) : List (Hook × Path) :=
  hooks.filterMap fun h => (c.destination? h.id).map (h, ·)

/-- the calls of a dispatch after the build: the package's hooks that have a destination -/
def postCalls (r : Registry) (c : Context) : List (Hook × Path) :=
  callsOf c (r.hooksFor c.identity.name)

/-- runs post-build calls one after another, each from the workspace the one before left,
whatever its outcome: each call's hook with the outcome of the call, and the last workspace -/
def runCalls (c : Context) : List (Hook × Path) → Workspace → List (Hook × Outcome Unit) × Workspace
  | [], w => ([], w)
  | call :: rest, w =>
    let first := (call.1.postBuild c call.2).run w
    let after := runCalls c rest first.2
    ((call.1, first.1) :: after.1, after.2)

/-- the first failure among the outcomes of calls, under the line naming its hook, charged to the
hook -/
def firstCharged : List (Hook × Outcome Unit) → Option Failure
  | [] => none
  | o :: rest =>
    match o.2 with
    | .ok () => firstCharged rest
    | .error f => some (asHookFailure o.1.id (f.withContext ("post-build hook `" ++ o.1.id ++ "`")))

section Calls

variable (c : Context) {h : Hook} {rest : List Hook}

theorem callsOf_cons_none (hd : c.destination? h.id = none) : callsOf c (h :: rest) = callsOf c rest := by
  simp [callsOf, hd]

theorem callsOf_cons_some {d : Path} (hd : c.destination? h.id = some d) :
    callsOf c (h :: rest) = (h, d) :: callsOf c rest := by
  simp [callsOf, hd]

/-- the calls are the hooks with a destination, in order -/
theorem map_fst_callsOf (hooks : List Hook) :
    (callsOf c hooks).map Prod.fst = hooks.filter fun h => (c.destination? h.id).isSome := by
  induction hooks with
  | nil => rfl
  | cons h rest ih =>
    cases hd : c.destination? h.id with
    | none => simp [callsOf_cons_none c hd, ih, hd]
    | some d => simp [callsOf_cons_some c hd, ih, hd]

/-- each call passes the destination recorded under its hook's id -/
theorem destination?_of_mem_callsOf {hooks : List Hook} {call : Hook × Path}
    (hcall : call ∈ callsOf c hooks) : c.destination? call.1.id = some call.2 := by
  obtain ⟨h, -, hmap⟩ := List.mem_filterMap.mp hcall
  obtain ⟨d, hd, rfl⟩ := Option.map_eq_some_iff.mp hmap
  exact hd

end Calls

/-! ## The first failure -/

/-- there is no failure to report exactly when every call succeeded -/
theorem firstCharged_eq_none_iff (os : List (Hook × Outcome Unit)) :
    firstCharged os = none ↔ ∀ o ∈ os, o.2 = .ok () := by
  induction os with
  | nil => simp [firstCharged]
  | cons o rest ih =>
    obtain ⟨h, _ | _⟩ := o
    · simp [firstCharged]
    · simp [firstCharged, ih]

/-- the failure reported is that of the first call that failed -/
theorem firstCharged_of_first {pre post : List (Hook × Outcome Unit)} {h : Hook} {f : Failure}
    (hpre : ∀ o ∈ pre, o.2 = .ok ()) :
    firstCharged (pre ++ (h, .error f) :: post) =
      some (asHookFailure h.id (f.withContext ("post-build hook `" ++ h.id ++ "`"))) := by
  induction pre with
  | nil => rfl
  | cons o pre ih =>
    obtain ⟨h', o'⟩ := o
    have hok : o' = .ok () := hpre _ (.head _)
    subst hok
    exact ih fun o ho => hpre o (.tail _ ho)

/-! ## One hook of a dispatch, then the whole run -/

section Step

variable {c : Context} {h : Hook} {rest : List Hook} {first : Option Failure} {w : Workspace}

/-- a hook without a destination is passed over -/
theorem run_postBuildGo_none (hd : c.destination? h.id = none) :
    (dispatchPostBuild.go c (h :: rest) first).run w = (dispatchPostBuild.go c rest first).run w := by
  simp only [dispatchPostBuild.go, hd]

/-- a hook with a destination is called with it; its failure, if it is the first, is kept -/
theorem run_postBuildGo_some {d : Path} (hd : c.destination? h.id = some d) :
    (dispatchPostBuild.go c (h :: rest) first).run w =
      (dispatchPostBuild.go c rest (first <|> firstCharged [(h, ((h.postBuild c d).run w).1)])).run
        ((h.postBuild c d).run w).2 := by
  rw [dispatchPostBuild.go]
  simp only [hd, run_bind, run_attempt, run_context]
  rcases (h.postBuild c d).run w with ⟨_ | _, w₁⟩
  · rfl
  · cases first <;> rfl

end Step

/-- the dispatch loop runs every call from where the one before left the workspace, and gives
the failure it started with, else the first failure of the calls -/
theorem run_postBuildGo (c : Context) (hooks : List Hook) (first : Option Failure) (w : Workspace) :
    (dispatchPostBuild.go c hooks first).run w =
      (.ok (first <|> firstCharged (runCalls c (callsOf c hooks) w).1),
        (runCalls c (callsOf c hooks) w).2) := by
  induction hooks generalizing first w with
  | nil => cases first <;> rfl
  | cons h rest ih =>
    cases hd : c.destination? h.id with
    | none => rw [run_postBuildGo_none hd, callsOf_cons_none c hd, ih]
    | some d =>
      rw [run_postBuildGo_some hd, callsOf_cons_some c hd, ih]
      -- the first failure is the one carried in, else this call's, else a later one's
      rcases hcall : (h.postBuild c d).run w with ⟨_ | _, w₁⟩ <;> cases first <;>
        simp [runCalls, hcall, firstCharged]

/-- a dispatch after the build is its loop from no failure, then the failure found, if any -/
theorem run_dispatchPostBuild (r : Registry) (c : Context) (w : Workspace) :
    (r.dispatchPostBuild c).run w =
      ((firstCharged (runCalls c (postCalls r c) w).1).elim (.ok ()) .error,
        (runCalls c (postCalls r c) w).2) := by
  rw [dispatchPostBuild, run_bind, run_postBuildGo, postCalls]
  rcases runCalls c (callsOf c (r.hooksFor c.identity.name)) w with ⟨os, w'⟩
  cases firstCharged os <;> rfl

/-- **A dispatch after the build runs every call and reports the first failure.**
The calls are the package's hooks that have a destination recorded under their id, in
registration order, each with that destination. They all run, each from the workspace the one
before left whatever its outcome, and the dispatch leaves the workspace the last one leaves. It
succeeds exactly when every call succeeded; otherwise it fails with the first call's failure,
under the line `post-build hook <id>`: as it is when it carries a recipe error, else as a
hook-side-effect failure of that hook whose message is the whole message of the failure under the
line. -/
theorem dispatchPostBuild_runs_every_call (r : Registry) (c : Context) (w : Workspace) :
    let calls := postCalls r c
    let run := runCalls c calls w
    calls.map Prod.fst = (r.hooksFor c.identity.name).filter (fun h => (c.destination? h.id).isSome) ∧
    (∀ call ∈ calls, c.destination? call.1.id = some call.2) ∧
    ((r.dispatchPostBuild c).run w).2 = run.2 ∧
    (((r.dispatchPostBuild c).run w).1 = .ok () ↔ ∀ o ∈ run.1, o.2 = .ok ()) ∧
    ∀ pre h f post, run.1 = pre ++ (h, .error f) :: post → (∀ o ∈ pre, o.2 = .ok ()) →
      ((r.dispatchPostBuild c).run w).1 = .error
        (if (f.recipeError?).isSome then f.withContext ("post-build hook `" ++ h.id ++ "`")
        else .recipe (.hookSideEffectFailure h.id
          (f.withContext ("post-build hook `" ++ h.id ++ "`")).message)) := by
  intro calls run
  refine ⟨map_fst_callsOf c _, fun call hcall => destination?_of_mem_callsOf c hcall,
    by rw [run_dispatchPostBuild], ?_, fun pre h f post hsplit hpre => ?_⟩
  · rw [run_dispatchPostBuild, ← firstCharged_eq_none_iff]
    cases firstCharged run.1 <;> simp
  · -- the first failure under the line, kept when it carries a recipe error, else charged
    rw [run_dispatchPostBuild, hsplit, firstCharged_of_first hpre]
    rcases f with ⟨context, _ | _ | _ | _ | _ | _⟩ <;> rfl

/-- a failing first hook does not stop the second: both calls run, and the failure reported is
the first one, charged to its hook under the line naming it -/
theorem failing_post_hook_does_not_stop_others :
    let r : Registry := ⟨[(defaultTarget, .scripted "first" (some "first") false true),
      (defaultTarget, .scripted "second" (some "second") false false)]⟩
    let c : Context := { Context.new { (default : Package.Identity) with name := defaultTarget }
      ⟨"/repo"⟩ ⟨"/repo/build"⟩ with
      destinations := SortedMap.ofList [("first", ⟨"/repo/first"⟩), ("second", ⟨"/repo/second"⟩)] }
    ((r.dispatchPostBuild c).run {}).2.journal =
        [.note "post:first:/repo/first", .note "post:second:/repo/second"] ∧
      ((r.dispatchPostBuild c).run {}).1 =
        .error (.recipe (.hookSideEffectFailure "first" "post-build hook `first`: disk full")) := by
  intro r c
  obtain ⟨-, -, hw, -, hfirst⟩ := dispatchPostBuild_runs_every_call r c {}
  have hrun : (runCalls c (postCalls r c) {}).1 =
      [] ++ (.scripted "first" (some "first") false true, .error (.msg "disk full")) ::
        [(.scripted "second" (some "second") false false, .ok ())] := rfl
  refine ⟨by rw [hw]; rfl, ?_⟩
  rw [hfirst [] _ _ _ hrun (by simp)]
  rfl

end BuildRecipe.Hook.Registry
