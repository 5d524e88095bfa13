/-
Hook registration and the hooks before the build. Registration keeps the pair of package and
hook id unique (`Registry.UniqueKeys`): `register` refuses a pair that is there, `registerFor`
first refuses a text that is no package name, and a refused call changes nothing; the built-in
registry holds two hooks of one package with distinct ids. So every registry built by calls from
the empty one or the built-in one has unique pairs (`Registry.uniqueKeys_applyAll`).

With unique ids, a dispatch from a context with no destinations is the plain run of the
package's hooks in registration order (`Registry.dispatchPreBuild_eq_preBuildAll`): the first
failure stops it, and each destination is recorded under its hook's id, the set-once check never
refusing. A second dispatch on the context a successful one left fails at the first hook that
computes a destination, charged to that hook, and gives the context back as it was
(`Registry.dispatchPreBuild_again`). The built-in hooks make the folder of their CI directory and
give it (`run_preBuild_builtin`).

Main statement: `Hook.Registry.registrations_unique_and_dispatch_records_once`.
-/
import Mathlib.Data.List.Nodup
import BuildRecipe.Proofs.Build

namespace BuildRecipe

/-- the only refusal of reading a package name is an invalid package name -/
theorem Package.Name.parse_eq_error {p : String} {e : RecipeError}
    (hp : Package.Name.parse p = .error e) : ∃ m, e = .invalidPackageName p m := by
  unfold Package.Name.parse at hp
  split at hp
  · cases hp
    exact ⟨_, rfl⟩
  · cases hp

namespace Hook

open Job

/-! ## What one hook does before the build -/

/-- whether a hook computes a destination before the build: the built-in hooks do, a scripted
hook when it is given one -/
def hasDestination : Hook → Bool
  | .scripted _ dest _ _ => dest.isSome
  | _ => true

theorem isSome_destination (h : Hook) (c : Context) (env : String → Option String) :
    (h.destination c env).isSome = h.hasDestination := by
  cases h with
  | scripted i dest => cases dest <;> rfl
  | _ => rfl

theorem run_preBuild_scripted (i : String) (dest : Option String) (failPre failPost : Bool)
    (c : Context) (w : Workspace) :
    ((Hook.scripted i dest failPre failPost).preBuild c).run w =
      (if failPre then .error (.msg ("pre-build of " ++ i ++ " failed"))
        else .ok (dest.map c.recipeRoot.join),
        { w with journal := w.journal ++ [.note ("pre:" ++ i)] }) := by
  simp only [preBuild, run_bind_ok (run_record _ w)]
  cases failPre
  · simp only [Bool.false_eq_true, ite_false, run_pure]
  · simp only [ite_true, run_bind, run_fail]

/-- a built-in hook makes the folder `sub` of its CI directory, unless something is there
already, and gives it; a folder that cannot be made is the hook's failure -/
theorem run_preBuild_builtin {h : Hook} {sub : String}
    (hb : (∃ md me, h = .fmuArtifacts md me ∧ sub = "fmus") ∨ (h = .testResults ∧ sub = "testoutput"))
    (c : Context) (w : Workspace) :
    (h.preBuild c).run w =
      ((((ensureDir (c.ciPath w.env.get? sub)).run w).1.map fun _ => some (c.ciPath w.env.get? sub)).mapError
        (fun f => .recipe (.hookSideEffectFailure h.id f.message)),
        ((ensureDir (c.ciPath w.env.get? sub)).run w).2) := by
  -- both built-in hooks run the same steps, with their own folder and id
  have hsteps : (h.preBuild c).run w =
      (do
        let destination ← c.ciDirectory sub
        prepareDestination h.id destination
        pure (some destination) : Job (Option Path)).run w := by
    rcases hb with ⟨md, me, rfl, rfl⟩ | ⟨rfl, rfl⟩ <;> rfl
  rw [hsteps, run_bind_ok (c.run_ciDirectory sub w), prepareDestination, run_bind, run_bind,
    run_attempt]
  rcases (ensureDir (c.ciPath w.env.get? sub)).run w with ⟨_ | _, w'⟩ <;> rfl

/-- a failure of a hook before the build is charged to that hook -/
theorem asHookFailure_preBuild {h : Hook} {c : Context} {w : Workspace} {f : Failure}
    (hf : ((h.preBuild c).run w).1 = .error f) :
    ∃ msg, asHookFailure h.id f = .recipe (.hookSideEffectFailure h.id msg) := by
  cases h with
  | scripted i dest failPre failPost =>
    rw [run_preBuild_scripted] at hf
    cases failPre
    · cases hf
    · cases hf
      exact ⟨_, rfl⟩
  | fmuArtifacts md me =>
    rw [run_preBuild_builtin (.inl ⟨md, me, rfl, rfl⟩)] at hf
    rcases hmade : (ensureDir (c.ciPath w.env.get? "fmus")).run w with ⟨_ | _, w'⟩ <;>
      rw [hmade] at hf <;> cases hf
    exact ⟨_, rfl⟩
  | testResults =>
    rw [run_preBuild_builtin (.inr ⟨rfl, rfl⟩)] at hf
    rcases hmade : (ensureDir (c.ciPath w.env.get? "testoutput")).run w with ⟨_ | _, w'⟩ <;>
      rw [hmade] at hf <;> cases hf
    exact ⟨_, rfl⟩

namespace Registry

/-! ## Registration -/

/-- no two registrations share a package and a hook id -/
def UniqueKeys (r : Registry) : Prop := (r.entries.map fun e => (e.1, e.2.id)).Nodup

/-- a registration call: `register` with a checked package name, or `registerFor` with a text -/
inductive Call where
  | register (package : Package.Name) (hook : Hook)
  | registerFor (package : String) (hook : Hook)

/-- the registry a call gives, or why it is refused -/
def Call.apply (r : Registry) : Call → Except RecipeError Registry
  | .register n h => r.register n h
  | .registerFor p h => r.registerFor p h

/-- the registry after the calls in order; a refused call leaves it as it was -/
def applyAll (r : Registry) (calls : List Call) : Registry :=
  calls.foldl (fun r call => ((call.apply r).toOption).getD r) r

section Register

variable {r : Registry} {n : Package.Name} {h : Hook}

theorem register_of_present (hp : ∃ x ∈ r.entries, x.1 = n ∧ x.2.id = h.id) :
    r.register n h = .error (.duplicateHook h.id n.val) := by
  unfold register
  split
  · rfl
  · rename_i hnone
    obtain ⟨⟨m, e⟩, hx, rfl, hid⟩ := hp
    exact (hnone (List.any_eq_true.mpr ⟨(m, e), hx, by simp [hid]⟩)).elim

theorem register_of_absent (ha : ¬ ∃ x ∈ r.entries, x.1 = n ∧ x.2.id = h.id) :
    r.register n h = .ok ⟨r.entries ++ [(n, h)]⟩ := by
  unfold register
  split
  · rename_i hany
    obtain ⟨⟨m, e⟩, hx, hxh⟩ := List.any_eq_true.mp hany
    exact (ha ⟨(m, e), hx, by simpa using hxh⟩).elim
  · rfl

theorem registerFor_of_parse_ok {p : String} (hp : Package.Name.parse p = .ok n) :
    r.registerFor p h = r.register n h := by
  simp only [registerFor, hp]
  rfl

theorem registerFor_of_parse_error {p : String} {e : RecipeError}
    (hp : Package.Name.parse p = .error e) : r.registerFor p h = .error e := by
  simp only [registerFor, hp]
  rfl

/-- `registerFor` refuses with an invalid package name exactly when the text is no package
name -/
theorem registerFor_eq_invalid_iff (p : String) :
    (∃ m, r.registerFor p h = .error (.invalidPackageName p m)) ↔
      ∃ e, Package.Name.parse p = .error e := by
  cases hp : Package.Name.parse p with
  | error e =>
    obtain ⟨m, rfl⟩ := Package.Name.parse_eq_error hp
    exact ⟨fun _ => ⟨_, rfl⟩, fun _ => ⟨m, registerFor_of_parse_error hp⟩⟩
  | ok n' =>
    -- a valid name leaves `register`, whose only refusal is a duplicate
    refine ⟨fun ⟨m, hm⟩ => ?_, fun ⟨e, he⟩ => by cases he⟩
    rw [registerFor_of_parse_ok hp] at hm
    by_cases hpresent : ∃ x ∈ r.entries, x.1 = n' ∧ x.2.id = h.id
    · rw [register_of_present hpresent] at hm
      cases hm
    · rw [register_of_absent hpresent] at hm
      cases hm

end Register

/-! ## Unique keys -/

theorem uniqueKeys_empty : ({} : Registry).UniqueKeys := List.nodup_nil

theorem uniqueKeys_defaults : defaults.UniqueKeys := by
  simp [UniqueKeys, defaults, Hook.id, fmuArtifactsId, testResultsId]

theorem UniqueKeys.register {r r' : Registry} {n : Package.Name} {h : Hook} (hu : r.UniqueKeys)
    (hr : r.register n h = .ok r') : r'.UniqueKeys := by
  by_cases hpresent : ∃ x ∈ r.entries, x.1 = n ∧ x.2.id = h.id
  · rw [register_of_present hpresent] at hr
    cases hr
  · rw [register_of_absent hpresent] at hr
    cases hr
    show ((r.entries ++ [(n, h)]).map fun e => (e.1, e.2.id)).Nodup
    rw [List.map_append]
    -- the new pair is none of the pairs there
    refine List.nodup_append.mpr ⟨hu, by simp, ?_⟩
    simp only [List.mem_map, List.mem_singleton]
    rintro _ ⟨x, hx, rfl⟩ _ ⟨_, rfl, rfl⟩ heq
    simp only [Prod.mk.injEq] at heq
    exact hpresent ⟨x, hx, heq⟩

theorem UniqueKeys.apply {r : Registry} (hu : r.UniqueKeys) (call : Call) :
    ((call.apply r).toOption.getD r).UniqueKeys := by
  cases hc : call.apply r with
  | error e => exact hu
  | ok r' =>
    cases call with
    | register n h => exact hu.register hc
    | registerFor p h =>
      cases hp : Package.Name.parse p with
      | error e => rw [Call.apply, registerFor_of_parse_error hp] at hc; cases hc
      | ok n => rw [Call.apply, registerFor_of_parse_ok hp] at hc; exact hu.register hc

/-- registration calls keep the pairs of package and hook id unique -/
theorem uniqueKeys_applyAll {r : Registry} (hu : r.UniqueKeys) (calls : List Call) :
    (r.applyAll calls).UniqueKeys := by
  induction calls generalizing r with
  | nil => exact hu
  | cons call rest ih => exact ih (hu.apply call)

theorem applyAll_of_error {r : Registry} {call : Call} {e : RecipeError}
    (he : call.apply r = .error e) : r.applyAll [call] = r := by
  simp [applyAll, he, Except.toOption]

/-- the hooks of one package have distinct ids -/
theorem UniqueKeys.nodup_ids_hooksFor {r : Registry} (hu : r.UniqueKeys) (n : Package.Name) :
    ((r.hooksFor n).map Hook.id).Nodup := by
  have hsub : ((r.entries.filter (·.1 == n)).map fun e => (e.1, e.2.id)).Nodup :=
    hu.sublist (List.Sublist.map _ (List.filter_sublist))
  -- on the package's entries the pair is the package and the id
  have hkeys : ((r.entries.filter (·.1 == n)).map fun e => (e.1, e.2.id)) =
      ((r.hooksFor n).map Hook.id).map (n, ·) := by
    rw [hooksFor, List.map_map, List.map_map]
    refine List.map_congr_left fun e he => ?_
    have hn : e.1 = n := by simpa using (List.mem_filter.mp he).2
    simp [hn]
  rw [hkeys] at hsub
  exact List.Nodup.of_map (n, ·) hsub

/-! ## Dispatch before the build -/

/-- the pre-build halves of the hooks run in order, each destination recorded under its hook's
id; the first failure stops them -/
def preBuildAll : List Hook → Context → Job (Context × Outcome Unit)
  | [], c => pure (c, .ok ())
  | h :: rest, c => do
    match ← Job.attempt (h.preBuild c) with
    | .error f => pure (c, .error (asHookFailure h.id f))
    | .ok none => preBuildAll rest c
    | .ok (some destination) =>
      preBuildAll rest { c with destinations := c.destinations.insert h.id destination }

/-- with distinct ids and none recorded yet, the set-once check never refuses: dispatching is
the plain run of the pre-build halves -/
theorem go_eq_preBuildAll (hooks : List Hook) (c : Context) (hids : (hooks.map Hook.id).Nodup)
    (hfresh : ∀ h ∈ hooks, c.destination? h.id = none) :
    dispatchPreBuild.go hooks c = preBuildAll hooks c := by
  induction hooks generalizing c with
  | nil => rfl
  | cons h rest ih =>
    simp only [List.map_cons, List.nodup_cons] at hids
    have hrest : ∀ h' ∈ rest, c.destination? h'.id = none := fun h' hh' => hfresh h' (.tail _ hh')
    rw [dispatchPreBuild.go, preBuildAll]
    refine congrArg (Job.attempt (h.preBuild c) >>= ·) (funext fun o => ?_)
    rcases o with f | _ | d
    · rfl
    · exact ih c hids.2 hrest
    · have hset : c.setDestination h.id d =
          .ok { c with destinations := c.destinations.insert h.id d } := by
        unfold Context.setDestination
        rw [show c.destinations.get? h.id = none from hfresh h (.head _)]
      simp only [hset]
      refine ih _ hids.2 fun h' hh' => ?_
      -- a later hook has another id, so its destination is still unset
      have hne : h'.id ≠ h.id := fun heq => hids.1 (heq ▸ List.mem_map_of_mem hh')
      simpa [Context.destination?, hne] using hrest h' hh'

/-- with unique pairs, a dispatch from a context with no destinations runs the package's hooks
in registration order and records each destination -/
theorem dispatchPreBuild_eq_preBuildAll {r : Registry} (hu : r.UniqueKeys) {c : Context}
    (hc : c.destinations = {}) :
    r.dispatchPreBuild c = preBuildAll (r.hooksFor c.identity.name) c :=
  go_eq_preBuildAll _ c (hu.nodup_ids_hooksFor _) fun h _ => by
    simp [Context.destination?, hc, SortedMap.get?]

/-! ### One hook of a dispatch -/

section Step

variable {h : Hook} {rest : List Hook} {c : Context} {w w₁ : Workspace}

theorem run_go_error {f : Failure} (hrun : (h.preBuild c).run w = (.error f, w₁)) :
    (dispatchPreBuild.go (h :: rest) c).run w = (.ok (c, .error (asHookFailure h.id f)), w₁) := by
  rw [dispatchPreBuild.go, run_bind, run_attempt, hrun]
  rfl

theorem run_go_none (hrun : (h.preBuild c).run w = (.ok none, w₁)) :
    (dispatchPreBuild.go (h :: rest) c).run w = (dispatchPreBuild.go rest c).run w₁ := by
  rw [dispatchPreBuild.go, run_bind, run_attempt, hrun]

theorem run_go_recorded {d : Path} {c' : Context} (hrun : (h.preBuild c).run w = (.ok (some d), w₁))
    (hset : c.setDestination h.id d = .ok c') :
    (dispatchPreBuild.go (h :: rest) c).run w = (dispatchPreBuild.go rest c').run w₁ := by
  rw [dispatchPreBuild.go, run_bind, run_attempt, hrun]
  simp only [hset]

theorem run_go_refused {d : Path} {e : RecipeError}
    (hrun : (h.preBuild c).run w = (.ok (some d), w₁)) (hset : c.setDestination h.id d = .error e) :
    (dispatchPreBuild.go (h :: rest) c).run w = (.ok (c, .error (.recipe e)), w₁) := by
  rw [dispatchPreBuild.go, run_bind, run_attempt, hrun]
  simp only [hset]
  rfl

end Step

/-! ### What a successful dispatch leaves -/

/-- a dispatch changes nothing of the context but its destinations -/
theorem go_identity (hooks : List Hook) (c : Context) (w : Workspace) {ctx : Context}
    {pre : Outcome Unit} {w' : Workspace}
    (hrun : (dispatchPreBuild.go hooks c).run w = (.ok (ctx, pre), w')) :
    ctx.identity = c.identity := by
  induction hooks generalizing c w with
  | nil =>
    cases hrun
    rfl
  | cons h rest ih =>
    rcases hpre : (h.preBuild c).run w with ⟨_ | _ | d, w₁⟩
    · rw [run_go_error hpre] at hrun
      cases hrun
      rfl
    · exact ih c w₁ (by rwa [run_go_none hpre] at hrun)
    · rcases hset : c.setDestination h.id d with e | c'
      · rw [run_go_refused hpre hset] at hrun
        cases hrun
        rfl
      · obtain ⟨-, rfl⟩ := Context.setDestination_eq_ok hset
        have hnext := ih _ w₁ (by rwa [run_go_recorded hpre hset] at hrun)
        exact hnext

/-- a dispatch that succeeds met no scripted hook told to fail before the build -/
theorem go_ok_not_failPre (hooks : List Hook) (c : Context) (w : Workspace) {ctx : Context}
    {w' : Workspace} (hrun : (dispatchPreBuild.go hooks c).run w = (.ok (ctx, .ok ()), w')) :
    ∀ h ∈ hooks, ∀ i dest failPost, h ≠ .scripted i dest true failPost := by
  induction hooks generalizing c w with
  | nil => simp
  | cons h rest ih =>
    rintro h' hh' i dest failPost rfl
    rcases hpre : (h.preBuild c).run w with ⟨_ | _ | d, w₁⟩
    · rw [run_go_error hpre] at hrun
      cases hrun
    · rcases List.mem_cons.mp hh' with rfl | hrest
      · rw [run_preBuild_scripted] at hpre
        cases hpre
      · exact ih c w₁ (by rwa [run_go_none hpre] at hrun) _ hrest i dest failPost rfl
    · rcases List.mem_cons.mp hh' with rfl | hrest
      · rw [run_preBuild_scripted] at hpre
        cases hpre
      rcases hset : c.setDestination h.id d with e | c'
      · rw [run_go_refused hpre hset] at hrun
        cases hrun
      · exact ih c' w₁ (by rwa [run_go_recorded hpre hset] at hrun) _ hrest i dest failPost rfl

/-! ### A second dispatch -/

/-- on a context where every hook with a destination has one recorded, and no scripted hook is
told to fail before the build, a dispatch fails at the first hook with a destination, charged to
that hook, and gives the context back as it was: the hook either fails itself or is refused a
second destination -/
theorem go_again (hooks : List Hook) (c : Context) (w : Workspace)
    (hfail : ∀ h ∈ hooks, ∀ i dest failPost, h ≠ .scripted i dest true failPost)
    (hrec : ∀ h ∈ hooks, h.hasDestination = true → (c.destination? h.id).isSome)
    {h : Hook} (hfirst : hooks.find? hasDestination = some h) :
    ∃ msg w' w'', (dispatchPreBuild.go hooks c).run w =
        (.ok (c, .error (.recipe (.hookSideEffectFailure h.id msg))), w'') ∧
      (∀ f, ((h.preBuild c).run w').1 = .error f →
        asHookFailure h.id f = .recipe (.hookSideEffectFailure h.id msg)) ∧
      (∀ d, ((h.preBuild c).run w').1 = .ok d →
        ∃ d₀, c.destination? h.id = some d₀ ∧ msg = "destination already set to " ++ d₀.display) := by
  induction hooks generalizing w with
  | nil => cases hfirst
  | cons h' rest ih =>
    by_cases hdest : h'.hasDestination = true
    · -- the first hook with a destination: it fails, or is refused a second one
      rw [List.find?_cons_of_pos hdest] at hfirst
      cases hfirst
      rcases hpre : (h.preBuild c).run w with ⟨f | _ | d, w₁⟩
      · obtain ⟨msg, hmsg⟩ := asHookFailure_preBuild (congrArg Prod.fst hpre)
        refine ⟨msg, w, w₁, by rw [run_go_error hpre, hmsg], fun f' hf' => ?_, fun d hd => ?_⟩
        · rw [hpre] at hf'
          cases hf'
          exact hmsg
        · rw [hpre] at hd
          cases hd
      · have hnone := preBuild_ok (congrArg Prod.fst hpre)
        have := isSome_destination h c w.env.get?
        rw [← hnone, hdest] at this
        cases this
      · obtain ⟨d₀, hd₀⟩ := Option.isSome_iff_exists.mp (hrec h (.head _) hdest)
        have hset : c.setDestination h.id d =
            .error (.hookSideEffectFailure h.id ("destination already set to " ++ d₀.display)) := by
          unfold Context.setDestination
          rw [show c.destinations.get? h.id = some d₀ from hd₀]
        refine ⟨_, w, w₁, run_go_refused hpre hset, fun f hf => ?_, fun _ _ => ⟨d₀, hd₀, rfl⟩⟩
        rw [hpre] at hf
        cases hf
    · -- a hook without a destination is a scripted one that passes and records nothing
      rw [List.find?_cons_of_neg hdest] at hfirst
      have hrest := fun w => ih w (fun h₁ hh₁ => hfail h₁ (.tail _ hh₁))
        (fun h₁ hh₁ => hrec h₁ (.tail _ hh₁)) hfirst
      cases h' with
      | fmuArtifacts => exact absurd rfl hdest
      | testResults => exact absurd rfl hdest
      | scripted i dest failPre failPost =>
        have hpass : failPre = false := by
          cases failPre
          · rfl
          · exact absurd rfl (hfail _ (.head _) i dest failPost)
        have hnodest : dest = none := by
          simpa [hasDestination] using hdest
        subst hpass hnodest
        obtain ⟨msg, w', w'', hrun, hf, hd⟩ := hrest _
        exact ⟨msg, w', w'', by rw [run_go_none (run_preBuild_scripted i none false failPost c w), hrun],
          hf, hd⟩

/-- after a dispatch that succeeded, a second one on the context it left fails at the first of
the package's hooks with a destination, charged to that hook, and keeps every destination -/
theorem dispatchPreBuild_again (r : Registry) (c : Context) (w : Workspace) {ctx : Context}
    {w₁ : Workspace} (hrun : (r.dispatchPreBuild c).run w = (.ok (ctx, .ok ()), w₁))
    {h : Hook} (hfirst : (r.hooksFor c.identity.name).find? hasDestination = some h)
    (w₂ : Workspace) :
    ∃ msg w' w₃, (r.dispatchPreBuild ctx).run w₂ =
        (.ok (ctx, .error (.recipe (.hookSideEffectFailure h.id msg))), w₃) ∧
      (∀ f, ((h.preBuild ctx).run w').1 = .error f →
        asHookFailure h.id f = .recipe (.hookSideEffectFailure h.id msg)) ∧
      (∀ d, ((h.preBuild ctx).run w').1 = .ok d →
        ∃ d₀, ctx.destination? h.id = some d₀ ∧ msg = "destination already set to " ++ d₀.display) := by
  have hidentity := go_identity _ c w hrun
  -- the first dispatch recorded a destination for every hook that computes one
  obtain ⟨ctx', pre', w', hrun', -, hctx⟩ := dispatchPreBuild_go_run (r.hooksFor c.identity.name) c w
  have hsame : (ctx', pre') = (ctx, .ok ()) :=
    (Except.ok.inj (congrArg Prod.fst (hrun'.symm.trans hrun)))
  cases hsame
  have hrec : ∀ h' ∈ r.hooksFor c.identity.name, h'.hasDestination = true →
      (ctx.destination? h'.id).isSome := by
    intro h' hh' hdest
    obtain ⟨d, hd⟩ := Option.isSome_iff_exists.mp ((isSome_destination h' c w.env.get?).trans hdest)
    have := (hctx rfl h'.id d).mpr (.inr ⟨h', hh', rfl, hd⟩)
    simp [this]
  unfold dispatchPreBuild
  rw [hidentity]
  exact go_again _ ctx w₂ (go_ok_not_failPre _ c w hrun) hrec hfirst

/-- **Registration keeps hook keys unique, so a dispatch records each destination once.**
- `registerFor` refuses with an invalid package name exactly when the text is no package name,
  and otherwise registers under the name read; `register` refuses a duplicate exactly when the
  package has a hook of the same id, and otherwise appends the hook; a refused call leaves the
  registry as it was.
- For every sequence of calls from the empty or the built-in registry, no two registrations
  share a package and an id, and on a context with no destinations:
  - the dispatch before the build is the run of the package's hooks in registration order, the
    first failure stopping it and each destination recorded under its hook's id without a
    refusal of the set-once check; when it succeeds the context holds exactly the destinations
    the package's hooks compute;
  - a second dispatch on the context it left, from any workspace, fails at the first of the
    package's hooks that computes a destination, charged to that hook, as a refusal of a second
    destination unless the hook fails itself, and gives the context back unchanged.
- The built-in hooks make `fmus` and `testoutput` in the CI directory (the hooks' own setting of
  `CI_PROJECT_DIR`, else the process's, when not empty; else the recipe root) and give that
  folder, or fail as the hook when it cannot be made. -/
theorem registrations_unique_and_dispatch_records_once (calls : List Call) :
    (∀ (r : Registry) (p : String) (h : Hook),
      ((∃ m, r.registerFor p h = .error (.invalidPackageName p m)) ↔
        ∃ e, Package.Name.parse p = .error e) ∧
      ∀ n, Package.Name.parse p = .ok n → r.registerFor p h = r.register n h) ∧
    (∀ (r : Registry) (n : Package.Name) (h : Hook),
      ((∃ x ∈ r.entries, x.1 = n ∧ x.2.id = h.id) →
        r.register n h = .error (.duplicateHook h.id n.val)) ∧
      ((¬ ∃ x ∈ r.entries, x.1 = n ∧ x.2.id = h.id) →
        r.register n h = .ok ⟨r.entries ++ [(n, h)]⟩)) ∧
    (∀ (r : Registry) (call : Call) e, call.apply r = .error e → r.applyAll [call] = r) ∧
    (∀ (h : Hook) (sub : String),
      ((∃ md me, h = .fmuArtifacts md me ∧ sub = "fmus") ∨ (h = .testResults ∧ sub = "testoutput")) →
      ∀ c w, (h.preBuild c).run w =
        ((((ensureDir (c.ciPath w.env.get? sub)).run w).1.map
            fun _ => some (c.ciPath w.env.get? sub)).mapError
          (fun f => .recipe (.hookSideEffectFailure h.id f.message)),
          ((ensureDir (c.ciPath w.env.get? sub)).run w).2)) ∧
    ∀ start : Registry, (start = {} ∨ start = defaults) →
      let r := start.applyAll calls
      r.UniqueKeys ∧
      ∀ c : Context, c.destinations = {} →
        r.dispatchPreBuild c = preBuildAll (r.hooksFor c.identity.name) c ∧
        ∀ w ctx w₁, (r.dispatchPreBuild c).run w = (.ok (ctx, .ok ()), w₁) →
          (∀ k d, ctx.destination? k = some d ↔
            ∃ h ∈ r.hooksFor c.identity.name, h.id = k ∧ h.destination c w.env.get? = some d) ∧
          ∀ h, (r.hooksFor c.identity.name).find? hasDestination = some h → ∀ w₂,
            ∃ msg w' w₃, (r.dispatchPreBuild ctx).run w₂ =
                (.ok (ctx, .error (.recipe (.hookSideEffectFailure h.id msg))), w₃) ∧
              (∀ f, ((h.preBuild ctx).run w').1 = .error f →
                asHookFailure h.id f = .recipe (.hookSideEffectFailure h.id msg)) ∧
              (∀ d, ((h.preBuild ctx).run w').1 = .ok d →
                ∃ d₀, ctx.destination? h.id = some d₀ ∧
                  msg = "destination already set to " ++ d₀.display) := by
  refine ⟨fun r p h => ⟨registerFor_eq_invalid_iff p, fun n hp => registerFor_of_parse_ok hp⟩,
    fun r n h => ⟨register_of_present, register_of_absent⟩, fun r call e he => applyAll_of_error he,
    fun h sub hb c w => run_preBuild_builtin hb c w, fun start hstart => ?_⟩
  intro r
  have hu : r.UniqueKeys := by
    rcases hstart with rfl | rfl
    · exact uniqueKeys_applyAll uniqueKeys_empty calls
    · exact uniqueKeys_applyAll uniqueKeys_defaults calls
  refine ⟨hu, fun c hc => ⟨dispatchPreBuild_eq_preBuildAll hu hc, fun w ctx w₁ hrun => ?_⟩⟩
  refine ⟨fun k d => ?_, fun h hfirst w₂ => dispatchPreBuild_again r c w hrun hfirst w₂⟩
  -- what the run recorded, from a context with none
  obtain ⟨ctx', pre', w', hrun', -, hctx⟩ := dispatchPreBuild_go_run (r.hooksFor c.identity.name) c w
  have hsame : (ctx', pre') = (ctx, .ok ()) :=
    Except.ok.inj (congrArg Prod.fst (hrun'.symm.trans hrun))
  cases hsame
  rw [hctx rfl k d]
  have hnone : c.destination? k = none := by simp [Context.destination?, hc, SortedMap.get?]
  simp [hnone]

end Registry

end Hook

end BuildRecipe
