/-
Walks of a file tree. A walk runs a step at each visit, and the step may change the tree; the
visits a walk makes are kept by running it with a step that also records each visit (`traced`,
`visits`), which changes nothing else (`walkLoop_traced_fst`). The loop has one equation per
case (`walkLoop_zero`, `walkLoop_empty`, `walkLoop_skip`, `walkLoop_done`, `walkLoop_yield`),
and a walk ends in one of three ways: a step ends it, it runs out of pending visits, or it runs
out of fuel after one visit per unit (`walkLoop_traced_cases`).

On a well-formed tree that the steps only make grow, keeping the kind of every entry, a walk
from a plain location keeps a frontier (`Frontier`): the visits made and pending are at distinct
plain locations below the start, within the depth limit; no pending visit is above another; and
every entry of the starting tree within the limit is visited or below a pending visit. A visit
keeps it (`Frontier.visit`), since a directory's entries are listed once each, one level deeper
(`mem_listing`, `nodup_listing`); so a walk that runs out of pending visits has visited every
entry of the starting tree within the limit, each once (`walk_frontier`).
-/
import Mathlib.Data.List.Nodup
import BuildRecipe.Proofs.FileTree
import BuildRecipe.FileTree.Walk

namespace BuildRecipe.FileTree

open BuildRecipe.Path

/-! ## The entries below a directory -/

section Listing

variable {t : FileTree} {L : List String}

theorem plain_concat {n : String} (hL : ∀ m ∈ L, PlainName m) (hn : PlainName n) :
    ∀ m ∈ L ++ [n], PlainName m := by
  simpa [or_imp, forall_and] using ⟨hL, hn⟩

/-- the entries directly inside a directory are listed once each -/
theorem nodup_children (hwf : t.WellFormed) (L : List String) : (t.children L).Nodup := by
  have hentries : t.entries.entries.Nodup := List.Nodup.of_map Prod.fst t.entries.keys_nodup
  unfold children
  refine hentries.filterMap fun a a' b hb hb' => ?_
  obtain ⟨k, e⟩ := a
  obtain ⟨k', e'⟩ := a'
  simp only [Option.mem_def] at hb hb'
  -- an entry inside is read off its key, so its name gives its key back
  split at hb
  · rename_i _ rest hrest
    split at hb'
    · rename_i _ rest' hrest'
      split at hb
      · cases hb
      split at hb'
      · cases hb'
      rw [← hb'] at hb
      obtain ⟨rfl, rfl⟩ := Prod.mk.inj (Option.some.inj hb)
      rw [stripPrefix?_eq_some_iff] at hrest hrest'
      rw [hrest, hrest']
    · cases hb'
  · cases hb

/-- the visits below a directory are its entries, one level deeper -/
theorem mem_listing (hwf : t.WellFormed) (hL : ∀ m ∈ L, PlainName m) (hdir : t.at? L = some .directory)
    (depth : Nat) (v : Visit) :
    v ∈ t.listing (ofLocation L) depth ↔
      ∃ n e, PlainName n ∧ t.at? (L ++ [n]) = some e ∧ v = ⟨ofLocation (L ++ [n]), depth, some e⟩ := by
  rw [listing, locate_of_isSome hwf hL (by simp [hdir])]
  simp only [List.mem_map, Prod.exists]
  constructor
  · rintro ⟨n, e, hmem, rfl⟩
    obtain ⟨hn, he⟩ := (mem_children hwf hL n e).mp hmem
    exact ⟨n, e, hn, he, by rw [join_ofLocation hL hn]⟩
  · rintro ⟨n, e, hn, he, rfl⟩
    exact ⟨n, e, (mem_children hwf hL n e).mpr ⟨hn, he⟩, by rw [join_ofLocation hL hn]⟩

/-- the visits below a directory are at different paths -/
theorem nodup_listing (hwf : t.WellFormed) (hL : ∀ m ∈ L, PlainName m) (hdir : t.at? L = some .directory)
    (depth : Nat) : ((t.listing (ofLocation L) depth).map (·.path)).Nodup := by
  rw [listing, locate_of_isSome hwf hL (by simp [hdir]), List.map_map]
  refine (nodup_children hwf L).map_on fun x hx y hy hxy => ?_
  obtain ⟨n, e⟩ := x
  obtain ⟨m, e'⟩ := y
  obtain ⟨hn, he⟩ := (mem_children hwf hL n e).mp hx
  obtain ⟨hm, he'⟩ := (mem_children hwf hL m e').mp hy
  -- two entries at one path have one name, hence one entry
  have hpath : (ofLocation L).join ⟨n⟩ = (ofLocation L).join ⟨m⟩ := hxy
  rw [join_ofLocation hL hn, join_ofLocation hL hm,
    Path.ofLocation_inj (plain_concat hL hn) (plain_concat hL hm)] at hpath
  obtain rfl : n = m := by simpa using hpath
  rw [he] at he'
  cases he'
  rfl

end Listing

/-! ## The loop of a walk -/

section Loop

variable {σ : Type} (files : σ → FileTree) (maxDepth : Nat) (step : Visit → σ → ForInStep σ)

/-- the visits put on the stack after a visit: the entries of a directory above the depth limit,
as the tree holds them before the step -/
def expand (v : Visit) (s : σ) : List Visit :=
  if v.entry = some .directory ∧ v.depth < maxDepth then (files s).listing v.path (v.depth + 1) else []

theorem walkLoop_zero (stack : List (List Visit)) (s : σ) :
    walkLoop files maxDepth step 0 stack s = s := by
  rw [walkLoop]

theorem walkLoop_empty (fuel : Nat) (s : σ) : walkLoop files maxDepth step fuel [] s = s := by
  cases fuel with
  | zero => rw [walkLoop]
  | succ fuel => rw [walkLoop]; omega

theorem walkLoop_skip (fuel : Nat) (rest : List (List Visit)) (s : σ) :
    walkLoop files maxDepth step (fuel + 1) ([] :: rest) s = walkLoop files maxDepth step (fuel + 1) rest s := by
  rw [walkLoop]

theorem walkLoop_done {fuel : Nat} {v : Visit} {vs : List Visit} {rest : List (List Visit)} {s s' : σ}
    (h : step v s = .done s') : walkLoop files maxDepth step (fuel + 1) ((v :: vs) :: rest) s = s' := by
  rw [walkLoop, h]

theorem walkLoop_yield {fuel : Nat} {v : Visit} {vs : List Visit} {rest : List (List Visit)} {s s' : σ}
    (h : step v s = .yield s') : walkLoop files maxDepth step (fuel + 1) ((v :: vs) :: rest) s =
      walkLoop files maxDepth step fuel (expand files maxDepth v s :: vs :: rest) s' := by
  rw [walkLoop, h]
  simp only [expand]
  congr 2
  rcases v with ⟨p, d, _ | _ | _⟩ <;> simp

/-- the step of a walk that also keeps its visits, in order -/
def traced (v : Visit) (st : σ × List Visit) : ForInStep (σ × List Visit) :=
  match step v st.1 with
  | .done s => .done (s, st.2 ++ [v])
  | .yield s => .yield (s, st.2 ++ [v])

/-- the visits a walk makes, in order -/
def visits (start : Path) (fuel : Nat) (s : σ) : List Visit :=
  (walk (fun st => files st.1) maxDepth (traced step) start fuel (s, [])).2

variable {files maxDepth step}

theorem traced_done {v : Visit} {s s' : σ} (tr : List Visit) (h : step v s = .done s') :
    traced step v (s, tr) = .done (s', tr ++ [v]) := by
  simp [traced, h]

theorem traced_yield {v : Visit} {s s' : σ} (tr : List Visit) (h : step v s = .yield s') :
    traced step v (s, tr) = .yield (s', tr ++ [v]) := by
  simp [traced, h]

theorem expand_traced (v : Visit) (s : σ) (tr : List Visit) :
    expand (fun st : σ × List Visit => files st.1) maxDepth v (s, tr) = expand files maxDepth v s :=
  rfl

/-- keeping the visits changes nothing else in a walk -/
theorem walkLoop_traced_fst (fuel : Nat) (stack : List (List Visit)) (s : σ) (tr : List Visit) :
    (walkLoop (fun st => files st.1) maxDepth (traced step) fuel stack (s, tr)).1 =
      walkLoop files maxDepth step fuel stack s := by
  induction fuel generalizing stack s tr with
  | zero => simp only [walkLoop_zero]
  | succ fuel ih =>
    induction stack generalizing s tr with
    | nil => simp only [walkLoop_empty]
    | cons vs rest ihrest =>
      cases vs with
      | nil => simp only [walkLoop_skip, ihrest]
      | cons v vs =>
        cases hstep : step v s with
        | done s' => rw [walkLoop_done _ _ _ (traced_done tr hstep), walkLoop_done _ _ _ hstep]
        | yield s' =>
          rw [walkLoop_yield _ _ _ (traced_yield tr hstep), walkLoop_yield _ _ _ hstep, expand_traced]
          exact ih _ s' _

/-- keeping the visits changes nothing else in a walk -/
theorem walk_traced_fst (start : Path) (fuel : Nat) (s : σ) :
    (walk (fun st => files st.1) maxDepth (traced step) start fuel (s, [])).1 =
      walk files maxDepth step start fuel s :=
  walkLoop_traced_fst _ _ s []

/-- A walk ends in one of three ways: a step ends it, its stack runs out, or its fuel does, one
visit for each unit of fuel. An invariant of the pending visits, the state and the visits made
that every yielding step keeps holds at the end in the last two cases, and before the last
visit in the first. -/
theorem walkLoop_traced_cases (P : List (List Visit) → σ → List Visit → Prop)
    (hyield : ∀ {v vs rest s tr s'}, P ((v :: vs) :: rest) s tr → step v s = .yield s' →
      P (expand files maxDepth v s :: vs :: rest) s' (tr ++ [v]))
    (hskip : ∀ {rest s tr}, P ([] :: rest) s tr → P rest s tr)
    (fuel : Nat) (stack : List (List Visit)) (s : σ) (tr : List Visit) (h : P stack s tr) :
    (∃ v vs rest s₀ tr₀, P ((v :: vs) :: rest) s₀ tr₀ ∧
      step v s₀ = .done (walkLoop (fun st => files st.1) maxDepth (traced step) fuel stack (s, tr)).1 ∧
      (walkLoop (fun st => files st.1) maxDepth (traced step) fuel stack (s, tr)).2 = tr₀ ++ [v]) ∨
    (∃ stack', P stack' (walkLoop (fun st => files st.1) maxDepth (traced step) fuel stack (s, tr)).1
        (walkLoop (fun st => files st.1) maxDepth (traced step) fuel stack (s, tr)).2 ∧
      (stack' = [] ∨
        (walkLoop (fun st => files st.1) maxDepth (traced step) fuel stack (s, tr)).2.length =
          tr.length + fuel)) := by
  induction fuel generalizing stack s tr with
  | zero => exact .inr ⟨stack, by simpa only [walkLoop_zero] using h, .inr (by simp [walkLoop_zero])⟩
  | succ fuel ih =>
    induction stack generalizing s tr with
    | nil => exact .inr ⟨[], by simpa only [walkLoop_empty] using h, .inl rfl⟩
    | cons vs rest ihrest =>
      cases vs with
      | nil => simpa only [walkLoop_skip] using ihrest s tr (hskip h)
      | cons v vs =>
        cases hstep : step v s with
        | done s' =>
          rw [walkLoop_done _ _ _ (traced_done tr hstep)]
          exact .inl ⟨v, vs, rest, s, tr, h, hstep, rfl⟩
        | yield s' =>
          rw [walkLoop_yield _ _ _ (traced_yield tr hstep), expand_traced]
          -- the rest of the walk runs from the state after this visit
          rcases ih _ s' (tr ++ [v]) (hyield h hstep) with hdone | ⟨stack', hP, hend⟩
          · exact .inl hdone
          · refine .inr ⟨stack', hP, hend.imp_right fun hlen => ?_⟩
            rw [hlen, List.length_append, List.length_singleton]
            omega

end Loop


/-! ## Walks of a growing tree -/

/-- `t'` holds an entry of the same kind wherever `t` holds one -/
def Grows (t t' : FileTree) : Prop :=
  ∀ L e, t.at? L = some e → ∃ e', t'.at? L = some e' ∧ (e = .directory ↔ e' = .directory)

theorem Grows.refl (t : FileTree) : Grows t t := fun _ e he => ⟨e, he, Iff.rfl⟩

theorem Grows.trans {t₁ t₂ t₃ : FileTree} (h₁ : Grows t₁ t₂) (h₂ : Grows t₂ t₃) : Grows t₁ t₃ := by
  intro L e he
  obtain ⟨e₂, he₂, hkind₂⟩ := h₁ L e he
  obtain ⟨e₃, he₃, hkind₃⟩ := h₂ L e₂ he₂
  exact ⟨e₃, he₃, hkind₂.trans hkind₃⟩

/-- two locations neither of which is above the other -/
def Apart (P Q : List String) : Prop := ¬ P <+: Q ∧ ¬ Q <+: P

theorem Apart.symm {P Q : List String} (h : Apart P Q) : Apart Q P := ⟨h.2, h.1⟩

/-- a location apart from another keeps apart from every location below it -/
theorem Apart.concat {P Q : List String} (h : Apart P Q) (n : String) : Apart (P ++ [n]) Q := by
  refine ⟨fun hPQ => h.1 ((List.prefix_append P [n]).trans hPQ), fun hQP => ?_⟩
  rcases List.prefix_concat_iff.mp hQP with hQ | hQ
  · exact h.1 (hQ ▸ List.prefix_append P [n])
  · exact h.2 hQ

/-- two different names below one location are apart -/
theorem apart_concat_concat (P : List String) {n m : String} (hnm : n ≠ m) : Apart (P ++ [n]) (P ++ [m]) := by
  have hlen {a b : String} (h : P ++ [a] <+: P ++ [b]) : a = b := by
    have := h.eq_of_length (by simp)
    simpa using this
  exact ⟨fun h => hnm (hlen h), fun h => hnm (hlen h).symm⟩

/-- what a walk from the location `B` keeps at every visit: the visits made and those pending are
at different plain locations below `B`, within the depth limit; no pending visit is above
another visit or a pending one; a pending visit's entry has the kind of the tree's entry there,
and is missing only where the starting tree has none; and every entry of the starting tree
within the depth limit has been visited or lies below a pending visit -/
structure Frontier (t₀ t : FileTree) (B : List String) (maxDepth : Nat) (made pending : List Visit) :
    Prop where
  placed : ∀ v ∈ made ++ pending, ∃ R, (∀ m ∈ B ++ R, PlainName m) ∧ v.path = ofLocation (B ++ R) ∧
    v.depth = R.length ∧ R.length ≤ maxDepth
  distinct : ((made ++ pending).map (·.path)).Nodup
  apart : pending.Pairwise fun p q => Apart (walkParts p.path) (walkParts q.path)
  notAbove : ∀ p ∈ pending, ∀ u ∈ made, ¬ walkParts p.path <+: walkParts u.path
  kind : ∀ p ∈ pending, ∀ e, p.entry = some e →
    ∃ e', t.at? (walkParts p.path) = some e' ∧ (e = .directory ↔ e' = .directory)
  missing : ∀ p ∈ pending, p.entry = none → t₀.at? (walkParts p.path) = none
  covers : ∀ R, (∀ m ∈ B ++ R, PlainName m) → R.length ≤ maxDepth → (t₀.at? (B ++ R)).isSome →
    ofLocation (B ++ R) ∈ made.map (·.path) ∨ ∃ p ∈ pending, walkParts p.path <+: B ++ R
  grows : Grows t₀ t
  wellFormed : t.WellFormed

section Expand

variable {σ : Type} {files : σ → FileTree} {maxDepth : Nat} {s : σ} {v w : Visit} {L : List String}

/-- a visit puts on the stack the entries of its directory, when it is one above the depth limit -/
theorem mem_expand (hwf : (files s).WellFormed) (hL : ∀ m ∈ L, PlainName m) (hpath : v.path = ofLocation L)
    (hdir : v.entry = some .directory → (files s).at? L = some .directory) (hw : w ∈ expand files maxDepth v s) :
    v.entry = some .directory ∧ v.depth < maxDepth ∧
      ∃ n e, PlainName n ∧ (files s).at? (L ++ [n]) = some e ∧
        w = ⟨ofLocation (L ++ [n]), v.depth + 1, some e⟩ := by
  unfold expand at hw
  split at hw
  · rename_i hcond
    rw [hpath, mem_listing hwf hL (hdir hcond.1)] at hw
    exact ⟨hcond.1, hcond.2, hw⟩
  · cases hw

theorem nodup_expand (hwf : (files s).WellFormed) (hL : ∀ m ∈ L, PlainName m) (hpath : v.path = ofLocation L)
    (hdir : v.entry = some .directory → (files s).at? L = some .directory) :
    ((expand files maxDepth v s).map (·.path)).Nodup := by
  unfold expand
  split
  · rename_i hcond
    rw [hpath]
    exact nodup_listing hwf hL (hdir hcond.1) _
  · exact List.nodup_nil

end Expand

namespace Frontier

variable {t₀ t : FileTree} {B : List String} {maxDepth : Nat} {made pending rest : List Visit} {v : Visit}

/-- a visit of a frontier is at the location its path names -/
theorem walkParts_path (hF : Frontier t₀ t B maxDepth made pending) {u : Visit} (hu : u ∈ made ++ pending) :
    ∃ R, (∀ m ∈ B ++ R, PlainName m) ∧ u.path = ofLocation (B ++ R) ∧ walkParts u.path = B ++ R ∧
      u.depth = R.length ∧ R.length ≤ maxDepth := by
  obtain ⟨R, hplain, hpath, hdepth, hR⟩ := hF.placed u hu
  exact ⟨R, hplain, hpath, by rw [hpath, walkParts_ofLocation hplain], hdepth, hR⟩

/-- the visit at the head of the pending ones is a directory where its entry says so -/
theorem head_dir (hF : Frontier t₀ t B maxDepth made (v :: rest)) (he : v.entry = some .directory) :
    t.at? (walkParts v.path) = some .directory := by
  obtain ⟨e', he', hkind⟩ := hF.kind v (.head _) _ he
  rw [he', ← hkind.mp rfl]

/-- nothing made or pending after the head lies below it -/
theorem not_below_head (hF : Frontier t₀ t B maxDepth made (v :: rest)) {u : Visit}
    (hu : u ∈ made ∨ u ∈ rest) : ¬ walkParts v.path <+: walkParts u.path := by
  rcases hu with hu | hu
  · exact hF.notAbove v (.head _) u hu
  · exact (List.rel_of_pairwise_cons hF.apart hu).1

section Visit

variable {σ : Type} {files : σ → FileTree} {s s' : σ}

/-- an entry of the starting tree below the head of the pending visits lies below one of the
visits its directory puts on the stack -/
theorem exists_expand_of_below (ht₀ : t₀.WellFormed) (hF : Frontier t₀ (files s) B maxDepth made (v :: rest))
    {R' more : List String} {m : String} (hplain' : ∀ x ∈ B ++ R', PlainName x) (hR' : R'.length ≤ maxDepth)
    (hsome : (t₀.at? (B ++ R')).isSome) (hX : B ++ R' = walkParts v.path ++ m :: more) :
    ∃ w ∈ expand files maxDepth v s, walkParts w.path = walkParts v.path ++ [m] := by
  obtain ⟨R, hplain, hpath, hloc, hdepth, -⟩ := hF.walkParts_path (u := v) (by simp)
  rw [hloc] at hX ⊢
  have hbelow : B ++ R ++ [m] <+: B ++ R' := ⟨more, by rw [hX]; simp⟩
  have hmplain : PlainName m := hplain' m (hbelow.subset (by simp))
  -- the directories above an entry of the starting tree are directories of the tree now
  obtain ⟨e₀, he₀⟩ := Option.isSome_iff_exists.mp hsome
  obtain ⟨e, he, -⟩ := hF.grows _ e₀ he₀
  have hsomeNow : ((files s).at? (B ++ R')).isSome := by simp [he]
  have habove : ∀ P, P <+: B ++ R' → P ≠ B ++ R' → (files s).at? P = some .directory :=
    hF.wellFormed.dirAbove hplain' hsomeNow
  have hne : B ++ R ≠ B ++ R' := fun h => by simpa [h] using congrArg List.length hX
  have hdirNow : (files s).at? (B ++ R) = some .directory :=
    habove _ ((List.prefix_append _ _).trans hbelow) hne
  have hchild : ((files s).at? (B ++ R ++ [m])).isSome := by
    by_cases hlast : B ++ R ++ [m] = B ++ R'
    · rw [hlast]
      exact hsomeNow
    · rw [habove _ hbelow hlast]
      rfl
  -- so the head is a directory, above the depth limit
  have hentry : v.entry = some .directory := by
    rcases hv : v.entry with _ | e₁
    · have h₀ := hF.missing v (.head _) hv
      rw [hloc, ht₀.dirAbove hplain' hsome _ ((List.prefix_append _ _).trans hbelow) hne] at h₀
      cases h₀
    · obtain ⟨e', he', hkind⟩ := hF.kind v (.head _) e₁ hv
      rw [hloc, hdirNow] at he'
      cases he'
      rw [hkind.mpr rfl]
  have hlt : v.depth < maxDepth := by
    have hlen := congrArg List.length hX
    simp only [List.length_append, List.length_cons] at hlen
    omega
  obtain ⟨e', he'⟩ := Option.isSome_iff_exists.mp hchild
  refine ⟨⟨ofLocation (B ++ R ++ [m]), v.depth + 1, some e'⟩, ?_,
    walkParts_ofLocation (plain_concat hplain hmplain)⟩
  unfold expand
  rw [if_pos ⟨hentry, hlt⟩, hpath, mem_listing hF.wellFormed hplain hdirNow]
  exact ⟨m, e', hmplain, he', rfl⟩

/-- the visits the head of a frontier puts on the stack: the entries of its directory, one level
below it, when it is a directory above the depth limit -/
theorem mem_expand_head (hF : Frontier t₀ (files s) B maxDepth made (v :: rest)) {w : Visit}
    (hw : w ∈ expand files maxDepth v s) :
    v.entry = some .directory ∧ v.depth < maxDepth ∧ ∃ n e, PlainName n ∧
      (files s).at? (walkParts v.path ++ [n]) = some e ∧
      w = ⟨ofLocation (walkParts v.path ++ [n]), v.depth + 1, some e⟩ := by
  obtain ⟨R, hplain, hpath, hloc, -⟩ := hF.walkParts_path (u := v) (by simp)
  rw [hloc]
  exact mem_expand hF.wellFormed hplain hpath (fun he => hloc ▸ hF.head_dir he) hw

theorem nodup_expand_head (hF : Frontier t₀ (files s) B maxDepth made (v :: rest)) :
    ((expand files maxDepth v s).map (·.path)).Nodup := by
  obtain ⟨R, hplain, hpath, hloc, -⟩ := hF.walkParts_path (u := v) (by simp)
  exact nodup_expand hF.wellFormed hplain hpath fun he => hloc ▸ hF.head_dir he

/-- a visit the head puts on the stack is at a plain name one level below the head -/
theorem walkParts_of_mem_expand (hF : Frontier t₀ (files s) B maxDepth made (v :: rest)) {w : Visit}
    (hw : w ∈ expand files maxDepth v s) :
    ∃ n, PlainName n ∧ walkParts w.path = walkParts v.path ++ [n] ∧
      w.path = ofLocation (walkParts v.path ++ [n]) := by
  obtain ⟨R, hplain, -, hloc, -⟩ := hF.walkParts_path (u := v) (by simp)
  obtain ⟨-, -, n, e, hn, -, rfl⟩ := hF.mem_expand_head hw
  rw [hloc]
  exact ⟨n, hn, walkParts_ofLocation (plain_concat hplain hn), rfl⟩

/-- after a visit the paths stay distinct: the new pending visits are one level below the head,
where no old visit is -/
theorem distinct_visit (hF : Frontier t₀ (files s) B maxDepth made (v :: rest)) :
    (((made ++ [v]) ++ (expand files maxDepth v s ++ rest)).map (·.path)).Nodup := by
  have hperm : List.Perm (((made ++ [v]) ++ (expand files maxDepth v s ++ rest)).map (·.path))
      ((made ++ v :: rest).map (·.path) ++ (expand files maxDepth v s).map (·.path)) := by
    simp only [List.map_append, List.map_cons, List.append_assoc, List.cons_append, List.nil_append]
    exact List.Perm.append_left _ (List.Perm.cons _ List.perm_append_comm)
  refine hperm.nodup_iff.mpr (List.nodup_append.mpr ⟨hF.distinct, hF.nodup_expand_head, ?_⟩)
  simp only [List.mem_map]
  rintro _ ⟨u, hu, rfl⟩ _ ⟨w, hw, rfl⟩ heq
  obtain ⟨n, -, hwloc, -⟩ := hF.walkParts_of_mem_expand hw
  have huloc : walkParts u.path = walkParts v.path ++ [n] := by rw [heq, hwloc]
  rcases List.mem_append.mp hu with hu | hu
  · exact hF.not_below_head (.inl hu) (huloc ▸ List.prefix_append _ _)
  · rcases List.mem_cons.mp hu with rfl | hu
    · simpa using congrArg List.length huloc
    · exact hF.not_below_head (.inr hu) (huloc ▸ List.prefix_append _ _)

/-- after a visit the pending visits stay apart: the new ones differ in their last name, and lie
below the head, which the others are apart from -/
theorem apart_visit (hF : Frontier t₀ (files s) B maxDepth made (v :: rest)) :
    (expand files maxDepth v s ++ rest).Pairwise fun p q => Apart (walkParts p.path) (walkParts q.path) := by
  have hnodup : ((expand files maxDepth v s).map (·.path)).Nodup := hF.nodup_expand_head
  rw [List.nodup_iff_pairwise_ne, List.pairwise_map] at hnodup
  refine List.pairwise_append.mpr ⟨hnodup.imp_of_mem fun {w w'} hw hw' hne => ?_,
    (List.pairwise_cons.mp hF.apart).2, fun w hw q hq => ?_⟩
  · obtain ⟨n, -, hwloc, hwpath⟩ := hF.walkParts_of_mem_expand hw
    obtain ⟨n', -, hwloc', hwpath'⟩ := hF.walkParts_of_mem_expand hw'
    rw [hwloc, hwloc']
    exact apart_concat_concat _ fun h => hne (by rw [hwpath, hwpath', h])
  · obtain ⟨n, -, hwloc, -⟩ := hF.walkParts_of_mem_expand hw
    rw [hwloc]
    exact (List.rel_of_pairwise_cons hF.apart hq).concat n

/-- after a visit no pending visit lies above a visit made -/
theorem notAbove_visit (hF : Frontier t₀ (files s) B maxDepth made (v :: rest)) :
    ∀ p ∈ expand files maxDepth v s ++ rest, ∀ u ∈ made ++ [v], ¬ walkParts p.path <+: walkParts u.path := by
  intro p hp u hu
  rcases List.mem_append.mp hp with hp | hp
  · obtain ⟨n, -, hploc, -⟩ := hF.walkParts_of_mem_expand hp
    rw [hploc]
    rcases List.mem_append.mp hu with hu | hu
    · exact fun h => hF.not_below_head (.inl hu) ((List.prefix_append _ _).trans h)
    · rw [List.mem_singleton.mp hu]
      exact fun h => by simpa using h.length_le
  · rcases List.mem_append.mp hu with hu | hu
    · exact hF.notAbove p (.tail _ hp) u hu
    · rw [List.mem_singleton.mp hu]
      exact (List.rel_of_pairwise_cons hF.apart hp).2

/-- after a visit every entry of the starting tree within the depth limit is made or below a
pending visit: an entry below the head is the head itself, or below one of its entries -/
theorem covers_visit (ht₀ : t₀.WellFormed) (hF : Frontier t₀ (files s) B maxDepth made (v :: rest)) :
    ∀ R, (∀ m ∈ B ++ R, PlainName m) → R.length ≤ maxDepth → (t₀.at? (B ++ R)).isSome →
      ofLocation (B ++ R) ∈ (made ++ [v]).map (·.path) ∨
        ∃ p ∈ expand files maxDepth v s ++ rest, walkParts p.path <+: B ++ R := by
  intro R' hplain' hR' hsome
  obtain ⟨R, -, hpath, hloc, -⟩ := hF.walkParts_path (u := v) (by simp)
  rcases hF.covers R' hplain' hR' hsome with hmade | ⟨p, hp, hpre⟩
  · exact .inl (by simp only [List.map_append, List.mem_append]; exact .inl hmade)
  · rcases List.mem_cons.mp hp with rfl | hp
    · obtain ⟨tail, htail⟩ := hpre
      cases tail with
      | nil =>
        refine .inl (List.mem_map.mpr ⟨p, by simp, ?_⟩)
        rw [hpath, ← htail, hloc, List.append_nil]
      | cons m more =>
        obtain ⟨w, hw, hwloc⟩ := exists_expand_of_below ht₀ hF hplain' hR' hsome htail.symm
        exact .inr ⟨w, List.mem_append_left _ hw, hwloc ▸ ⟨more, by rw [← htail]; simp⟩⟩
    · exact .inr ⟨p, List.mem_append_right _ hp, hpre⟩

/-- the step of the frontier: the head of the pending visits is made, and the entries of its
directory, read before the step, become pending in its place -/
theorem visit (ht₀ : t₀.WellFormed) (hF : Frontier t₀ (files s) B maxDepth made (v :: rest))
    (hgrow : Grows (files s) (files s')) (hwf : (files s').WellFormed) :
    Frontier t₀ (files s') B maxDepth (made ++ [v]) (expand files maxDepth v s ++ rest) := by
  obtain ⟨R, hplain, -, hloc, hdepth, -⟩ := hF.walkParts_path (u := v) (by simp)
  refine ⟨?placed, hF.distinct_visit, hF.apart_visit, hF.notAbove_visit, ?kind, ?missing,
    hF.covers_visit ht₀, hF.grows.trans hgrow, hwf⟩
  case placed =>
    intro u hu
    simp only [List.mem_append, List.mem_singleton] at hu
    rcases hu with (hu | rfl) | hu | hu
    · exact hF.placed u (by simp [hu])
    · exact hF.placed u (by simp)
    · -- a new visit: one name below the head, one level deeper
      obtain ⟨-, hlt, n, e, hn, -, rfl⟩ := hF.mem_expand_head hu
      rw [hloc]
      exact ⟨R ++ [n], by simpa using plain_concat hplain hn, by simp, by simp [hdepth],
        by simp only [List.length_append, List.length_singleton]; omega⟩
    · exact hF.placed u (by simp [hu])
  case kind =>
    intro p hp e he
    rcases List.mem_append.mp hp with hp | hp
    · obtain ⟨-, -, n, e', hn, he', rfl⟩ := hF.mem_expand_head hp
      cases he
      rw [hloc] at he' ⊢
      rw [walkParts_ofLocation (plain_concat hplain hn)]
      exact hgrow _ _ he'
    · obtain ⟨e₁, he₁, hkind₁⟩ := hF.kind p (.tail _ hp) e he
      obtain ⟨e₂, he₂, hkind₂⟩ := hgrow _ e₁ he₁
      exact ⟨e₂, he₂, hkind₁.trans hkind₂⟩
  case missing =>
    intro p hp hnone
    rcases List.mem_append.mp hp with hp | hp
    · obtain ⟨-, -, n, e', -, -, rfl⟩ := hF.mem_expand_head hp
      cases hnone
    · exact hF.missing p (.tail _ hp) hnone

end Visit

/-- a walk starts with its start pending, and the tree as it is -/
theorem start (ht₀ : t₀.WellFormed) (hB : ∀ m ∈ B, PlainName m) :
    Frontier t₀ t₀ B maxDepth [] [t₀.startVisit (ofLocation B)] := by
  have hloc : walkParts (t₀.startVisit (ofLocation B)).path = B := walkParts_ofLocation hB
  have hentry : (t₀.startVisit (ofLocation B)).entry = t₀.at? B := stat_ofLocation ht₀ hB
  refine ⟨?_, ?_, List.pairwise_singleton _ _, fun _ _ _ hu => absurd hu List.not_mem_nil, ?_, ?_, ?_,
    Grows.refl t₀, ht₀⟩
  · intro v hv
    rw [List.nil_append, List.mem_singleton] at hv
    exact ⟨[], by simpa using hB, by rw [hv, List.append_nil]; rfl, by rw [hv]; rfl, by simp⟩
  · rw [List.nil_append, List.map_singleton]
    exact List.nodup_singleton _
  · intro p hp e he
    rw [List.mem_singleton] at hp
    subst hp
    rw [hentry] at he
    exact ⟨e, by rw [hloc, he], Iff.rfl⟩
  · intro p hp hnone
    rw [List.mem_singleton] at hp
    subst hp
    rw [hloc, ← hentry, hnone]
  · intro R _ _ _
    refine .inr ⟨_, List.mem_singleton_self _, ?_⟩
    rw [hloc]
    exact List.prefix_append B R

end Frontier

section Run

variable {σ : Type} (files : σ → FileTree) (maxDepth : Nat) (step : Visit → σ → ForInStep σ)

/-- **A walk of a growing tree.** Let a walk start at a plain location of a well-formed tree,
with a property of its visits and its state that each step keeps while it changes the tree only
by growing it. Then the walk ends in one of three ways, and the frontier holds all along: a step
ends it, after visits that the frontier held for; or it ends with the property and the frontier,
having run out of pending visits, or of fuel after one visit for each unit of fuel. -/
theorem walk_frontier (B : List String) (s₀ : σ) (Q : List Visit → σ → Prop)
    (hwf₀ : (files s₀).WellFormed) (hB : ∀ m ∈ B, PlainName m) (hQ₀ : Q [] s₀)
    (hstep : ∀ {made v rest s s'}, Q made s → Frontier (files s₀) (files s) B maxDepth made (v :: rest) →
      step v s = .yield s' → Q (made ++ [v]) s' ∧ Grows (files s) (files s') ∧ (files s').WellFormed)
    (fuel : Nat) :
    (∃ made v rest s, Q made s ∧ Frontier (files s₀) (files s) B maxDepth made (v :: rest) ∧
      step v s = .done (walk (fun st => files st.1) maxDepth (traced step) (ofLocation B) fuel (s₀, [])).1 ∧
      (walk (fun st => files st.1) maxDepth (traced step) (ofLocation B) fuel (s₀, [])).2 = made ++ [v]) ∨
    (∃ pending, Q (walk (fun st => files st.1) maxDepth (traced step) (ofLocation B) fuel (s₀, [])).2
        (walk (fun st => files st.1) maxDepth (traced step) (ofLocation B) fuel (s₀, [])).1 ∧
      Frontier (files s₀) (files (walk (fun st => files st.1) maxDepth (traced step) (ofLocation B) fuel
        (s₀, [])).1) B maxDepth (walk (fun st => files st.1) maxDepth (traced step) (ofLocation B) fuel
        (s₀, [])).2 pending ∧
      (pending = [] ∨ (walk (fun st => files st.1) maxDepth (traced step) (ofLocation B) fuel (s₀, [])).2.length =
        fuel)) := by
  unfold walk
  beta_reduce
  -- the invariant of the loop: the property, and the frontier of the pending visits on the stack
  let P : List (List Visit) → σ → List Visit → Prop := fun stack s made =>
    Q made s ∧ Frontier (files s₀) (files s) B maxDepth made stack.flatten
  have hyield : ∀ {v vs rest s tr s'}, P ((v :: vs) :: rest) s tr → step v s = .yield s' →
      P (expand files maxDepth v s :: vs :: rest) s' (tr ++ [v]) := by
    intro v vs rest s tr s' ⟨hQ, hF⟩ hs
    rw [List.flatten_cons, List.cons_append] at hF
    obtain ⟨hQ', hgrow, hwf'⟩ := hstep hQ hF hs
    refine ⟨hQ', ?_⟩
    rw [List.flatten_cons, List.flatten_cons]
    exact hF.visit hwf₀ hgrow hwf'
  have hskip : ∀ {rest s tr}, P ([] :: rest) s tr → P rest s tr := by
    intro rest s tr hP
    simpa [P] using hP
  have hstart : P [[(files s₀).startVisit (ofLocation B)]] s₀ [] :=
    ⟨hQ₀, by simpa using Frontier.start hwf₀ hB⟩
  rcases walkLoop_traced_cases P hyield hskip fuel _ s₀ [] hstart with
    ⟨v, vs, rest, s, tr, ⟨hQ, hF⟩, hdone, hmade⟩ | ⟨stack, ⟨hQ, hF⟩, hend⟩
  · rw [List.flatten_cons, List.cons_append] at hF
    exact .inl ⟨tr, v, _, s, hQ, hF, hdone, hmade⟩
  · refine .inr ⟨stack.flatten, hQ, hF, hend.imp (fun h => by rw [h]; rfl) (by simpa using ·)⟩

end Run

end BuildRecipe.FileTree
