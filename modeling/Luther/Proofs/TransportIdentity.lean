/-
The transport across calls that resolve and override a configuration.

Both kinds of calls end with resolving the transport, and what tells an explicit URL from a derived
one is the variable of its provenance.  Resolving writes it, for a URL that the configuration
brings along, only where there is a profile; overriding never does.  A configuration without a
profile therefore loses the URL that it was written with to the first override, and derives none
before.
-/
import Luther.Lib.Layers
import Luther.Lib.StateMachine
import Luther.Proofs.ProfileStages

namespace Luther

open Stage

open Edits (Change)
open Sql (bind_ok)

/-! ### Calls -/

/-- A call on a configuration, with the disk and the order of the variables that it finds. -/
inductive ProfileCall where
  | resolve (order : VarOrder) (disk : TransportDisk)
  | override (disk : TransportDisk) (overrides : TargetProfileOverrides)

/-- A configuration between two calls, and what is to be known of the calls before. -/
structure ProfileRun where
  config : WorkflowConfig
  /-- The URL that is authored in the configuration, or given by the latest override of it. -/
  chosen : Option String
  /-- `target_repo` has been set by a call. -/
  named : Bool
  /-- The configuration has been resolved, and not been overridden since. -/
  resolved : Bool

/-- Resolving the configuration sets `target_repo`. -/
def namesRepo (profile : TargetProfileConfig) (config : WorkflowConfig) : Bool :=
  match identityVars profile config with
  | .ok edits => (edits.map Prod.fst).contains "target_repo"
  | .error _ => false

def ProfileRun.call (s : ProfileRun) : ProfileCall → Except ProfileError Unit × ProfileRun
  | .resolve order disk =>
    let (answer, after) := resolveTargetProfile order disk s.config
    (answer,
      { s with
        config := after
        named := s.named || s.config.targetProfile.any fun profile => namesRepo profile s.config
        resolved := s.resolved || answer.toBool })
  | .override disk overrides =>
    match applyTargetProfileOverrides disk overrides s.config with
    | (.error e, after) => (.error e, { s with config := after })
    | (.ok (), after) =>
      (.ok (),
        { config := after
          chosen := overrides.transportUrl.or s.chosen
          named := s.named || overrides.repo.isSome
          resolved := false })

def WorkflowConfig.beforeCalls (config : WorkflowConfig) : ProfileRun where
  config := config
  chosen := config.variables.lookup gitTransportUrlVar
  named := false
  resolved := false

/-- The calls on configurations that do not tell where their transport comes from. -/
def profileCalls : StateMachine ProfileRun ProfileCall (Except ProfileError Unit) where
  start s := ∃ config : WorkflowConfig,
    config.variables.lookup gitTransportSourceVar = none ∧ s = config.beforeCalls
  step := ProfileRun.call

/-! ### What is asked of a call -/

/-- The parts of the repository stand beside it. -/
def PartsKnown (vars : List (String × String)) : Prop :=
  ∃ repo owner name, vars.lookup "target_repo" = some repo ∧
    splitTargetRepo repo = .ok (owner, name) ∧
    vars.lookup "repository_owner" = some owner ∧ vars.lookup "repository_name" = some name

/-- A call that succeeds leaves the transport and the identity together. -/
structure Consistent (s : ProfileRun) : Prop where
  explicit : ∀ url, s.chosen = some url → s.config.variables.lookup gitTransportUrlVar = some url
  derived : s.chosen = none → ∀ repo, s.config.variables.lookup "target_repo" = some repo →
    s.config.variables.lookup gitTransportUrlVar = some (defaultTransportUrl repo)
  parts : s.named = true → PartsKnown s.config.variables

/-- Successful calls leave the transport and the identity together, resolving again changes nothing,
and neither does an override that is refused. -/
def CallFaithful (s : ProfileRun) (c : ProfileCall) : Prop :=
  (profileCalls.answer s c = .ok () → Consistent (profileCalls.next s c)) ∧
    match c with
    | .resolve _ _ => s.resolved = true → (profileCalls.next s c).config = s.config
    | .override _ _ => profileCalls.answer s c ≠ .ok () → (profileCalls.next s c).config = s.config

/-- The repository that resolving a configuration finds. -/
def repoToMerge (profile : TargetProfileConfig) (config : WorkflowConfig) : Option String :=
  (profile.identity.repo.or (config.variables.lookup "target_repo")).or do
    let owner ← profile.identity.owner
    let name ← profile.identity.name
    some s!"{owner}/{name}"

/-- The transport of this repository would not be another than the one that is chosen. -/
def DerivesChosen (s : ProfileRun) (repo : Option String) : Prop :=
  ∀ url, s.chosen = some url → ∀ named, repo = some named → defaultTransportUrl named = url

/-- **When a call that succeeds keeps the transport**: no URL that is chosen is derived over, and
where none is chosen one is derived. -/
def TransportGuarded (s : ProfileRun) : ProfileCall → Prop
  | .resolve _ _ =>
    match s.config.targetProfile with
    | none =>
      s.chosen = none → ∀ repo, s.config.variables.lookup "target_repo" = some repo →
        s.config.variables.lookup gitTransportUrlVar = some (defaultTransportUrl repo)
    | some profile =>
      s.config.variables.lookup gitTransportSourceVar = none ∨
        s.config.variables.lookup gitTransportSourceVar = some transportExplicit ∨
        DerivesChosen s (repoToMerge profile s.config)
  | .override _ overrides =>
    overrides.transportUrl.isSome = true ∨
      s.config.variables.lookup gitTransportSourceVar = some transportExplicit ∨
      DerivesChosen s (overrides.repo.or (s.config.variables.lookup "target_repo"))

/-- **When resolving again changes nothing**: the pathspecs are not read otherwise than before. -/
def PathspecsSettled (s : ProfileRun) : ProfileCall → Prop
  | .resolve order _ => s.resolved = true → ∀ profile, s.config.targetProfile = some profile →
      ∀ pathspecs, validatedProfileCommitExclusions order profile s.config = .ok pathspecs →
        Edits.Settled (pathspecVars pathspecs) s.config.variables
  | .override _ _ => True

def CallGuarded (s : ProfileRun) (c : ProfileCall) : Prop :=
  (profileCalls.answer s c = .ok () → TransportGuarded s c) ∧ PathspecsSettled s c

/-! ### The transport at the end of a call -/

variable {order : VarOrder} {profile : TargetProfileConfig} {config : WorkflowConfig}
  {disk : TransportDisk}
  {overrides : TargetProfileOverrides} {s : ProfileRun}

theorem resolveTransportUrl_keeps {url : String}
    (hurl : config.variables.lookup gitTransportUrlVar = some url)
    (h : (resolveTransportUrl disk).Succeeds config →
      config.variables.lookup gitTransportSourceVar = some transportExplicit ∨
        ∀ repo, config.variables.lookup "target_repo" = some repo → defaultTransportUrl repo = url) :
    (resolveTransportUrl disk config).2.variables.lookup gitTransportUrlVar = some url := by
  rcases resolveTransportUrl_cases disk config with ⟨e, heq⟩ | heq
  · rw [heq]
    exact hurl
  · have hguard := h (by rw [Stage.Succeeds, heq])
    rw [heq]
    dsimp only
    split
    · exact hurl
    · rename_i hsource
      split
      · exact hurl
      · rename_i repo hrepo
        rw [← hguard.resolve_left hsource repo hrepo]
        exact (settled_derivedVars repo config).lookup_put List.mem_cons_self

theorem resolveTransportUrl_derives
    (hsource : config.variables.lookup gitTransportSourceVar ≠ some transportExplicit) :
    (resolveTransportUrl disk config).2.variables.lookup gitTransportSourceVar ≠
        some transportExplicit ∧
      ((resolveTransportUrl disk).Succeeds config → ∀ repo,
        (resolveTransportUrl disk config).2.variables.lookup "target_repo" = some repo →
        (resolveTransportUrl disk config).2.variables.lookup gitTransportUrlVar =
          some (defaultTransportUrl repo)) := by
  unfold Stage.Succeeds
  rcases resolveTransportUrl_cases disk config with ⟨e, heq⟩ | heq
  · rw [heq]
    exact ⟨hsource, fun hfail => by cases hfail⟩
  · rw [heq, if_neg hsource]
    dsimp only
    split
    · rename_i hnone
      refine ⟨hsource, fun _ repo hrepo => ?_⟩
      rw [hnone] at hrepo
      cases hrepo
    · rename_i repo hrepo
      have hderived := settled_derivedVars repo config
      refine ⟨?_, fun _ other hother => ?_⟩
      · have hnow : _ = some transportDerived :=
          hderived.lookup_put (List.mem_cons_of_mem _ List.mem_cons_self)
        rw [hnow]
        decide
      · rw [lookup_derivedVars, hrepo] at hother
        obtain rfl := Option.some.inj hother
        exact hderived.lookup_put List.mem_cons_self

theorem PartsKnown.congr {vars vars' : List (String × String)} (h : PartsKnown vars)
    (hsame : ∀ key ∈ identityKeys, vars'.lookup key = vars.lookup key) : PartsKnown vars' := by
  obtain ⟨repo, owner, name, hrepo, hsplit, howner, hname⟩ := h
  refine ⟨repo, owner, name, ?_, hsplit, ?_, ?_⟩
  · rw [hsame _ List.mem_cons_self, hrepo]
  · rw [hsame _ (List.mem_cons_of_mem _ List.mem_cons_self), howner]
  · rw [hsame _ (List.mem_cons_of_mem _ (List.mem_cons_of_mem _ List.mem_cons_self)), hname]

theorem partsKnown_repositoryVars {repo owner name : String}
    (h : splitTargetRepo repo = .ok (owner, name)) (config : WorkflowConfig) :
    PartsKnown (config.editVars (repositoryVars repo owner name)).variables := by
  have hnames : ((repositoryVars repo owner name).map Prod.fst).Nodup :=
    show identityKeys.Nodup by decide
  have hput := Edits.settled_edits hnames config.variables
  exact ⟨repo, owner, name, hput.lookup_put (by simp [repositoryVars, insertVar]), h,
    hput.lookup_put (by simp [repositoryVars, insertVar]),
    hput.lookup_put (by simp [repositoryVars, insertVar])⟩

/-! ### Resolving -/

theorem lookup_identityVars {edits : List VarEdit} (h : identityVars profile config = .ok edits) :
    (config.editVars edits).variables.lookup "target_repo" = repoToMerge profile config := by
  unfold identityVars at h
  unfold repoToMerge
  split at h
  · rename_i repo hfound
    obtain ⟨⟨owner, name⟩, -, hok⟩ := bind_ok.mp h
    obtain rfl := Except.ok.inj hok
    rw [lookup_repositoryVars, hfound, Option.some_or]
  · rename_i hmissing
    rw [hmissing, Option.none_or]
    split at h
    · rename_i owner name howner hname
      obtain ⟨parts, -, hok⟩ := bind_ok.mp h
      obtain rfl := Except.ok.inj hok
      rw [lookup_repositoryVars, howner, hname]
      rfl
    · rename_i hpair
      obtain rfl := Except.ok.inj h
      have hkept : "target_repo" ∉ identityKeys.drop 1 := by decide
      rw [variables_editVars, Edits.lookup_edits_of_notMem hkept,
        (Option.or_eq_none_iff.mp hmissing).2]
      cases howner : profile.identity.owner with
      | none => rfl
      | some owner =>
        cases hname : profile.identity.name with
        | none => rfl
        | some name => exact absurd hname (hpair owner name howner)

theorem partsKnown_identityStage
    (h : namesRepo profile config = true ∨ PartsKnown config.variables) :
    PartsKnown (identityStage profile config).2.variables := by
  unfold namesRepo at h
  rcases identityStage_cases profile config with ⟨e, hvars, heq⟩ | ⟨edits, hvars, heq⟩
  · rw [heq]
    rw [hvars] at h
    exact h.resolve_left (by simp)
  · rw [heq]
    rw [hvars] at h
    dsimp only at h ⊢
    unfold identityVars at hvars
    split at hvars
    · obtain ⟨⟨owner, name⟩, hsplit, hok⟩ := bind_ok.mp hvars
      obtain rfl := Except.ok.inj hok
      exact partsKnown_repositoryVars hsplit config
    · rename_i hmissing
      split at hvars
      · obtain ⟨⟨before, after⟩, hsplit, hok⟩ := bind_ok.mp hvars
        obtain rfl := Except.ok.inj hok
        obtain ⟨rfl, rfl⟩ := splitTargetRepo_joined hsplit
        exact partsKnown_repositoryVars hsplit config
      · obtain rfl := Except.ok.inj hvars
        rcases h with hnamed | ⟨repo, owner, name, hrepo, -⟩
        · exact absurd hnamed (show ¬ (identityKeys.drop 1).contains "target_repo" = true by decide)
        · rw [(Option.or_eq_none_iff.mp hmissing).2] at hrepo
          cases hrepo

def frontStages (order : VarOrder) (profile : TargetProfileConfig) : List ProfileStage :=
  identityStage profile :: (sectionStages order profile ++ [policyStage order profile])

theorem leaves_frontStages : Leaves transportKeys id (Stage.run (frontStages order profile)) := by
  refine leaves_run ?_
  unfold frontStages
  rw [List.forall_mem_cons, List.forall_mem_append, List.forall_mem_singleton]
  exact ⟨leaves_identityStage (by decide), leaves_sectionStages (by decide),
    leaves_policyStage (by decide) (by decide)⟩

theorem leaves_behindIdentity :
    ∀ stage ∈ sectionStages order profile ++ tailStages order disk profile,
      Leaves identityKeys id stage := by
  rw [List.forall_mem_append]
  exact ⟨leaves_sectionStages (by decide),
    leaves_tailStages disk (by decide) (by decide) (by decide)⟩

theorem lookup_frontStages (h : (Stage.run (frontStages order profile)).Succeeds config) :
    (Stage.run (frontStages order profile) config).2.variables.lookup "target_repo" =
      repoToMerge profile config := by
  refine @run_brings _ _ [] _ _ _
    (fun after => after.variables.lookup "target_repo" = repoToMerge profile config) h
    (fun hidentity => ?_) (fun stage hstage after hafter => ?_)
  · unfold Stage.Succeeds at hidentity
    rw [run_nil] at hidentity ⊢
    rcases identityStage_cases profile config with ⟨e, -, heq⟩ | ⟨edits, hvars, heq⟩
    · rw [heq] at hidentity
      cases hidentity
    · rw [heq]
      exact lookup_identityVars hvars
  · have hleaves : Leaves identityKeys id stage := by
      rcases List.mem_append.mp hstage with hsection | hpolicy
      · exact leaves_sectionStages (by decide) stage hsection
      · rw [List.mem_singleton.mp hpolicy]
        exact leaves_policyStage (by decide) (by decide)
    rw [hleaves.vars after "target_repo" List.mem_cons_self, hafter]

section

variable (disk : TransportDisk)

/-- **Resolving ends with the transport**, unless it has failed before. -/
theorem resolveTargetProfile_cases (hprofile : config.targetProfile = some profile) :
    (¬ (resolveTargetProfile order disk).Succeeds config ∧
        (resolveTargetProfile order disk config).2 =
          (Stage.run (frontStages order profile) config).2) ∨
      ((Stage.run (frontStages order profile)).Succeeds config ∧
        resolveTargetProfile order disk config = resolveTransportUrl disk
          (markAuthoredTransport (Stage.run (frontStages order profile) config).2).2) := by
  unfold Stage.Succeeds
  rw [resolveTargetProfile_eq disk hprofile]
  rcases run_append (frontStages order profile)
    [markAuthoredTransport, resolveTransportUrl disk] config with ⟨-, hfail, heq⟩ | ⟨hfront, heq⟩
  · exact Or.inl ⟨hfail, heq⟩
  · refine Or.inr ⟨hfront, ?_⟩
    rcases run_cons markAuthoredTransport [resolveTransportUrl disk]
      (Stage.run (frontStages order profile) config).2 with ⟨hmark, -⟩ | ⟨-, hrest⟩
    · refine absurd ?_ hmark
      unfold Stage.Succeeds
      rw [markAuthoredTransport_eq]
    · rw [run_singleton] at hrest
      rw [← hrest]
      exact heq

theorem targetProfile_resolveTargetProfile (config : WorkflowConfig) :
    (resolveTargetProfile order disk config).2.targetProfile = config.targetProfile := by
  cases hprofile : config.targetProfile with
  | none =>
    unfold resolveTargetProfile
    rw [hprofile]
    exact hprofile
  | some profile =>
    have hall : Leaves [] id (Stage.run (identityStage profile ::
        (sectionStages order profile ++ tailStages order disk profile))) := by
      refine leaves_run ?_
      rw [List.forall_mem_cons, List.forall_mem_append]
      exact ⟨leaves_identityStage (by decide), leaves_sectionStages (by decide),
        leaves_tailStages disk (by decide) (by decide) (by decide)⟩
    rw [resolveTargetProfile_eq disk hprofile, hall.profile, hprofile]

/-- **Resolving makes the parts known, or leaves them so.** -/
theorem partsKnown_resolveTargetProfile (hprofile : config.targetProfile = some profile)
    (h : namesRepo profile config = true ∨ PartsKnown config.variables) :
    PartsKnown (resolveTargetProfile order disk config).2.variables := by
  have hidentity := partsKnown_identityStage h
  rw [resolveTargetProfile_eq disk hprofile]
  rcases run_cons (identityStage profile)
    (sectionStages order profile ++ tailStages order disk profile) config with ⟨-, -, heq⟩ | ⟨-, heq⟩
  · rw [heq]
    exact hidentity
  · rw [heq]
    exact hidentity.congr ((leaves_run leaves_behindIdentity).vars _)

theorem lookup_markAuthoredTransport (config : WorkflowConfig) :
    (∀ key, key ≠ gitTransportSourceVar →
        (markAuthoredTransport config).2.variables.lookup key = config.variables.lookup key) ∧
      (markAuthoredTransport config).2.variables.lookup gitTransportSourceVar =
        (config.variables.lookup gitTransportSourceVar).or
          ((config.variables.lookup gitTransportUrlVar).map fun _ => transportExplicit) := by
  rw [markAuthoredTransport_eq]
  dsimp only
  split
  · rename_i hboth
    obtain ⟨hurl, hsource⟩ := Bool.and_eq_true_iff.mp hboth
    obtain ⟨url, hurl⟩ := Option.isSome_iff_exists.mp hurl
    rw [Option.isNone_iff_eq_none.mp hsource, hurl]
    exact ⟨fun key hkey => Edits.lookup_edit_ne hkey (.put transportExplicit) config.variables,
      Edits.lookup_edit_self gitTransportSourceVar (.put transportExplicit) config.variables⟩
  · rename_i hnot
    refine ⟨fun _ _ => rfl, ?_⟩
    cases hsource : config.variables.lookup gitTransportSourceVar with
    | some source => rfl
    | none =>
      cases hurl : config.variables.lookup gitTransportUrlVar with
      | none => rfl
      | some url =>
        refine absurd ?_ hnot
        rw [hsource, hurl]
        rfl

/-! ### Overriding -/

section

variable (overrides : TargetProfileOverrides)

def overrideRepo : ProfileStage :=
  Stage.update fun config =>
    match overrides.repo with
    | none => .ok config
    | some repo => do
      let (owner, name) ← splitTargetRepo repo
      .ok (config.editVars (repositoryVars repo owner name))

def overrideIssue : ProfileStage :=
  Stage.update fun config =>
    match overrides.issue with
    | none => .ok config
    | some issue =>
      let numbered := config.editVars [insertVar "primary_issue_number" issue]
      .ok { numbered with
        «variables» := numbered.variables.filter fun entry => entry.1 != "issue_number" }

def overrideTransport : ProfileStage :=
  Stage.update fun config =>
    match overrides.transportUrl with
    | none => .ok config
    | some url =>
      match validateTransportUrl disk url with
      | .error refusal => .error (.transport refusal)
      | .ok () => .ok (config.editVars
          [insertVar gitTransportUrlVar url, insertVar gitTransportSourceVar transportExplicit])

/-- The overrides that have nothing to do with the repository. -/
def overrideOthers : List ProfileStage :=
  [overrideIssue overrides, overridePath "work_dir" overrides.workDir,
    overridePath "artifact_dir" overrides.artifactDir]

theorem applyOverridesUnchecked_eq :
    applyOverridesUnchecked disk overrides =
      overrideRepo overrides ::
        (overrideOthers overrides ++
          [overrideTransport disk overrides, resolveTransportUrl disk]) := rfl

end

end

theorem leaves_overrideIssue : Leaves (identityKeys ++ transportKeys) id (overrideIssue overrides) := by
  refine leaves_update fun config after h => ?_
  cases hissue : overrides.issue with
  | none =>
    rw [hissue] at h
    obtain rfl := Except.ok.inj h
    exact ⟨rfl, fun _ _ => rfl, id⟩
  | some issue =>
    rw [hissue] at h
    obtain rfl := Except.ok.inj h
    refine ⟨rfl, fun key hkey => ?_, id⟩
    have hall : ((identityKeys ++ transportKeys).all fun key =>
      !(["primary_issue_number", "issue_number"].contains key)) = true := by decide
    have hapart := apart_of_all hall key hkey
    rw [List.mem_cons, List.mem_singleton, not_or] at hapart
    dsimp only
    rw [Layers.lookup_filter_fst fun k => k != "issue_number", if_pos (by simpa using hapart.2)]
    exact Edits.lookup_edit_ne hapart.1 (.put issue) config.variables

theorem leaves_overridePath {key : String} (path : Option PathOverride)
    (hkey : ((identityKeys ++ transportKeys).contains key) = false) :
    Leaves (identityKeys ++ transportKeys) id (overridePath key path) := by
  refine leaves_update fun config after h => ?_
  cases path with
  | none =>
    obtain rfl := Except.ok.inj h
    exact ⟨rfl, fun _ _ => rfl, id⟩
  | some path =>
    obtain ⟨text, -, hok⟩ := bind_ok.mp h
    obtain rfl := Except.ok.inj hok
    refine ⟨rfl, fun other hother => ?_, id⟩
    refine Edits.lookup_edit_ne (fun heq : other = key => ?_) (.put text) config.variables
    rw [← heq, List.contains_iff_mem.mpr hother] at hkey
    cases hkey

theorem leaves_overrideOthers :
    Leaves (identityKeys ++ transportKeys) id (Stage.run (overrideOthers overrides)) := by
  refine leaves_run ?_
  unfold overrideOthers
  rw [List.forall_mem_cons, List.forall_mem_cons, List.forall_mem_singleton]
  exact ⟨leaves_overrideIssue, leaves_overridePath _ (by decide), leaves_overridePath _ (by decide)⟩

/-- What the overrides have made of the configuration before its transport is resolved. -/
structure Overridden (overrides : TargetProfileOverrides) (config before : WorkflowConfig) : Prop where
  repo : before.variables.lookup "target_repo" =
    overrides.repo.or (config.variables.lookup "target_repo")
  parts : overrides.repo.isSome = true ∨ PartsKnown config.variables → PartsKnown before.variables
  kept : overrides.transportUrl = none → ∀ key ∈ transportKeys,
    before.variables.lookup key = config.variables.lookup key
  given : ∀ url, overrides.transportUrl = some url →
    before.variables.lookup gitTransportUrlVar = some url ∧
      before.variables.lookup gitTransportSourceVar = some transportExplicit

theorem overrideRepo_brings (h : (overrideRepo overrides).Succeeds config) :
    (overrideRepo overrides config).2.variables.lookup "target_repo" =
        overrides.repo.or (config.variables.lookup "target_repo") ∧
      (overrides.repo.isSome = true ∨ PartsKnown config.variables →
        PartsKnown (overrideRepo overrides config).2.variables) ∧
      ∀ key ∈ transportKeys, (overrideRepo overrides config).2.variables.lookup key =
        config.variables.lookup key := by
  unfold Stage.Succeeds overrideRepo at *
  rcases update_cases _ config with ⟨e, -, heq⟩ | ⟨after, hafter, heq⟩
  · rw [heq] at h
    cases h
  · rw [heq]
    beta_reduce at hafter
    cases hrepo : overrides.repo with
    | none =>
      rw [hrepo] at hafter
      obtain rfl := Except.ok.inj hafter
      exact ⟨rfl, fun hparts => hparts.resolve_left (by simp), fun _ _ => rfl⟩
    | some repo =>
      rw [hrepo] at hafter
      obtain ⟨⟨owner, name⟩, hsplit, hok⟩ := bind_ok.mp hafter
      obtain rfl := Except.ok.inj hok
      refine ⟨lookup_repositoryVars repo owner name config,
        fun _ => partsKnown_repositoryVars hsplit config, fun key hkey => ?_⟩
      have hall : (transportKeys.all fun key => !identityKeys.contains key) = true := by decide
      exact Edits.lookup_edits_of_notMem (apart_of_all hall key hkey) _

theorem overrideTransport_brings (h : (overrideTransport disk overrides).Succeeds config) :
    (∀ key ∈ identityKeys, (overrideTransport disk overrides config).2.variables.lookup key =
        config.variables.lookup key) ∧
      (overrides.transportUrl = none → (overrideTransport disk overrides config).2 = config) ∧
      ∀ url, overrides.transportUrl = some url →
        (overrideTransport disk overrides config).2.variables.lookup gitTransportUrlVar = some url ∧
          (overrideTransport disk overrides config).2.variables.lookup gitTransportSourceVar =
            some transportExplicit := by
  unfold Stage.Succeeds overrideTransport at *
  rcases update_cases _ config with ⟨e, -, heq⟩ | ⟨after, hafter, heq⟩
  · rw [heq] at h
    cases h
  · rw [heq]
    beta_reduce at hafter
    cases hgiven : overrides.transportUrl with
    | none =>
      rw [hgiven] at hafter
      obtain rfl := Except.ok.inj hafter
      exact ⟨fun _ _ => rfl, fun _ => rfl, nofun⟩
    | some url =>
      rw [hgiven] at hafter
      dsimp only at hafter
      split at hafter
      · cases hafter
      · obtain rfl := Except.ok.inj hafter
        have hnames : ([insertVar gitTransportUrlVar url,
            insertVar gitTransportSourceVar transportExplicit].map Prod.fst).Nodup :=
          show transportKeys.Nodup by decide
        have hput := Edits.settled_edits hnames config.variables
        refine ⟨fun key hkey => ?_, nofun, fun other hother => ?_⟩
        · have hall : (identityKeys.all fun key => !transportKeys.contains key) = true := by decide
          exact Edits.lookup_edits_of_notMem (apart_of_all hall key hkey) _
        · obtain rfl := Option.some.inj hother
          exact ⟨hput.lookup_put List.mem_cons_self,
            hput.lookup_put (List.mem_cons_of_mem _ List.mem_cons_self)⟩

/-- **Overriding ends with the transport of a configuration that is overridden, or it changes
nothing.** -/
theorem applyTargetProfileOverrides_cases (disk : TransportDisk)
    (overrides : TargetProfileOverrides) (config : WorkflowConfig) :
    (∃ e, applyTargetProfileOverrides disk overrides config = (.error e, config)) ∨
      ∃ before after, Overridden overrides config before ∧
        resolveTransportUrl disk before = (.ok (), after) ∧
        applyTargetProfileOverrides disk overrides config = (.ok (), after) := by
  unfold applyTargetProfileOverrides
  cases hrun : Stage.run (applyOverridesUnchecked disk overrides) config with
  | mk answer after =>
    cases answer with
    | error e => exact Or.inl ⟨e, rfl⟩
    | ok u =>
      rw [applyOverridesUnchecked_eq] at hrun
      rcases run_cons (overrideRepo overrides) _ config with ⟨-, hfail, -⟩ | ⟨hrepo, heq⟩
      · refine absurd ?_ hfail
        unfold Stage.Succeeds
        rw [hrun]
      rw [heq] at hrun
      have hmiddle := run_append (overrideOthers overrides)
        [overrideTransport disk overrides, resolveTransportUrl disk]
        (overrideRepo overrides config).2
      rcases hmiddle with ⟨-, hfail, -⟩ | ⟨-, heq⟩
      · refine absurd ?_ hfail
        unfold Stage.Succeeds
        rw [hrun]
      rw [heq] at hrun
      have hleaves := @leaves_overrideOthers overrides
      rcases run_cons (overrideTransport disk overrides) [resolveTransportUrl disk] _ with
        ⟨-, hfail, -⟩ | ⟨htransport, heq⟩
      · refine absurd ?_ hfail
        unfold Stage.Succeeds
        rw [hrun]
      rw [heq, run_singleton] at hrun
      obtain ⟨hnamed, hparts, hkept⟩ := overrideRepo_brings hrepo
      obtain ⟨hidentity, hnone, hgiven⟩ := overrideTransport_brings htransport
      have hsame : ∀ key ∈ identityKeys, _ = _ := fun key hkey =>
        (hidentity key hkey).trans (hleaves.vars _ key (List.mem_append_left _ hkey))
      refine Or.inr ⟨_, after, ⟨?_, fun h => ?_, fun h key hkey => ?_, hgiven⟩, hrun, rfl⟩
      · rw [hsame "target_repo" List.mem_cons_self, hnamed]
      · exact (hparts h).congr hsame
      · rw [hnone h, hleaves.vars _ key (List.mem_append_right _ hkey), hkept key hkey]

/-! ### Runs -/

/-- What is known between two calls. -/
structure Tracked (s : ProfileRun) : Prop where
  explicit : ∀ url, s.chosen = some url → s.config.variables.lookup gitTransportUrlVar = some url
  derived : s.chosen = none → Marked s.config ∧
    s.config.variables.lookup gitTransportSourceVar ≠ some transportExplicit
  parts : s.named = true → PartsKnown s.config.variables
  resolved : s.resolved = true → ∀ profile, s.config.targetProfile = some profile →
    ∃ pathspecs, Resolved profile pathspecs s.config

theorem tracked_beforeCalls (h : config.variables.lookup gitTransportSourceVar = none) :
    Tracked config.beforeCalls := by
  refine ⟨fun url hurl => hurl, fun hnone => ⟨fun hurl => ?_, ?_⟩, nofun, nofun⟩
  · have hurl : (config.variables.lookup gitTransportUrlVar).isSome = true := hurl
    rw [show config.variables.lookup gitTransportUrlVar = none from hnone] at hurl
    cases hurl
  · rw [show config.beforeCalls.config = config from rfl, h]
    nofun

theorem resolveTransportUrl_tracks {chosen : Option String} {before after : WorkflowConfig}
    {answer : Except ProfileError Unit} (heq : resolveTransportUrl disk before = (answer, after))
    (hexplicit : ∀ url, chosen = some url →
      before.variables.lookup gitTransportUrlVar = some url ∧
        (answer = .ok () → before.variables.lookup gitTransportSourceVar = some transportExplicit ∨
          ∀ repo, before.variables.lookup "target_repo" = some repo →
            defaultTransportUrl repo = url))
    (hderived : chosen = none → Marked before ∧
      before.variables.lookup gitTransportSourceVar ≠ some transportExplicit) :
    (∀ url, chosen = some url → after.variables.lookup gitTransportUrlVar = some url) ∧
      (chosen = none → Marked after ∧
        after.variables.lookup gitTransportSourceVar ≠ some transportExplicit ∧
        (answer = .ok () → ∀ repo, after.variables.lookup "target_repo" = some repo →
          after.variables.lookup gitTransportUrlVar = some (defaultTransportUrl repo))) := by
  obtain rfl : after = (resolveTransportUrl disk before).2 := by rw [heq]
  obtain rfl : answer = (resolveTransportUrl disk before).1 := by rw [heq]
  refine ⟨fun url hurl => ?_, fun hnone => ?_⟩
  · exact resolveTransportUrl_keeps (hexplicit url hurl).1 (hexplicit url hurl).2
  · obtain ⟨hmarked, hsource⟩ := hderived hnone
    obtain ⟨hsource', hurl⟩ := @resolveTransportUrl_derives before disk hsource
    exact ⟨hmarked.keep disk, hsource', hurl⟩

/-- **Resolving with a profile keeps a chosen URL, and derives one where there is none.** -/
theorem resolveTargetProfile_tracks (h : Tracked s) (hprofile : s.config.targetProfile = some profile)
    (hguard : (resolveTargetProfile order disk s.config).1 = .ok () →
      s.config.variables.lookup gitTransportSourceVar = none ∨
        s.config.variables.lookup gitTransportSourceVar = some transportExplicit ∨
        DerivesChosen s (repoToMerge profile s.config)) :
    (∀ url, s.chosen = some url →
        (resolveTargetProfile order disk s.config).2.variables.lookup gitTransportUrlVar = some url) ∧
      (s.chosen = none → Marked (resolveTargetProfile order disk s.config).2 ∧
        (resolveTargetProfile order disk s.config).2.variables.lookup gitTransportSourceVar ≠
          some transportExplicit ∧
        ((resolveTargetProfile order disk s.config).1 = .ok () → ∀ repo,
          (resolveTargetProfile order disk s.config).2.variables.lookup "target_repo" = some repo →
          (resolveTargetProfile order disk s.config).2.variables.lookup gitTransportUrlVar =
            some (defaultTransportUrl repo))) := by
  have hfront := @leaves_frontStages order profile
  have hsource := hfront.vars s.config gitTransportSourceVar
    (List.mem_cons_of_mem _ List.mem_cons_self)
  have hurl := hfront.vars s.config gitTransportUrlVar List.mem_cons_self
  rcases resolveTargetProfile_cases disk hprofile with ⟨hfail, heq⟩ | ⟨hsucceeds, heq⟩
  · rw [heq]
    refine ⟨fun url hchosen => hurl.trans (h.explicit url hchosen), fun hnone => ?_⟩
    obtain ⟨hmarked, hnot⟩ := h.derived hnone
    refine ⟨fun hpresent => ?_, ?_, fun hok => absurd hok hfail⟩
    · rw [hurl] at hpresent
      rw [hsource]
      exact hmarked hpresent
    · rw [hsource]
      exact hnot
  · obtain ⟨hothers, hmark⟩ :=
      lookup_markAuthoredTransport (Stage.run (frontStages order profile) s.config).2
    rw [hsource, hurl] at hmark
    have hkept := (hothers gitTransportUrlVar (by decide)).trans hurl
    have hrepo := (hothers "target_repo" (by decide)).trans (lookup_frontStages hsucceeds)
    refine resolveTransportUrl_tracks heq.symm (fun url hchosen => ?_)
      fun hnone => ⟨marked_markAuthoredTransport _, ?_⟩
    · refine ⟨hkept.trans (h.explicit url hchosen), fun hok => ?_⟩
      rw [hmark, hrepo, h.explicit url hchosen]
      rcases hguard hok with hmissing | hexplicit | hderives
      · rw [hmissing]
        exact Or.inl rfl
      · rw [hexplicit]
        exact Or.inl rfl
      · exact Or.inr (hderives url hchosen)
    · obtain ⟨hmarked, hnot⟩ := h.derived hnone
      rw [hmark]
      cases hcase : s.config.variables.lookup gitTransportSourceVar with
      | some source =>
        rw [hcase] at hnot
        exact hnot
      | none =>
        cases hpresent : s.config.variables.lookup gitTransportUrlVar with
        | none => nofun
        | some url =>
          have hthere := hmarked (by rw [hpresent]; rfl)
          rw [hcase] at hthere
          cases hthere

theorem answer_resolve (s : ProfileRun) (order : VarOrder) (disk : TransportDisk) :
    profileCalls.answer s (.resolve order disk) = (resolveTargetProfile order disk s.config).1 := rfl

theorem next_resolve (s : ProfileRun) (order : VarOrder) (disk : TransportDisk) :
    profileCalls.next s (.resolve order disk) =
      { s with
        config := (resolveTargetProfile order disk s.config).2
        named := s.named || s.config.targetProfile.any fun profile => namesRepo profile s.config
        resolved := s.resolved || (resolveTargetProfile order disk s.config).1.toBool } := rfl

theorem step_override_error {e : ProfileError}
    (h : applyTargetProfileOverrides disk overrides s.config = (.error e, config)) :
    profileCalls.step s (.override disk overrides) = (.error e, { s with config := config }) := by
  show ProfileRun.call s (.override disk overrides) = _
  unfold ProfileRun.call
  dsimp only
  rw [h]

theorem step_override_ok
    (h : applyTargetProfileOverrides disk overrides s.config = (.ok (), config)) :
    profileCalls.step s (.override disk overrides) =
      (.ok (),
        { config := config
          chosen := overrides.transportUrl.or s.chosen
          named := s.named || overrides.repo.isSome
          resolved := false }) := by
  show ProfileRun.call s (.override disk overrides) = _
  unfold ProfileRun.call
  dsimp only
  rw [h]

theorem resolveTargetProfile_none (order : VarOrder) (disk : TransportDisk)
    (h : config.targetProfile = none) :
    resolveTargetProfile order disk config = (.ok (), config) := by
  unfold resolveTargetProfile
  rw [h]

theorem tracks_resolve (h : Tracked s) (hc : CallGuarded s (.resolve order disk)) :
    Tracked (profileCalls.next s (.resolve order disk)) ∧ CallFaithful s (.resolve order disk) := by
  obtain ⟨htransport, hpathspecs⟩ := hc
  unfold CallFaithful
  dsimp only
  rw [answer_resolve] at htransport ⊢
  rw [next_resolve]
  unfold TransportGuarded at htransport
  cases hprofile : s.config.targetProfile with
  | none =>
    rw [hprofile] at htransport
    rw [resolveTargetProfile_none order disk hprofile] at htransport ⊢
    have hnamed : (s.named || (none : Option TargetProfileConfig).any
        fun profile => namesRepo profile s.config) = true → s.named = true := by simp
    refine ⟨⟨h.explicit, h.derived, fun hall => h.parts (hnamed hall), fun _ profile hsome => ?_⟩,
      fun _ => ⟨h.explicit, htransport rfl, fun hall => h.parts (hnamed hall)⟩, fun _ => rfl⟩
    dsimp only at hsome
    rw [hprofile] at hsome
    cases hsome
  | some profile =>
    rw [hprofile] at htransport
    obtain ⟨hexplicit, hderived⟩ := resolveTargetProfile_tracks h hprofile htransport
    have hparts : (s.named || (some profile).any fun profile => namesRepo profile s.config) =
        true → PartsKnown (resolveTargetProfile order disk s.config).2.variables := by
      intro hnamed
      refine partsKnown_resolveTargetProfile disk hprofile ?_
      rcases Bool.or_eq_true_iff.mp hnamed with hbefore | hnow
      · exact Or.inr (h.parts hbefore)
      · exact Or.inl hnow
    have hagain : s.resolved = true → (resolveTargetProfile order disk s.config).2 = s.config := by
      intro hresolved
      obtain ⟨pathspecs, hdone⟩ := h.resolved hresolved profile hprofile
      exact hdone.again hprofile (hpathspecs hresolved profile hprofile) disk
    refine ⟨⟨hexplicit, fun hnone => ⟨(hderived hnone).1, (hderived hnone).2.1⟩, hparts,
        fun hresolved other hother => ?_⟩,
      fun hok => ⟨hexplicit, fun hnone => (hderived hnone).2.2 hok, hparts⟩, hagain⟩
    dsimp only at hother
    rw [targetProfile_resolveTargetProfile, hprofile] at hother
    obtain rfl := Option.some.inj hother
    rcases Bool.or_eq_true_iff.mp hresolved with hbefore | hnow
    · rw [hagain hbefore]
      exact h.resolved hbefore profile hprofile
    · have hsucceeds : (resolveTargetProfile order disk).Succeeds s.config := by
        unfold Stage.Succeeds
        cases hanswer : (resolveTargetProfile order disk s.config).1 with
        | ok u => rfl
        | error e =>
          rw [hanswer] at hnow
          cases hnow
      obtain ⟨pathspecs, -, hdone⟩ := resolved_of_succeeds hprofile hsucceeds
      exact ⟨pathspecs, hdone⟩

theorem tracks_override (h : Tracked s) (hc : CallGuarded s (.override disk overrides)) :
    Tracked (profileCalls.next s (.override disk overrides)) ∧
      CallFaithful s (.override disk overrides) := by
  obtain ⟨htransport, -⟩ := hc
  unfold CallFaithful StateMachine.answer StateMachine.next at *
  dsimp only
  rcases applyTargetProfileOverrides_cases disk overrides s.config with
    ⟨e, heq⟩ | ⟨before, after, hbefore, hlast, heq⟩
  · rw [step_override_error heq]
    exact ⟨h, nofun, fun _ => rfl⟩
  · rw [step_override_ok heq] at htransport ⊢
    have hguard := htransport rfl
    have hchosen : ∀ url, overrides.transportUrl.or s.chosen = some url →
        before.variables.lookup gitTransportUrlVar = some url ∧
          (before.variables.lookup gitTransportSourceVar = some transportExplicit ∨
            ∀ repo, before.variables.lookup "target_repo" = some repo →
              defaultTransportUrl repo = url) := by
      intro url hchosen
      cases hgiven : overrides.transportUrl with
      | some given =>
        rw [hgiven, Option.some_or] at hchosen
        obtain rfl := Option.some.inj hchosen
        obtain ⟨hurl, hsource⟩ := hbefore.given given hgiven
        exact ⟨hurl, Or.inl hsource⟩
      | none =>
        rw [hgiven, Option.none_or] at hchosen
        have hkept := hbefore.kept hgiven
        refine ⟨(hkept _ List.mem_cons_self).trans (h.explicit url hchosen), ?_⟩
        rcases hguard with hsome | hsource | hderives
        · rw [hgiven] at hsome
          cases hsome
        · exact Or.inl ((hkept _ (List.mem_cons_of_mem _ List.mem_cons_self)).trans hsource)
        · refine Or.inr fun repo hrepo => hderives url hchosen repo ?_
          rw [← hbefore.repo, hrepo]
    have hmissing : overrides.transportUrl.or s.chosen = none → Marked before ∧
        before.variables.lookup gitTransportSourceVar ≠ some transportExplicit := by
      intro hnone
      obtain ⟨hgiven, hchosen⟩ := Option.or_eq_none_iff.mp hnone
      obtain ⟨hmarked, hsource⟩ := h.derived hchosen
      have hkept := hbefore.kept hgiven
      have hsame := hkept _ (List.mem_cons_of_mem _ List.mem_cons_self)
      refine ⟨fun hpresent => ?_, ?_⟩
      · rw [hkept _ List.mem_cons_self] at hpresent
        rw [hsame]
        exact hmarked hpresent
      · rw [hsame]
        exact hsource
    have hparts : (s.named || overrides.repo.isSome) = true → PartsKnown after.variables := by
      intro hnamed
      have hknown : PartsKnown before.variables := by
        refine hbefore.parts ?_
        rcases Bool.or_eq_true_iff.mp hnamed with hold | hnow
        · exact Or.inr (h.parts hold)
        · exact Or.inl hnow
      obtain rfl : after = (resolveTransportUrl disk before).2 := by rw [hlast]
      have hall : (identityKeys.all fun key => !transportKeys.contains key) = true := by decide
      obtain ⟨-, hleaves⟩ : Leaves _ id markAuthoredTransport ∧
          Leaves _ id (resolveTransportUrl disk) := leaves_transport (apart_of_all hall) disk
      exact hknown.congr (hleaves.vars before)
    obtain ⟨hexplicit, hderived⟩ := resolveTransportUrl_tracks hlast
      (fun url hurl => ⟨(hchosen url hurl).1, fun _ => (hchosen url hurl).2⟩) hmissing
    exact ⟨⟨hexplicit, fun hnone => ⟨(hderived hnone).1, (hderived hnone).2.1⟩, hparts, nofun⟩,
      fun _ => ⟨hexplicit, fun hnone => (hderived hnone).2.2 rfl, hparts⟩,
      fun hnot => absurd rfl hnot⟩

/-- **In every run whose calls are guarded the transport follows the identity, an explicit URL
survives, resolving again changes nothing, and neither does a refused override.** -/
theorem transport_follows_identity (config : WorkflowConfig)
    (hsource : config.variables.lookup gitTransportSourceVar = none) (calls : List ProfileCall)
    (hcalls : profileCalls.Along CallGuarded config.beforeCalls calls) :
    profileCalls.Along CallFaithful config.beforeCalls calls := by
  refine hcalls.gives (fun s c hc h => ?_) (tracked_beforeCalls hsource)
  cases c with
  | resolve order disk => exact tracks_resolve h hc
  | override disk overrides => exact tracks_override h hc

def asWritten : VarOrder := ⟨id, fun _ => .rfl⟩

def bareDisk : TransportDisk where
  present _ := false
  isDir _ := false

/-- A configuration without a profile, written with a transport of its own. -/
def mirroredConfig : WorkflowConfig where
  configId := "mirrored"
  «variables» := [("target_repo", "acme/app"), ("git_transport_url", "ssh://mirror/acme/app")]

/-- Its URL does not survive the first override. -/
theorem authored_url_overwritten :
    ¬ ∀ config : WorkflowConfig, config.variables.lookup gitTransportSourceVar = none →
      ∀ (order : VarOrder) (disk : TransportDisk) (calls : List ProfileCall),
        profileCalls.Along CallFaithful config.beforeCalls (.resolve order disk :: calls) := by
  intro h
  have hrun := h mirroredConfig (by decide) asWritten bareDisk
    [.override bareDisk { repo := some "acme/lib" }]
  obtain ⟨-, ⟨hfaithful, -⟩, -⟩ := hrun
  have hurl := (hfaithful (by decide)).explicit "ssh://mirror/acme/app" (by decide)
  exact absurd hurl (by decide)

/-- A transport that an override has chosen survives the next one. -/
theorem transport_follows_identity_mirror :
    profileCalls.Along CallFaithful mirroredConfig.beforeCalls
      [.resolve asWritten bareDisk,
        .override bareDisk { transportUrl := some "ssh://mirror/acme/app" },
        .override bareDisk { repo := some "acme/lib" }, .resolve asWritten bareDisk] := by
  refine transport_follows_identity mirroredConfig (by decide) _ ⟨⟨fun _ => ?_, nofun⟩,
    ⟨fun _ => Or.inl rfl, trivial⟩, ⟨fun _ => Or.inr (Or.inl (by decide)), trivial⟩,
    ⟨fun _ => ?_, fun hresolved => ?_⟩, trivial⟩
  · show mirroredConfig.beforeCalls.chosen = none → _
    nofun
  · show some "ssh://mirror/acme/app" = none → _
    nofun
  · exact absurd hresolved (by decide)

end Luther
