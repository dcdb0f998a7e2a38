/-
What the stages of resolving a configuration touch.

Every section of the profile is written under keys of its own, so a section that has been merged
stays merged while the later ones are, and merging it again changes nothing.  The one exception are
the pathspecs: they are read with the variables as they stand when they are read, and some of these
are only merged behind them.
-/
import Luther.Lib.Sql
import Luther.Workflow.TargetProfile

namespace Luther

open Stage

open Edits (Change)
open Sql (bind_ok)

variable {order : VarOrder} {profile : TargetProfileConfig} {config : WorkflowConfig}

/-! ### Repositories -/

variable {name owner key : String} {pathspecs : List String}

theorem splitTargetRepo_ok {repo : String} (h : splitTargetRepo repo = .ok (owner, name)) :
    repo.toList = owner.toList ++ '/' :: name.toList ∧ '/' ∉ owner.toList ∧ '/' ∉ name.toList := by
  unfold splitTargetRepo at h
  cases hsplit : splitOnce '/' repo with
  | none =>
    rw [hsplit] at h
    cases h
  | some parts =>
    obtain ⟨before, after⟩ := parts
    rw [hsplit] at h
    dsimp only at h
    split at h
    · cases h
    · rename_i hvalid
      obtain ⟨rfl, rfl⟩ := Prod.mk.inj (Except.ok.inj h)
      obtain ⟨howner, htext⟩ := splitOnce_eq_some.mp hsplit
      refine ⟨htext, howner, fun hname => hvalid ?_⟩
      have hcontains : after.toList.contains '/' = true := List.contains_iff_mem.mpr hname
      rw [hcontains]
      simp

theorem splitTargetRepo_joined {before after : String}
    (h : splitTargetRepo s!"{owner}/{name}" = .ok (before, after)) :
    before = owner ∧ after = name := by
  obtain ⟨htext, hbefore, hafter⟩ := splitTargetRepo_ok h
  have hjoined : (s!"{owner}/{name}").toList = owner.toList ++ '/' :: name.toList := by
    show (owner ++ "/" ++ name).toList = _
    rw [String.toList_append, String.toList_append, List.append_assoc]
    rfl
  rw [hjoined] at htext
  have hcount := congrArg (List.count '/') htext
  rw [List.count_append, List.count_append, List.count_cons_self, List.count_cons_self,
    List.count_eq_zero.mpr hbefore, List.count_eq_zero.mpr hafter] at hcount
  have howner : '/' ∉ owner.toList := List.count_eq_zero.mp (by omega)
  obtain ⟨hsame, hrest⟩ := Fields.append_cons_inj howner hbefore htext
  exact ⟨(String.toList_inj.mp hsame).symm, (String.toList_inj.mp hrest).symm⟩

/-! ### Edits of a configuration -/

@[simp] theorem variables_editVars (edits : List VarEdit) (config : WorkflowConfig) :
    (config.editVars edits).variables = Edits.edits edits config.variables := rfl

theorem editVars_of_settled {edits : List VarEdit}
    (h : Edits.Settled edits config.variables) : config.editVars edits = config := by
  unfold WorkflowConfig.editVars
  rw [h.edits_eq]

/-- What a stage leaves alone: the profile, some variables, and a part of the repository section,
which is given by a change that has been made to it already. -/
structure Leaves (keys : List String) (change : RepoConfig → RepoConfig) (stage : ProfileStage) :
    Prop where
  profile : ∀ config, (stage config).2.targetProfile = config.targetProfile
  vars : ∀ config, ∀ key ∈ keys,
    (stage config).2.variables.lookup key = config.variables.lookup key
  repo : ∀ config, (∀ repo, config.repo = some repo → change repo = repo) →
    ∀ repo, (stage config).2.repo = some repo → change repo = repo

variable {keys : List String} {change change' : RepoConfig → RepoConfig} {edits edits' : List VarEdit}
  {needed needed' : Bool}

theorem leaves_run {stages : List ProfileStage} (h : ∀ stage ∈ stages, Leaves keys change stage) :
    Leaves keys change (Stage.run stages) := by
  refine ⟨fun config => ?_, fun config key hkey => ?_, fun config hdone => ?_⟩
  · exact run_keeps (P := fun after => after.targetProfile = config.targetProfile)
      (fun stage hstage after hafter => ((h stage hstage).profile after).trans hafter) rfl
  · exact run_keeps
      (P := fun after => after.variables.lookup key = config.variables.lookup key)
      (fun stage hstage after hafter => ((h stage hstage).vars after key hkey).trans hafter) rfl
  · exact run_keeps (P := fun after => ∀ repo, after.repo = some repo → change repo = repo)
      (fun stage hstage after hafter => (h stage hstage).repo after hafter) hdone

theorem leaves_check (p : WorkflowConfig → Except ProfileError Unit) :
    Leaves keys change (Stage.check p) :=
  ⟨fun _ => rfl, fun _ _ _ => rfl, fun _ h => h⟩

theorem leaves_update {f : WorkflowConfig → Except ProfileError WorkflowConfig}
    (h : ∀ config after, f config = .ok after →
      after.targetProfile = config.targetProfile ∧
      (∀ key ∈ keys, after.variables.lookup key = config.variables.lookup key) ∧
      ((∀ repo, config.repo = some repo → change repo = repo) →
        ∀ repo, after.repo = some repo → change repo = repo)) :
    Leaves keys change (Stage.update f) := by
  have hstep : ∀ config, (Stage.update f config).2.targetProfile = config.targetProfile ∧
      (∀ key ∈ keys,
        (Stage.update f config).2.variables.lookup key = config.variables.lookup key) ∧
      ((∀ repo, config.repo = some repo → change repo = repo) →
        ∀ repo, (Stage.update f config).2.repo = some repo → change repo = repo) := by
    intro config
    rcases update_cases f config with ⟨e, -, heq⟩ | ⟨after, hf, heq⟩
    · rw [heq]
      exact ⟨rfl, fun _ _ => rfl, id⟩
    · rw [heq]
      exact h config after hf
  exact ⟨fun config => (hstep config).1, fun config => (hstep config).2.1,
    fun config => (hstep config).2.2⟩

theorem editingRepo_cases (needed : Bool) (change : RepoConfig → RepoConfig) (edits : List VarEdit)
    (config : WorkflowConfig) :
    (∃ e, editingRepo needed change edits config = (.error e, config)) ∨
      editingRepo needed change edits config =
        (.ok (), { config with repo := config.repo.map change }.editVars edits) := by
  unfold editingRepo Stage.update
  beta_reduce
  by_cases hmissing : (needed && config.repo.isNone) = true
  · rw [if_pos hmissing]
    exact Or.inl ⟨_, rfl⟩
  · rw [if_neg hmissing]
    exact Or.inr rfl

theorem leaves_editingRepo (hkeys : ∀ key ∈ keys, key ∉ edits.map Prod.fst)
    (hrepo : ∀ repo, change (change' repo) = change' (change repo)) :
    Leaves keys change (editingRepo needed change' edits) := by
  refine leaves_update fun config after h => ?_
  split at h
  · cases h
  · obtain rfl := Except.ok.inj h
    refine ⟨rfl, fun key hkey => Edits.lookup_edits_of_notMem (hkeys key hkey) _,
      fun hdone repo hafter => ?_⟩
    obtain ⟨before, hbefore, rfl⟩ := Option.map_eq_some_iff.mp hafter
    rw [hrepo, hdone before hbefore]

theorem leaves_editing {f : WorkflowConfig → Except ProfileError (List VarEdit)}
    (hkeys : ∀ config edits, f config = .ok edits → ∀ key ∈ keys, key ∉ edits.map Prod.fst) :
    Leaves keys change (Stage.update fun config => (f config).map config.editVars) := by
  refine leaves_update fun config after h => ?_
  cases hf : f config with
  | error e =>
    rw [hf] at h
    cases h
  | ok edits =>
    rw [hf] at h
    obtain rfl := Except.ok.inj h
    exact ⟨rfl, fun key hkey => Edits.lookup_edits_of_notMem (hkeys config edits hf key hkey) _,
      fun hdone => hdone⟩

/-! ### Merged sections -/

def Merged (change : RepoConfig → RepoConfig) (edits : List VarEdit) (config : WorkflowConfig) :
    Prop :=
  (∀ repo, config.repo = some repo → change repo = repo) ∧ Edits.Settled edits config.variables

/-- **A merged section stays merged.** -/
theorem Merged.keep (h : Merged change edits config) {stage : ProfileStage}
    (hleaves : Leaves (edits.map Prod.fst) change stage) : Merged change edits (stage config).2 :=
  ⟨hleaves.repo config h.1, h.2.congr fun key hkey => hleaves.vars config key hkey⟩

theorem merged_editingRepo (hkeys : (edits.map Prod.fst).Nodup)
    (hchange : ∀ repo, change (change repo) = change repo)
    (h : (editingRepo needed change edits).Succeeds config) :
    Merged change edits (editingRepo needed change edits config).2 := by
  unfold Stage.Succeeds at h
  rcases editingRepo_cases needed change edits config with ⟨e, heq⟩ | heq
  · rw [heq] at h
    cases h
  · rw [heq]
    refine ⟨fun repo hrepo => ?_, Edits.settled_edits hkeys _⟩
    obtain ⟨before, -, rfl⟩ := Option.map_eq_some_iff.mp hrepo
    exact hchange before

/-- **Merging a merged section changes nothing.** -/
theorem Merged.fixed (h : Merged change edits config) :
    (editingRepo needed change edits config).2 = config := by
  rcases editingRepo_cases needed change edits config with ⟨e, heq⟩ | heq
  · rw [heq]
  · have hrepo : config.repo.map change = config.repo := by
      cases hcase : config.repo with
      | none => rfl
      | some repo => exact congrArg some (h.1 repo hcase)
    rw [heq, hrepo]
    exact editVars_of_settled h.2

theorem editing_eq (edits : List VarEdit) :
    editing edits = editingRepo false (fun repo => repo) edits := by
  funext config
  unfold editing editingRepo
  congr 1
  funext config
  rw [if_neg (by simp), Option.map_id']

/-! ### The sections of a profile -/

section

variable (profile : TargetProfileConfig)

def baseBranchChange (repo : RepoConfig) : RepoConfig :=
  { repo with baseBranch := profile.identity.baseBranch.or repo.baseBranch }

def pathsChange (repo : RepoConfig) : RepoConfig :=
  { repo with
    projectSubdir := profile.paths.projectSubdir.or repo.projectSubdir
    artifactPathBase := profile.paths.artifactPathBase.or repo.artifactPathBase
    diffPathBase := profile.paths.diffPathBase.or repo.diffPathBase }

def branchChange (repo : RepoConfig) : RepoConfig :=
  { repo with branchTemplate := profile.templates.branch.getD repo.branchTemplate }

end

theorem or_or_self {α : Type} (a b : Option α) : a.or (a.or b) = a.or b := by
  cases a <;> rfl

theorem baseBranchChange_twice (repo : RepoConfig) :
    baseBranchChange profile (baseBranchChange profile repo) = baseBranchChange profile repo := by
  unfold baseBranchChange
  dsimp only
  rw [or_or_self]

theorem pathsChange_twice (repo : RepoConfig) :
    pathsChange profile (pathsChange profile repo) = pathsChange profile repo := by
  unfold pathsChange
  dsimp only
  rw [or_or_self, or_or_self, or_or_self]

theorem branchChange_twice (repo : RepoConfig) :
    branchChange profile (branchChange profile repo) = branchChange profile repo := by
  unfold branchChange
  dsimp only
  cases profile.templates.branch <;> rfl

/-- The variables of `merge_identity` that tell the repository. -/
def identityKeys : List String := ["target_repo", "repository_owner", "repository_name"]

/-- The keys of the sections that are merged before the pathspecs are read. -/
def sectionKeys : List String :=
  ["base_branch", "project_subdir", "default_command_cwd", "work_dir", "artifact_dir", "assignee",
    "ok_label", "luther_label", "pr_title_prefix", "pr_body_guidance", "branch_template",
    "pr_title_template", "pr_body_template"]

def transportKeys : List String := [gitTransportUrlVar, gitTransportSourceVar]

/-- The keys of the policies but for those of the command groups. -/
def policyKeys : List String :=
  ["required_changed_path_pattern", "diff_required_path_regex", "diff_failure_message",
    "diff_allowed_path_patterns", "diff_required_path_patterns", "target_commit_exclude_pathspecs",
    "target_commit_restore_paths", "target_has_commit_restore_paths", "required_pr_checks",
    "optional_pr_checks", "ignored_pr_checks", "auth_requirements", "preflight_expectations",
    "target_ecosystem_name", "target_guidance_planning", "target_guidance_implementation",
    "target_guidance_review", "target_guidance_verification", "target_guidance_style",
    "target_guidance_fixture_parity", "target_guidance_forbidden_actions",
    "target_guidance_remediation_scope", "target_command_manifest_summary",
    "target_bootstrap_command_group"]

theorem startsWith_commandGroupVar (name : String) :
    startsWith (commandGroupVar name) "command_manifest_group_" = true := by
  unfold startsWith commandGroupVar
  rw [String.toList_append]
  exact List.isPrefixOf_iff_prefix.mpr (List.prefix_append _ _)

theorem ne_commandGroupVar (h : startsWith key "command_manifest_group_" = false) (name : String) :
    key ≠ commandGroupVar name := by
  rintro rfl
  rw [startsWith_commandGroupVar] at h
  exact Bool.false_ne_true h.symm

section

variable (profile : TargetProfileConfig)

theorem keys_mergePolicies (pathspecs : List String) :
    (mergePolicies profile pathspecs).map Prod.fst =
      policyKeys.take 8 ++ (profile.commandGroups.entries.map Prod.fst).map commandGroupVar
        ++ policyKeys.drop 8 := by
  unfold mergePolicies mergeCommandGroups
  simp only [List.map_append, List.append_assoc, List.map_map]
  rfl

theorem mem_keys_mergePolicies {profile : TargetProfileConfig}
    (h : key ∈ (mergePolicies profile pathspecs).map Prod.fst) :
    key ∈ policyKeys ∨ ∃ name, key = commandGroupVar name := by
  rw [keys_mergePolicies, List.mem_append, List.mem_append] at h
  rcases h with (h | h) | h
  · exact Or.inl (List.mem_of_mem_take h)
  · obtain ⟨name, -, rfl⟩ := List.mem_map.mp h
    exact Or.inr ⟨name, rfl⟩
  · exact Or.inl (List.mem_of_mem_drop h)

theorem notMem_keys_mergePolicies {profile : TargetProfileConfig} (hkey : key ∉ policyKeys)
    (hgroup : startsWith key "command_manifest_group_" = false) :
    key ∉ (mergePolicies profile pathspecs).map Prod.fst := by
  intro hmem
  rcases mem_keys_mergePolicies hmem with hpolicy | ⟨name, hname⟩
  · exact hkey hpolicy
  · exact ne_commandGroupVar hgroup name hname

theorem commandGroupVar_injective : Function.Injective commandGroupVar := by
  intro a b hab
  have hlist := congrArg String.toList hab
  unfold commandGroupVar at hlist
  rw [String.toList_append, String.toList_append] at hlist
  exact String.toList_inj.mp (List.append_cancel_left hlist)

theorem nodup_keys_mergePolicies (pathspecs : List String) :
    ((mergePolicies profile pathspecs).map Prod.fst).Nodup := by
  have hfixed : policyKeys.Nodup := by decide
  have hplain : policyKeys.all (fun key => !startsWith key "command_manifest_group_") = true := by
    decide
  have hapart : ∀ key ∈ policyKeys, ∀ name, key ≠ commandGroupVar name := by
    intro key hkey
    exact ne_commandGroupVar (by simpa using List.all_eq_true.mp hplain key hkey)
  have hgroups := profile.commandGroups.distinct.map commandGroupVar_injective
  have hhalves : (policyKeys.take 8 ++ policyKeys.drop 8).Nodup := by
    rw [List.take_append_drop]
    exact hfixed
  rw [List.nodup_append] at hhalves
  rw [keys_mergePolicies, List.nodup_append, List.nodup_append]
  refine ⟨⟨hhalves.1, hgroups, fun key hkey other hother => ?_⟩, hhalves.2.1,
    fun key hkey other hother => ?_⟩
  · obtain ⟨name, -, rfl⟩ := List.mem_map.mp hother
    exact hapart key (List.mem_of_mem_take hkey) name
  · rcases List.mem_append.mp hkey with htake | hgroup
    · exact hhalves.2.2 key htake other hother
    · obtain ⟨name, -, rfl⟩ := List.mem_map.mp hgroup
      exact (hapart other (List.mem_of_mem_drop hother) name).symm

/-! ### What each stage leaves -/

theorem apart_of_all {xs ys : List String} (h : (xs.all fun x => !ys.contains x) = true) :
    ∀ x ∈ xs, x ∉ ys := by
  intro x hx hy
  have hnot := List.all_eq_true.mp h x hx
  rw [List.contains_iff_mem.mpr hy] at hnot
  cases hnot

/-- The first stage of `merge_identity`. -/
def identityStage : ProfileStage :=
  Stage.update fun config => (identityVars profile config).map fun edits => config.editVars edits

def baseBranchEdits : List VarEdit :=
  [insertOptional "base_branch" profile.identity.baseBranch]

def pathEdits : List VarEdit :=
  [insertOptional "project_subdir" profile.paths.projectSubdir,
    insertOptional "default_command_cwd" profile.paths.defaultCommandCwd,
    insertOptional "work_dir" profile.paths.workDir,
    insertOptional "artifact_dir" profile.paths.artifactDir]

def conventionEdits : List VarEdit :=
  [insertOptional "assignee" profile.issueConventions.assignee,
    insertOptional "ok_label" profile.issueConventions.okLabel,
    insertOptional "luther_label" profile.issueConventions.lutherLabel,
    insertOptional "pr_title_prefix" profile.prConventions.titlePrefix,
    insertOptional "pr_body_guidance" profile.prConventions.bodyGuidance]

def templateEdits : List VarEdit :=
  [insertOptional "branch_template" profile.templates.branch,
    insertOptional "pr_title_template" profile.templates.prTitle,
    insertOptional "pr_body_template" profile.templates.prBody]

end

theorem names_baseBranchEdits : (baseBranchEdits profile).map Prod.fst = sectionKeys.take 1 := rfl

theorem names_pathEdits : (pathEdits profile).map Prod.fst = (sectionKeys.drop 1).take 4 := rfl

theorem names_conventionEdits :
    (conventionEdits profile).map Prod.fst = (sectionKeys.drop 5).take 5 := rfl

theorem names_templateEdits : (templateEdits profile).map Prod.fst = sectionKeys.drop 10 := rfl

/-- The stages behind the identity, up to the pathspecs. -/
def sectionStages (order : VarOrder) (profile : TargetProfileConfig) : List ProfileStage :=
  [editingRepo profile.identity.baseBranch.isSome (baseBranchChange profile)
      (baseBranchEdits profile),
    Stage.check fun _ => validateProfilePaths profile,
    editingRepo
      (profile.paths.projectSubdir.isSome || profile.paths.artifactPathBase.isSome
        || profile.paths.diffPathBase.isSome) (pathsChange profile) (pathEdits profile),
    editing (conventionEdits profile),
    editingRepo profile.templates.branch.isSome (branchChange profile) (templateEdits profile),
    Stage.check (validateProfileTemplates order profile)]

def tailStages (order : VarOrder) (disk : TransportDisk) (profile : TargetProfileConfig) :
    List ProfileStage :=
  policyStage order profile :: [markAuthoredTransport, resolveTransportUrl disk]

section

variable (h : identityVars profile config = .ok edits)

include h

theorem identityVars_keys :
    edits.map Prod.fst = identityKeys ∨ edits.map Prod.fst = identityKeys.drop 1 := by
  unfold identityVars at h
  split at h
  · obtain ⟨parts, -, hok⟩ := bind_ok.mp h
    obtain rfl := Except.ok.inj hok
    exact Or.inl rfl
  · split at h
    · obtain ⟨parts, -, hok⟩ := bind_ok.mp h
      obtain rfl := Except.ok.inj hok
      exact Or.inl rfl
    · obtain rfl := Except.ok.inj h
      exact Or.inr rfl

theorem identityVars_subset : ∀ key ∈ edits.map Prod.fst, key ∈ identityKeys := by
  rcases identityVars_keys h with heq | heq
  · exact fun key hkey => heq ▸ hkey
  · exact fun key hkey => List.mem_of_mem_drop (heq ▸ hkey)

theorem nodup_identityVars : (edits.map Prod.fst).Nodup := by
  rcases identityVars_keys h with heq | heq
  · rw [heq]
    decide
  · rw [heq]
    decide

end

theorem leaves_identityStage (hkeys : (keys.all fun key => !identityKeys.contains key) = true) :
    Leaves keys change (identityStage profile) := by
  refine leaves_editing fun config edits h key hkey hmem => ?_
  exact apart_of_all hkeys key hkey (identityVars_subset h key hmem)

theorem leaves_policyStage (hkeys : (keys.all fun key => !policyKeys.contains key) = true)
    (hgroups : (keys.all fun key => !startsWith key "command_manifest_group_") = true) :
    Leaves keys change (policyStage order profile) := by
  have heq : policyStage order profile = Stage.update fun config =>
      ((validatedProfileCommitExclusions order profile config).map (mergePolicies profile)).map
        config.editVars := by
    unfold policyStage
    congr 1
    funext config
    cases validatedProfileCommitExclusions order profile config with
    | error e => rfl
    | ok pathspecs => rfl
  rw [heq]
  refine leaves_editing fun config edits h key hkey => ?_
  cases hread : validatedProfileCommitExclusions order profile config with
  | error e =>
    rw [hread] at h
    cases h
  | ok pathspecs =>
    rw [hread] at h
    obtain rfl := Except.ok.inj h
    refine notMem_keys_mergePolicies (apart_of_all hkeys key hkey) ?_
    simpa using List.all_eq_true.mp hgroups key hkey

def derivedVars (repo : String) : List VarEdit :=
  [insertVar gitTransportUrlVar (defaultTransportUrl repo),
    insertVar gitTransportSourceVar transportDerived]

theorem resolveTransportUrl_cases (disk : TransportDisk) (config : WorkflowConfig) :
    (∃ e, resolveTransportUrl disk config = (.error e, config)) ∨
      resolveTransportUrl disk config = (.ok (),
        if config.variables.lookup gitTransportSourceVar = some transportExplicit then config
        else
          match config.variables.lookup "target_repo" with
          | none => config
          | some repo => config.editVars (derivedVars repo)) := by
  unfold resolveTransportUrl Stage.update
  beta_reduce
  by_cases hsource : config.variables.lookup gitTransportSourceVar = some transportExplicit
  · rw [if_pos hsource, if_pos hsource]
    cases validateTransportUrl disk ((config.variables.lookup gitTransportUrlVar).getD "") with
    | error refusal => exact Or.inl ⟨_, rfl⟩
    | ok u => exact Or.inr rfl
  · rw [if_neg hsource, if_neg hsource]
    cases config.variables.lookup "target_repo" with
    | none => exact Or.inr rfl
    | some repo =>
      dsimp only
      cases validateTransportUrl disk (defaultTransportUrl repo) with
      | error refusal => exact Or.inl ⟨_, rfl⟩
      | ok u => exact Or.inr rfl

theorem markAuthoredTransport_eq (config : WorkflowConfig) :
    markAuthoredTransport config = (.ok (),
      if (config.variables.lookup gitTransportUrlVar).isSome
          && (config.variables.lookup gitTransportSourceVar).isNone then
        config.editVars [insertVar gitTransportSourceVar transportExplicit]
      else config) := by
  unfold markAuthoredTransport Stage.update
  beta_reduce
  cases (config.variables.lookup gitTransportUrlVar).isSome
      && (config.variables.lookup gitTransportSourceVar).isNone with
  | true => rfl
  | false => rfl

theorem leaves_transport (hapart : ∀ key ∈ keys, key ∉ transportKeys) (disk : TransportDisk) :
    Leaves keys change markAuthoredTransport ∧ Leaves keys change (resolveTransportUrl disk) := by
  have hleft : ∀ (edits : List VarEdit) (config : WorkflowConfig),
      (∀ key ∈ edits.map Prod.fst, key ∈ transportKeys) → ∀ key ∈ keys,
        (config.editVars edits).variables.lookup key = config.variables.lookup key :=
    fun edits config hedits key hkey =>
      Edits.lookup_edits_of_notMem (fun hmem => hapart key hkey (hedits key hmem)) _
  constructor
  · refine ⟨fun config => ?_, fun config key hkey => ?_, fun config hdone => ?_⟩
    all_goals rw [markAuthoredTransport_eq]; dsimp only; split
    · rfl
    · rfl
    · exact hleft [insertVar gitTransportSourceVar transportExplicit] config
        (fun key hkey => List.mem_cons_of_mem _ hkey) key hkey
    · rfl
    · exact hdone
    · exact hdone
  · have hsame : ∀ config, (resolveTransportUrl disk config).2 = config ∨
        ∃ repo, (resolveTransportUrl disk config).2 = config.editVars (derivedVars repo) := by
      intro config
      rcases resolveTransportUrl_cases disk config with ⟨e, heq⟩ | heq
      · exact Or.inl (by rw [heq])
      · rw [heq]
        dsimp only
        split
        · exact Or.inl rfl
        · split
          · exact Or.inl rfl
          · exact Or.inr ⟨_, rfl⟩
    refine ⟨fun config => ?_, fun config key hkey => ?_, fun config hdone => ?_⟩
    all_goals rcases hsame config with heq | ⟨repo, heq⟩ <;> rw [heq]
    · rfl
    · exact hleft (derivedVars repo) config (fun key hkey => hkey) key hkey
    · exact hdone
    · exact hdone

theorem leaves_tailStages (disk : TransportDisk)
    (hpolicies : (keys.all fun key => !policyKeys.contains key) = true)
    (hgroups : (keys.all fun key => !startsWith key "command_manifest_group_") = true)
    (htransport : (keys.all fun key => !transportKeys.contains key) = true) :
    ∀ stage ∈ tailStages order disk profile, Leaves keys change stage := by
  unfold tailStages
  rw [List.forall_mem_cons, List.forall_mem_cons, List.forall_mem_singleton]
  exact ⟨leaves_policyStage hpolicies hgroups, leaves_transport (apart_of_all htransport) disk⟩

theorem leaves_section {names : List String} (hnames : edits.map Prod.fst = names)
    (hkeys : (keys.all fun key => !names.contains key) = true)
    (hrepo : ∀ repo, change (change' repo) = change' (change repo)) :
    Leaves keys change (editingRepo needed change' edits) := by
  subst hnames
  exact leaves_editingRepo (apart_of_all hkeys) hrepo

theorem leaves_editing' (hkeys : ∀ key ∈ keys, key ∉ edits.map Prod.fst) :
    Leaves keys change (editing edits) := by
  rw [editing_eq]
  exact leaves_editingRepo hkeys fun _ => rfl

theorem leaves_sectionStages (hkeys : (keys.all fun key => !sectionKeys.contains key) = true) :
    ∀ stage ∈ sectionStages order profile, Leaves keys id stage := by
  have hapart := apart_of_all hkeys
  have hsub : ∀ edits : List VarEdit, (∀ key ∈ edits.map Prod.fst, key ∈ sectionKeys) →
      ∀ key ∈ keys, key ∉ edits.map Prod.fst :=
    fun edits hedits key hkey hmem => hapart key hkey (hedits key hmem)
  unfold sectionStages
  simp only [List.forall_mem_cons]
  refine ⟨leaves_editingRepo (hsub _ ?_) fun _ => rfl, leaves_check _,
    leaves_editingRepo (hsub _ ?_) fun _ => rfl, leaves_editing' (hsub _ ?_),
    leaves_editingRepo (hsub _ ?_) fun _ => rfl, leaves_check _, by simp⟩
  · exact fun key hkey => List.mem_of_mem_take (show key ∈ sectionKeys.take 1 from hkey)
  · exact fun key hkey => List.mem_of_mem_drop
      (List.mem_of_mem_take (show key ∈ (sectionKeys.drop 1).take 4 from hkey))
  · exact fun key hkey => List.mem_of_mem_drop
      (List.mem_of_mem_take (show key ∈ (sectionKeys.drop 5).take 5 from hkey))
  · exact fun key hkey => List.mem_of_mem_drop (show key ∈ sectionKeys.drop 10 from hkey)

/-! ### A resolved configuration -/

def IdentityMerged (profile : TargetProfileConfig) (config : WorkflowConfig) : Prop :=
  ∀ edits, identityVars profile config = .ok edits → Edits.Settled edits config.variables

/-- A transport that is there is marked. -/
def Marked (config : WorkflowConfig) : Prop :=
  (config.variables.lookup gitTransportUrlVar).isSome = true →
    (config.variables.lookup gitTransportSourceVar).isSome = true

/-- The transport is explicit, or follows the repository. -/
def TransportSettled (config : WorkflowConfig) : Prop :=
  config.variables.lookup gitTransportSourceVar = some transportExplicit ∨
    ∀ repo, config.variables.lookup "target_repo" = some repo →
      Edits.Settled (derivedVars repo) config.variables

/-- **The profile has been merged into the configuration, section by section.** -/
structure Resolved (profile : TargetProfileConfig) (pathspecs : List String)
    (config : WorkflowConfig) : Prop where
  identity : IdentityMerged profile config
  baseBranch : Merged (baseBranchChange profile) (baseBranchEdits profile) config
  paths : Merged (pathsChange profile) (pathEdits profile) config
  conventions : Merged (fun repo => repo) (conventionEdits profile) config
  templates : Merged (branchChange profile) (templateEdits profile) config
  policies : Edits.Settled (mergePolicies profile pathspecs) config.variables
  marked : Marked config
  transport : TransportSettled config

theorem identityVars_congr {config' : WorkflowConfig}
    (h : config'.variables.lookup "target_repo" = config.variables.lookup "target_repo") :
    identityVars profile config' = identityVars profile config := by
  unfold identityVars
  rw [h]

theorem lookup_repositoryVars (repo owner name : String) (config : WorkflowConfig) :
    (config.editVars (repositoryVars repo owner name)).variables.lookup "target_repo" =
      some repo :=
  @Edits.lookup_edits_mem _ _ _ "target_repo" (.put repo) (repositoryVars repo owner name)
    (show identityKeys.Nodup by decide) List.mem_cons_self _

theorem identityVars_of_repo {repo : String}
    (hrepo : profile.identity.repo.or (config.variables.lookup "target_repo") = some repo)
    (hsplit : splitTargetRepo repo = .ok (owner, name)) :
    identityVars profile config = .ok (repositoryVars repo owner name) := by
  unfold identityVars
  rw [hrepo]
  dsimp only
  rw [hsplit]
  rfl

theorem identityVars_again (h : identityVars profile config = .ok edits) :
    identityVars profile (config.editVars edits) = .ok edits := by
  have hcopy := h
  unfold identityVars at h
  split at h
  · rename_i repo hfound
    obtain ⟨⟨owner, name⟩, hsplit, hok⟩ := bind_ok.mp h
    obtain rfl := Except.ok.inj hok
    refine identityVars_of_repo ?_ hsplit
    rw [lookup_repositoryVars]
    cases hprofile : profile.identity.repo with
    | none => rfl
    | some own =>
      rw [hprofile, Option.some_or] at hfound
      exact hfound
  · rename_i hmissing
    have hprofile := (Option.or_eq_none_iff.mp hmissing).1
    split at h
    · rename_i owner name _ _
      obtain ⟨⟨before, after⟩, hsplit, hok⟩ := bind_ok.mp h
      obtain rfl := Except.ok.inj hok
      obtain ⟨rfl, rfl⟩ := splitTargetRepo_joined hsplit
      refine identityVars_of_repo ?_ hsplit
      rw [lookup_repositoryVars, hprofile, Option.none_or]
    · obtain rfl := Except.ok.inj h
      have hkept : "target_repo" ∉ identityKeys.drop 1 := by decide
      rw [identityVars_congr (Edits.lookup_edits_of_notMem hkept config.variables)]
      exact hcopy

theorem identityStage_cases (profile : TargetProfileConfig) (config : WorkflowConfig) :
    (∃ e, identityVars profile config = .error e ∧
        identityStage profile config = (.error e, config)) ∨
      ∃ edits, identityVars profile config = .ok edits ∧
        identityStage profile config = (.ok (), config.editVars edits) := by
  unfold identityStage Stage.update
  beta_reduce
  cases hvars : identityVars profile config with
  | error e => exact Or.inl ⟨e, rfl, rfl⟩
  | ok edits => exact Or.inr ⟨edits, rfl, rfl⟩

/-! ### What the stages bring about -/

theorem identityStage_merges (h : (identityStage profile).Succeeds config) :
    IdentityMerged profile (identityStage profile config).2 := by
  unfold Stage.Succeeds at h
  rcases identityStage_cases profile config with ⟨e, -, heq⟩ | ⟨edits, hvars, heq⟩
  · rw [heq] at h
    cases h
  · rw [heq]
    intro edits' hvars'
    rw [identityVars_again hvars] at hvars'
    obtain rfl := Except.ok.inj hvars'
    exact Edits.settled_edits (nodup_identityVars hvars) _

theorem IdentityMerged.fixed (h : IdentityMerged profile config) :
    (identityStage profile config).2 = config := by
  rcases identityStage_cases profile config with ⟨e, -, heq⟩ | ⟨edits, hvars, heq⟩
  · rw [heq]
  · rw [heq]
    exact editVars_of_settled (h edits hvars)

theorem IdentityMerged.keep (h : IdentityMerged profile config) {stage : ProfileStage}
    (hleaves : Leaves identityKeys change stage) : IdentityMerged profile (stage config).2 := by
  intro edits hvars
  have hsame := hleaves.vars config
  rw [identityVars_congr (hsame "target_repo" List.mem_cons_self)] at hvars
  exact (h edits hvars).congr fun key hkey => hsame key (identityVars_subset hvars key hkey)

theorem marked_markAuthoredTransport (config : WorkflowConfig) :
    Marked (markAuthoredTransport config).2 := by
  rw [markAuthoredTransport_eq]
  dsimp only
  split
  · intro _
    have hsource : (config.editVars [insertVar gitTransportSourceVar transportExplicit]
        ).variables.lookup gitTransportSourceVar = some transportExplicit :=
      Edits.lookup_edit_self gitTransportSourceVar (.put transportExplicit) config.variables
    rw [hsource]
    rfl
  · rename_i hnot
    intro hurl
    rw [hurl, Bool.true_and] at hnot
    cases hsource : config.variables.lookup gitTransportSourceVar with
    | none => exact absurd (by rw [hsource]; rfl) hnot
    | some source => rfl

theorem Marked.fixed (h : Marked config) : (markAuthoredTransport config).2 = config := by
  rw [markAuthoredTransport_eq]
  refine if_neg fun hboth => ?_
  obtain ⟨hurl, hsource⟩ := Bool.and_eq_true_iff.mp hboth
  obtain ⟨source, hsome⟩ := Option.isSome_iff_exists.mp (h hurl)
  rw [hsome] at hsource
  cases hsource

theorem settled_derivedVars (repo : String) (config : WorkflowConfig) :
    Edits.Settled (derivedVars repo) (config.editVars (derivedVars repo)).variables :=
  @Edits.settled_edits _ _ _ (derivedVars repo) (show transportKeys.Nodup by decide) _

theorem lookup_derivedVars (repo : String) (config : WorkflowConfig) :
    (config.editVars (derivedVars repo)).variables.lookup "target_repo" =
      config.variables.lookup "target_repo" :=
  Edits.lookup_edits_of_notMem (show "target_repo" ∉ transportKeys by decide) _

/-- **The transport is settled by resolving it**, and what is marked stays so. -/
theorem resolveTransportUrl_settles {disk : TransportDisk}
    (h : (resolveTransportUrl disk).Succeeds config) :
    TransportSettled (resolveTransportUrl disk config).2 := by
  unfold Stage.Succeeds at h
  rcases resolveTransportUrl_cases disk config with ⟨e, heq⟩ | heq
  · rw [heq] at h
    cases h
  · rw [heq]
    dsimp only
    split
    · rename_i hsource
      exact Or.inl hsource
    · split
      · rename_i hnone
        refine Or.inr fun repo hrepo => ?_
        rw [hnone] at hrepo
        cases hrepo
      · rename_i repo hrepo
        refine Or.inr fun other hother => ?_
        rw [lookup_derivedVars, hrepo] at hother
        obtain rfl := Option.some.inj hother
        exact settled_derivedVars repo config

theorem Marked.keep (h : Marked config) (disk : TransportDisk) :
    Marked (resolveTransportUrl disk config).2 := by
  rcases resolveTransportUrl_cases disk config with ⟨e, heq⟩ | heq
  · rw [heq]
    exact h
  · rw [heq]
    dsimp only
    split
    · exact h
    · split
      · exact h
      · rename_i repo _
        intro _
        have hsource := settled_derivedVars repo config (insertVar gitTransportSourceVar
          transportDerived) (List.mem_cons_of_mem _ List.mem_cons_self)
        rw [show (insertVar gitTransportSourceVar transportDerived).1 = gitTransportSourceVar
          from rfl] at hsource
        rw [← hsource]
        rfl

theorem TransportSettled.fixed (h : TransportSettled config) (disk : TransportDisk) :
    (resolveTransportUrl disk config).2 = config := by
  rcases resolveTransportUrl_cases disk config with ⟨e, heq⟩ | heq
  · rw [heq]
  · rw [heq]
    dsimp only
    split
    · rfl
    · rename_i hsource
      split
      · rfl
      · rename_i repo hrepo
        exact editVars_of_settled (h.resolve_left hsource repo hrepo)

/-! ### Resolving, and resolving again -/

theorem resolveTargetProfile_eq (disk : TransportDisk)
    (h : config.targetProfile = some profile) : resolveTargetProfile order disk config =
      Stage.run (identityStage profile ::
        (sectionStages order profile ++ tailStages order disk profile)) config := by
  unfold resolveTargetProfile
  rw [h]
  rfl

theorem policyStage_cases (order : VarOrder) (profile : TargetProfileConfig)
    (config : WorkflowConfig) :
    (∃ e, validatedProfileCommitExclusions order profile config = .error e ∧
        policyStage order profile config = (.error e, config)) ∨
      ∃ pathspecs, validatedProfileCommitExclusions order profile config = .ok pathspecs ∧
        policyStage order profile config =
          (.ok (), config.editVars (mergePolicies profile pathspecs)) := by
  unfold policyStage Stage.update
  beta_reduce
  cases hread : validatedProfileCommitExclusions order profile config with
  | error e => exact Or.inl ⟨e, rfl, rfl⟩
  | ok pathspecs => exact Or.inr ⟨pathspecs, rfl, rfl⟩

/-- The pathspecs that resolving a configuration reads. -/
def readPathspecs (order : VarOrder) (profile : TargetProfileConfig) (config : WorkflowConfig) :
    Except ProfileError (List String) :=
  validatedProfileCommitExclusions order profile (Stage.run (headStages order profile) config).2

section Resolving

variable {disk : TransportDisk}

theorem merged_to_end (xs ys : List ProfileStage)
    (hstages : identityStage profile ::
        (sectionStages order profile ++ tailStages order disk profile) =
      xs ++ editingRepo needed change edits :: ys)
    (hnames : edits.map Prod.fst = keys) (hkeys : keys.Nodup)
    (hchange : ∀ repo, change (change repo) = change repo)
    (hleaves : ∀ stage ∈ ys, Leaves keys change stage)
    (h : Stage.Succeeds (Stage.run (identityStage profile ::
      (sectionStages order profile ++ tailStages order disk profile))) config) :
    Merged change edits (Stage.run (identityStage profile ::
      (sectionStages order profile ++ tailStages order disk profile)) config).2 := by
  subst hnames
  rw [hstages] at h ⊢
  exact run_brings h (merged_editingRepo hkeys hchange)
    fun stage hstage config hmerged => hmerged.keep (hleaves stage hstage)

theorem policies_to_end
    (h : (Stage.run (headStages order profile ++ tailStages order disk profile)).Succeeds config) :
    ∃ pathspecs, readPathspecs order profile config = .ok pathspecs ∧
      Edits.Settled (mergePolicies profile pathspecs)
        (Stage.run (headStages order profile ++ tailStages order disk profile) config).2.variables := by
  have hsplit := run_append (headStages order profile) (tailStages order disk profile) config
  rcases hsplit with ⟨-, hfail, -⟩ | ⟨-, hrest⟩
  · exact absurd h hfail
  have hpolicies := policyStage_cases order profile (Stage.run (headStages order profile) config).2
  rcases hpolicies with ⟨e, -, heq⟩ | ⟨pathspecs, hread, heq⟩
  · unfold Stage.Succeeds tailStages at *
    rw [hrest, Stage.run, heq] at h
    cases h
  · refine ⟨pathspecs, hread, ?_⟩
    refine run_brings (P := fun config =>
      Edits.Settled (mergePolicies profile pathspecs) config.variables) h (fun _ => ?_) ?_
    · rw [heq]
      exact Edits.settled_edits (nodup_keys_mergePolicies profile pathspecs) _
    · have hapart : ∀ key ∈ (mergePolicies profile pathspecs).map Prod.fst,
          key ∉ transportKeys := by
        intro key hkey hmem
        have hpolicy := apart_of_all
          (show (transportKeys.all fun key => !policyKeys.contains key) = true by decide) key hmem
        have hgroup : (transportKeys.all fun key =>
            !startsWith key "command_manifest_group_") = true := by decide
        refine notMem_keys_mergePolicies hpolicy ?_ hkey
        simpa using List.all_eq_true.mp hgroup key hmem
      obtain ⟨hmark, hresolve⟩ :
          Leaves _ id markAuthoredTransport ∧ Leaves _ id (resolveTransportUrl disk) :=
        leaves_transport hapart disk
      rw [List.forall_mem_cons, List.forall_mem_singleton]
      exact ⟨fun config hsettled => hsettled.congr (hmark.vars config),
        fun config hsettled => hsettled.congr (hresolve.vars config)⟩

/-- **A configuration that has been resolved is resolved**, with the pathspecs that were read. -/
theorem resolved_of_succeeds (hprofile : config.targetProfile = some profile)
    (h : (resolveTargetProfile order disk).Succeeds config) :
    ∃ pathspecs, readPathspecs order profile config = .ok pathspecs ∧
      Resolved profile pathspecs (resolveTargetProfile order disk config).2 := by
  unfold Stage.Succeeds at h
  rw [resolveTargetProfile_eq disk hprofile] at h ⊢
  obtain ⟨pathspecs, hread, hpolicies⟩ := @policies_to_end order profile config disk h
  have htail : ∀ {keys : List String} {change : RepoConfig → RepoConfig},
      (keys.all fun key => !(policyKeys ++ transportKeys).contains key) = true →
      (keys.all fun key => !startsWith key "command_manifest_group_") = true →
      ∀ stage ∈ tailStages order disk profile, Leaves keys change stage := by
    intro keys change hkeys hgroups
    refine leaves_tailStages disk ?_ hgroups ?_
    all_goals
      refine List.all_eq_true.mpr fun key hkey => ?_
      have hnot := apart_of_all hkeys key hkey
      rw [List.mem_append, not_or] at hnot
      simp [hnot.1, hnot.2]
  refine ⟨pathspecs, hread, ?_, ?_, ?_, ?_, ?_, hpolicies, ?_, ?_⟩
  · refine @run_brings _ _ [] _ _ _ (IdentityMerged profile) h identityStage_merges ?_
    intro stage hstage config hmerged
    rcases List.mem_append.mp hstage with hsection | hrest
    · exact hmerged.keep (leaves_sectionStages (by decide) stage hsection)
    · exact (hmerged.keep (htail (by decide) (by decide) stage hrest :
        Leaves identityKeys id stage))
  · refine merged_to_end [identityStage profile]
      ((sectionStages order profile).drop 1 ++ tailStages order disk profile) rfl
      names_baseBranchEdits (by decide) baseBranchChange_twice ?_ h
    unfold sectionStages
    simp only [List.drop_succ_cons, List.drop_zero, List.nil_append, List.cons_append,
      List.forall_mem_cons]
    rw [editing_eq]
    exact ⟨leaves_check _, leaves_section names_pathEdits (by decide) fun _ => rfl,
      leaves_section names_conventionEdits (by decide) fun _ => rfl,
      leaves_section names_templateEdits (by decide) fun _ => rfl, leaves_check _,
      htail (by decide) (by decide)⟩
  · refine merged_to_end (identityStage profile :: (sectionStages order profile).take 2)
      ((sectionStages order profile).drop 3 ++ tailStages order disk profile) rfl
      names_pathEdits (by decide) pathsChange_twice ?_ h
    unfold sectionStages
    simp only [List.drop_succ_cons, List.drop_zero, List.nil_append, List.cons_append,
      List.forall_mem_cons]
    rw [editing_eq]
    exact ⟨leaves_section names_conventionEdits (by decide) fun _ => rfl,
      leaves_section names_templateEdits (by decide) fun _ => rfl, leaves_check _,
      htail (by decide) (by decide)⟩
  · have hstages : identityStage profile ::
        (sectionStages order profile ++ tailStages order disk profile) =
        identityStage profile :: (sectionStages order profile).take 3 ++
          editingRepo false (fun repo => repo) (conventionEdits profile) ::
            ((sectionStages order profile).drop 4 ++ tailStages order disk profile) := by
      rw [← editing_eq]
      rfl
    refine merged_to_end _ _ hstages names_conventionEdits (by decide) (fun _ => rfl) ?_ h
    unfold sectionStages
    simp only [List.drop_succ_cons, List.drop_zero, List.nil_append, List.cons_append,
      List.forall_mem_cons]
    exact ⟨leaves_section names_templateEdits (by decide) fun _ => rfl, leaves_check _,
      htail (by decide) (by decide)⟩
  · refine merged_to_end (identityStage profile :: (sectionStages order profile).take 4)
      ((sectionStages order profile).drop 5 ++ tailStages order disk profile) rfl
      names_templateEdits (by decide) branchChange_twice ?_ h
    unfold sectionStages
    simp only [List.drop_succ_cons, List.drop_zero, List.nil_append, List.cons_append,
      List.forall_mem_cons]
    exact ⟨leaves_check _, htail (by decide) (by decide)⟩
  · refine @run_brings _ _ (headStages order profile ++ [policyStage order profile])
      [resolveTransportUrl disk] _ markAuthoredTransport Marked h
      (fun _ => marked_markAuthoredTransport _) ?_
    rw [List.forall_mem_singleton]
    exact fun config hmarked => hmarked.keep disk
  · refine @run_brings _ _
      (headStages order profile ++ [policyStage order profile, markAuthoredTransport]) [] _
      (resolveTransportUrl disk) TransportSettled h (fun hlast => resolveTransportUrl_settles hlast)
      (by simp)

end Resolving

def pathspecVars (pathspecs : List String) : List VarEdit :=
  [insertShellWords "target_commit_exclude_pathspecs" pathspecs,
    insertShellWords "target_commit_restore_paths" (pathspecs.filterMap (stripPrefix ":!")),
    insertVar "target_has_commit_restore_paths" (if pathspecs = [] then "0" else "1")]

theorem mem_mergePolicies_of_other {now : List String} {e : VarEdit}
    (h : e ∈ mergePolicies profile now) :
    e ∈ mergePolicies profile pathspecs ∨ e ∈ pathspecVars now := by
  have hsplit : ∀ pathspecs, mergePolicies profile pathspecs =
      (mergePolicies profile []).take 5 ++ (pathspecVars pathspecs ++
        (mergePolicies profile []).drop 8) := fun _ => rfl
  rw [hsplit, List.mem_append, List.mem_append] at h
  rw [hsplit pathspecs, List.mem_append, List.mem_append]
  rcases h with h | h | h
  · exact Or.inl (Or.inl h)
  · exact Or.inr h
  · exact Or.inl (Or.inr (Or.inr h))

/-- **Resolving a resolved configuration changes nothing**, when the pathspecs that are read now are
those that its variables are made of. -/
theorem Resolved.again (h : Resolved profile pathspecs config)
    (hprofile : config.targetProfile = some profile)
    (hread : ∀ now, validatedProfileCommitExclusions order profile config = .ok now →
      Edits.Settled (pathspecVars now) config.variables) (disk : TransportDisk) :
    (resolveTargetProfile order disk config).2 = config := by
  have hpolicy : (policyStage order profile config).2 = config := by
    rcases policyStage_cases order profile config with ⟨e, -, heq⟩ | ⟨now, hnow, heq⟩
    · rw [heq]
    · rw [heq]
      refine editVars_of_settled fun e he => ?_
      rcases mem_mergePolicies_of_other he with hpolicy | hpathspec
      · exact h.policies e hpolicy
      · exact hread now hnow e hpathspec
  rw [resolveTargetProfile_eq disk hprofile]
  refine run_fixed ?_
  unfold sectionStages tailStages
  simp only [List.cons_append, List.nil_append, List.forall_mem_cons]
  refine ⟨h.identity.fixed, h.baseBranch.fixed, rfl, h.paths.fixed, ?_, h.templates.fixed, rfl,
    hpolicy, h.marked.fixed, h.transport.fixed disk, by simp⟩
  rw [editing_eq]
  exact h.conventions.fixed

end Luther
