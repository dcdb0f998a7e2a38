/-
Where the findings of a plan come from.

A plan is made of what is known of a pull request, and that is known from artifacts.  The
artifacts that a plan reads are written by the steps that collect them and by the local
verification; the steps of a remediation only read them, with one exception.  Where the
lookup of the pull request finds nothing the harness is asked, and unless a file that cannot
be read stands in its way it makes up what nobody has found.

Steps that the harness has no part in stop where there is no pull request.  So along a run of
such steps every finding of every plan comes from an artifact that was collected.
-/
import Luther.Proofs.EvidenceWrites

namespace Luther

open Effect Sql

variable {validate : FamilyInvariants}

/-! ### Files of a tree -/

/-- All the files of a root, as one store. -/
def ArtifactTree.whole (tree : ArtifactTree) : ArtifactStore :=
  ⟨tree.root, tree.history, tree.current⟩

/-- The files of a tree are those it had, copies of its canonical files, and documents of a
kind. -/
def TreeAdds (P : String → Json → Prop) (before after : ArtifactTree) : Prop :=
  Adds P before.whole after.whole

variable {P : String → Json → Prop}

instance : Std.Refl (TreeAdds P) := ⟨fun tree => Std.Refl.refl (r := Adds P) tree.whole⟩

variable {after before tree : ArtifactTree} {binding : PrFollowupBinding} {store : ArtifactStore}
  {root : String} {value item : Json} {run : PlanRun} {step : PlanStep}

theorem TreeAdds.mono {Q : String → Json → Prop} (h : TreeAdds P before after)
    (himp : ∀ value, P before.root value → Q before.root value) :
    TreeAdds Q before after :=
  Adds.mono h himp

instance : IsTrans ArtifactTree (TreeAdds P) := ⟨fun _ _ _ hab hbc => Adds.trans hab hbc⟩

theorem treeAdds_withPullRequest (h : Adds P (tree.pullRequest binding) store) :
    TreeAdds P tree (tree.withPullRequest binding store) where
  root := rfl
  history := by
    intro file hfile
    rcases List.mem_append.mp hfile with hother | hown
    · exact Or.inl (List.mem_of_mem_filter hother)
    · rcases h.history file hown with hold | ⟨canonical, hcanonical, hcontent⟩ | hnew
      · exact Or.inl (List.mem_of_mem_filter hold)
      · exact Or.inr (Or.inl ⟨canonical, List.mem_of_mem_filter hcanonical, hcontent⟩)
      · exact Or.inr (Or.inr hnew)
  current := by
    intro file hfile
    rcases List.mem_append.mp hfile with hother | hown
    · exact Or.inl (List.mem_of_mem_filter hother)
    · rcases h.current file hown with hold | hnew
      · exact Or.inl (List.mem_of_mem_filter hold)
      · exact Or.inr hnew

theorem keeps_onPullRequest {α : Type} (binding : PrFollowupBinding) {m : Effect ArtifactStore α}
    (h : m.Keeps (Adds P)) : (onPullRequest binding m).Keeps (TreeAdds P) := by
  intro tree
  exact treeAdds_withPullRequest (h (tree.pullRequest binding))

/-- No file is written or taken out. -/
structure SameFiles (before after : ArtifactTree) : Prop where
  root : after.root = before.root
  history : after.history.Perm before.history
  current : after.current.Perm before.current

theorem SameFiles.refl (tree : ArtifactTree) : SameFiles tree tree := ⟨rfl, .rfl, .rfl⟩

theorem SameFiles.adds (h : SameFiles before after) :
    TreeAdds P before after where
  root := h.root
  history := fun _ hfile => Or.inl (h.history.mem_iff.mp hfile)
  current := fun _ hfile => Or.inl (h.current.mem_iff.mp hfile)

theorem sameFiles_withPullRequest (binding : PrFollowupBinding) (tree : ArtifactTree) :
    SameFiles tree (tree.withPullRequest binding (tree.pullRequest binding)) where
  root := rfl
  history := (List.perm_append_comm.trans (List.filter_append_perm _ _))
  current := (List.perm_append_comm.trans (List.filter_append_perm _ _))

/-! ### The binding -/

/-- The harness has no part in the step: where the lookup finds no pull request, a file stands at
the path of the one that is asked for, and cannot be read. -/
def StepInput.Grounded (validate : FamilyInvariants) (lookup : BindingRun)
    (input : StepInput) (tree : ArtifactTree) : Prop :=
  input.openStore lookup = .ok () →
    input.findPr validate lookup tree = .ok none →
      ∀ requested, input.bindingFromParams = .ok requested →
        ((tree.pullRequest requested).currentFile requested "pr").isSome = true
          ∧ (readCurrentJson validate requested "pr"
            (tree.pullRequest requested)).isOk = false

/-- The lookup accepts an artifact. -/
def StepInput.FindsPr (validate : FamilyInvariants) (lookup : BindingRun)
    (input : StepInput) (tree : ArtifactTree) : Prop :=
  ∃ value, input.findPr validate lookup tree = .ok (some value)

theorem bindingFromHarness_blocked (lookup : BindingRun) {requested : PrFollowupBinding}
    (hfile : (store.currentFile requested "pr").isSome)
    (hread : (readCurrentJson validate requested "pr" store).isOk = false) :
    ∃ error, (bindingFromHarness validate requested lookup).ends store
      = (.error error, store) := by
  cases hpr : readCurrentJson validate requested "pr" store with
  | ok value =>
    rw [hpr] at hread
    simp [Except.isOk, Except.toBool] at hread
  | error error =>
    refine ⟨error, ?_⟩
    simp [bindingFromHarness, ensureLegacyHarnessInputs, ends_bind, hfile, hpr,
      Except.bind]

theorem bindingFromParams_of_findPr {lookup : BindingRun} {input : StepInput} {found : Option Json}
    (h : input.findPr validate lookup tree = .ok found) :
    ∃ requested, input.bindingFromParams = .ok requested := by
  obtain ⟨requested, hrequested, -⟩ := bind_ok.mp h
  exact ⟨requested, hrequested⟩

/-- **Without the harness a binding is what the lookup has found, and nothing is written.** -/
theorem bindingForContext_grounded {lookup : BindingRun} {input : StepInput}
    (hopen : input.openStore lookup = .ok ())
    (hgrounded : input.Grounded validate lookup tree) :
    (input.bindingForContext validate lookup).Meets tree fun answer after =>
      SameFiles tree after
        ∧ (¬ input.FindsPr validate lookup tree →
          ∃ error, answer = .error error) := by
  refine meets_state ?_
  cases hfound : input.findPr validate lookup tree with
  | error error => exact meets_throw ⟨SameFiles.refl tree, fun _ => ⟨error, rfl⟩⟩
  | ok found =>
    cases found with
    | some value =>
      have hfinds : input.FindsPr validate lookup tree := ⟨value, hfound⟩
      dsimp only
      split
      · exact meets_throw ⟨SameFiles.refl tree, fun hnot => absurd hfinds hnot⟩
      · exact meets_pure ⟨SameFiles.refl tree, fun hnot => absurd hfinds hnot⟩
    | none =>
      obtain ⟨requested, hrequested⟩ := bindingFromParams_of_findPr hfound
      obtain ⟨hfile, hread⟩ := hgrounded hopen hfound requested hrequested
      obtain ⟨error, hends⟩ := bindingFromHarness_blocked lookup hfile hread
      simp only [hrequested]
      refine meets_onPart ?_
      unfold Effect.Meets
      rw [hends]
      exact ⟨sameFiles_withPullRequest requested tree, fun _ => ⟨error, rfl⟩⟩

/-! ### Steps without a pull request -/

/-- The step has failed. -/
def Stopped (answer : Except String StepOutcome) : Prop :=
  (∃ error, answer = .error error) ∨ answer = .ok .fatal

def IsFatalPlan (_root : String) (value : Json) : Prop :=
  artifactFamilyFromValue value = some planFamily
    ∧ fieldText "plan_state" value = some "fatal" ∧ arrayField value "must_fix" = []

/-- Nothing that is known of a pull request becomes more. -/
def AddsNoEvidence (before after : ArtifactTree) : Prop :=
  TreeAdds (fun _ value => ∀ family ∈ evidenceFamilies,
    artifactFamilyFromValue value ≠ some family) before after

theorem IsFatalPlan.noEvidence (h : IsFatalPlan root value) :
    ∀ family ∈ evidenceFamilies, artifactFamilyFromValue value ≠ some family := by
  intro family hfamily hvalue
  rw [h.1] at hvalue
  obtain rfl := Option.some.inj hvalue
  revert hfamily
  decide

theorem planDocument_fields {plan : RemediationPlanArtifact} {failure : Option ArtifactFailure}
    (h : documentsOf (planRequest step run plan failure) root value) :
    artifactFamilyFromValue value = some planFamily
      ∧ fieldText "plan_state" value = some plan.planState.asStr
      ∧ arrayField value "must_fix" = plan.mustFix := by
  refine ⟨documentsOf_family h, ?_, ?_⟩
  · have hfield : value.get? "plan_state" = plan.toJson.get? "plan_state" :=
      documentsOf_field h (by decide)
    unfold fieldText
    rw [hfield]
    rfl
  · have hfield : value.get? "must_fix" = plan.toJson.get? "must_fix" :=
      documentsOf_field h (by decide)
    unfold arrayField
    rw [hfield]
    rfl

theorem keeps_writeFatalPlan (validate : FamilyInvariants) (step : PlanStep)
    (run : PlanRun) (error : String) :
    (writeFatalPlan validate step run error).Keeps (Adds IsFatalPlan) := by
  refine keeps_of ?_
  intro store
  apply Adds.mono (adds_write run.order _ run.publication store)
  intro value hvalue
  obtain ⟨hfamily, hstate, hitems⟩ := planDocument_fields hvalue
  exact ⟨hfamily, hstate, hitems⟩

theorem stopped_map {α : Type} (written : Except String α) :
    Stopped (written.map fun _ => StepOutcome.fatal) := by
  cases written with
  | error error => exact Or.inl ⟨error, rfl⟩
  | ok record => exact Or.inr rfl

theorem writeFatalPlan_stops (step : PlanStep) (run : PlanRun) (error : String)
    (store : ArtifactStore) :
    Stopped ((writeFatalPlan validate step run error).ends store).1 :=
  stopped_map _

section Stops

variable {lookup : BindingRun}

/-- **A plan without a pull request is fatal.** -/
theorem buildRemediationPlan_stops {input : StepInput}
    (hfinds : ¬ input.FindsPr validate lookup tree)
    (hgrounded : input.Grounded validate lookup tree) :
    (input.buildRemediationPlan validate lookup run).Meets tree
      fun answer after => Stopped answer ∧ TreeAdds IsFatalPlan tree after := by
  have hsame : TreeAdds IsFatalPlan tree tree := Std.Refl.refl tree
  unfold StepInput.buildRemediationPlan
  split
  · exact meets_throw ⟨Or.inl ⟨_, rfl⟩, hsame⟩
  · exact meets_throw ⟨Or.inl ⟨_, rfl⟩, hsame⟩
  · rename_i fallback hopen hfallback
    refine meets_attempt ?_
    apply (bindingForContext_grounded hopen hgrounded).mono
    intro answer after hbinding
    obtain ⟨error, rfl⟩ := hbinding.2 hfinds
    refine meets_onPart ⟨writeFatalPlan_stops _ _ _ _, ?_⟩
    have hwritten := keeps_onPullRequest fallback
      (keeps_writeFatalPlan validate (input.planStep fallback) run error)
    exact IsTrans.trans _ _ _ hbinding.1.adds (hwritten after)

/-- **A local verification without a pull request is an error.** -/
theorem runPostPrTests_stops {input : PostPrTestInput} {run : PostPrTestRun}
    (hfinds : ¬ input.FindsPr validate lookup tree)
    (hgrounded : input.Grounded validate lookup tree) :
    (input.runPostPrTests validate lookup run).Meets tree
      fun answer after => (∃ error, answer = .error error) ∧ SameFiles tree after := by
  unfold PostPrTestInput.runPostPrTests
  split
  · exact meets_throw ⟨⟨_, rfl⟩, SameFiles.refl tree⟩
  · rename_i hopen
    refine meets_bind ?_
    apply (bindingForContext_grounded hopen hgrounded).mono
    intro answer after hbinding
    obtain ⟨error, rfl⟩ := hbinding.2 hfinds
    exact ⟨⟨error, rfl⟩, hbinding.1⟩

/-- **A push without a pull request fails, unless it is told to wait before it looks for one.** -/
theorem pushRemediationChanges_stops {input : PushInput} {run : PushRun}
    {world : RemediationWorld}
    (hfinds : ¬ input.FindsPr validate lookup world.tree)
    (hgrounded : input.Grounded validate lookup world.tree) :
    (input.pushRemediationChanges validate lookup run).Meets world
      fun answer after =>
        (Stopped answer ∨ (run.barrier = .blocked ∧ answer = .ok .wait))
          ∧ SameFiles world.tree after.tree := by
  unfold PushInput.pushRemediationChanges
  split
  · rename_i hbarrier
    exact meets_pure ⟨Or.inr ⟨hbarrier, rfl⟩, SameFiles.refl _⟩
  · exact meets_pure ⟨Or.inl (Or.inr rfl), SameFiles.refl _⟩
  · exact meets_throw ⟨Or.inl (Or.inl ⟨_, rfl⟩), SameFiles.refl _⟩
  · rename_i hopen
    refine meets_bind (meets_onPart ?_)
    apply (bindingForContext_grounded hopen hgrounded).mono
    intro answer after hbinding
    obtain ⟨error, rfl⟩ := hbinding.2 hfinds
    exact ⟨Or.inl (Or.inl ⟨error, rfl⟩), hbinding.1⟩

end Stops

/-! ### The findings of a plan -/

/-- A finding is made of an entry of the document: a failed check, an accepted result, or a
command that has failed. -/
inductive StemsFrom (item source : Json) : Prop where
  | ciFailure (binding : PrFollowupBinding) (index : Nat) (failure : Json)
      (family : artifactFamilyFromValue source = some ciFailuresFamily)
      (entry : failure ∈ arrayField source "failures")
      (made : item = ciMustFixItem binding source index failure)
  | evaluation (binding : PrFollowupBinding) (result : Json)
      (family : artifactFamilyFromValue source = some "feedback-evaluations")
      (entry : result ∈ arrayField source "accepted_results")
      (made : item = feedbackPlanItem binding source result)
  | testFailure (binding : PrFollowupBinding) (command : Json)
      (family : artifactFamilyFromValue source = some testFamily)
      (entry : command ∈ arrayField source "commands")
      (made : item = postPrTestMustFixItem binding source command)

theorem mem_mustFix_routeAcceptedResult {evaluations : Json} {lists : PlanLists} {result : Json}
    (h : item ∈ (routeAcceptedResult binding evaluations lists result).mustFix) :
    item ∈ lists.mustFix ∨ item = feedbackPlanItem binding evaluations result := by
  have happended : item ∈ lists.mustFix ++ [feedbackPlanItem binding evaluations result] →
      item ∈ lists.mustFix ∨ item = feedbackPlanItem binding evaluations result := by
    intro hmem
    rcases List.mem_append.mp hmem with hold | hnew
    · exact Or.inl hold
    · exact Or.inr (List.mem_singleton.mp hnew)
  unfold routeAcceptedResult at h
  simp only at h
  split at h
  · exact Or.inl h
  · split at h
    · exact happended h
    · split at h <;> exact Or.inl h
    · exact Or.inl h
    · exact Or.inl h

theorem mem_mustFix_foldl {evaluations : Json} {results : List Json} {lists : PlanLists}
    (h : item ∈ (results.foldl (routeAcceptedResult binding evaluations) lists).mustFix) :
    item ∈ lists.mustFix
      ∨ ∃ result ∈ results, item = feedbackPlanItem binding evaluations result := by
  induction results generalizing lists with
  | nil => exact Or.inl h
  | cons result rest ih =>
    rcases ih h with hbefore | ⟨other, hother, hmade⟩
    · rcases mem_mustFix_routeAcceptedResult hbefore with hold | hmade
      · exact Or.inl hold
      · exact Or.inr ⟨result, by simp, hmade⟩
    · exact Or.inr ⟨other, by simp [hother], hmade⟩

/-- The document is among the files. -/
def ArtifactStore.Holds (value : Json) (store : ArtifactStore) : Prop :=
  ∃ file ∈ store.current, file.content = value

theorem obj_of_asObject? {value : Option Json} {entries : List (String × Json)}
    (h : value.bind Json.asObject? = some entries) : value = some (.obj entries) := by
  obtain ⟨found, hfound, hentries⟩ := Option.bind_eq_some_iff.mp h
  cases found with
  | obj others =>
    rw [hfound]
    exact congrArg (fun e => some (Json.obj e)) (Option.some.inj hentries)
  | _ => simp [Json.asObject?] at hentries

theorem family_of_validateArtifactMetadata {family : String}
    (h : validateArtifactMetadata family value = .ok ()) :
    artifactFamilyFromValue value = some family := by
  unfold validateArtifactMetadata at h
  cases hmetadata : (value.get? "history_metadata").bind Json.asObject? with
  | none => simp [hmetadata, bind, Except.bind] at h
  | some entries =>
    simp only [hmetadata] at h
    obtain ⟨metadata, hobject, h⟩ := bind_ok.mp h
    obtain rfl := Except.ok.inj hobject
    cases hfamily : ((Json.obj entries).get? "artifact_family").bind Json.asStr? with
    | none => simp [hfamily, bind, Except.bind] at h
    | some found =>
      simp only [hfamily] at h
      obtain ⟨_, hfound, h⟩ := bind_ok.mp h
      obtain rfl := Except.ok.inj hfound
      obtain ⟨hsame, -⟩ := refused_ok.mp h
      unfold artifactFamilyFromValue metadataString
      rw [obj_of_asObject? hmetadata, Option.bind_some, hfamily, not_not.mp hsame]

theorem family_of_validateArtifactValue {family : String}
    (h : validateArtifactValue binding family value = .ok ()) :
    artifactFamilyFromValue value = some family := by
  unfold validateArtifactValue at h
  obtain ⟨actual, -, h⟩ := bind_ok.mp h
  obtain ⟨-, h⟩ := refused_ok.mp h
  exact family_of_validateArtifactMetadata h

theorem eq_of_parsed {content : Json} {error : String → String}
    (h : (Json.fromText content).mapError error = .ok value) : value = content := by
  cases hparsed : Json.fromText content with
  | error reason => simp [hparsed, Except.mapError] at h
  | ok parsed =>
    rw [hparsed] at h
    obtain rfl := Except.ok.inj h
    exact eq_of_fromText hparsed

theorem readCurrentJson_holds {family : String}
    (h : readCurrentJson validate binding family store = .ok value) :
    store.Holds value ∧ artifactFamilyFromValue value = some family := by
  unfold readCurrentJson at h
  simp only at h
  cases hfile : store.currentFile binding family with
  | none => simp [hfile] at h
  | some file =>
    simp only [hfile] at h
    obtain ⟨content, hcontent, h⟩ := bind_ok.mp h
    obtain ⟨⟨⟩, hvalid, h⟩ := bind_ok.mp h
    obtain ⟨⟨⟩, -, h⟩ := bind_ok.mp h
    obtain ⟨⟨⟩, -, h⟩ := bind_ok.mp h
    obtain ⟨⟨⟩, -, h⟩ := bind_ok.mp h
    obtain rfl := Except.ok.inj h
    exact ⟨⟨file, List.mem_of_find?_eq_some hfile, (eq_of_parsed hcontent).symm⟩,
      family_of_validateArtifactValue hvalid⟩

theorem readOptionalCurrentJsonForHead_holds {family : String}
    (h : readOptionalCurrentJsonForHead validate binding family store
      = .ok (some value)) :
    store.Holds value ∧ artifactFamilyFromValue value = some family := by
  unfold readOptionalCurrentJsonForHead at h
  cases hfile : store.currentFile binding family with
  | none => simp [hfile] at h
  | some file =>
    simp only [hfile] at h
    obtain ⟨content, hcontent, h⟩ := bind_ok.mp h
    obtain ⟨actual, -, h⟩ := bind_ok.mp h
    split at h
    · simp at h
    · obtain ⟨⟨⟩, hvalid, h⟩ := bind_ok.mp h
      obtain rfl := Option.some.inj (Except.ok.inj h)
      exact ⟨⟨file, List.mem_of_find?_eq_some hfile, (eq_of_parsed hcontent).symm⟩,
        family_of_validateArtifactValue hvalid⟩

/-- The inputs of a plan are documents of the store. -/
structure InputsHeld (store : ArtifactStore) (inputs : PlanInputs) : Prop where
  ciFailures : store.Holds inputs.ciFailures
    ∧ artifactFamilyFromValue inputs.ciFailures = some ciFailuresFamily
  evaluations : store.Holds inputs.evaluations
    ∧ artifactFamilyFromValue inputs.evaluations = some "feedback-evaluations"
  postPrTestResult : ∀ result ∈ inputs.postPrTestResult, store.Holds result
    ∧ artifactFamilyFromValue result = some testFamily

theorem readPlanInputs_held {inputs : PlanInputs}
    (h : readPlanInputs validate binding store = .ok inputs) :
    InputsHeld store inputs := by
  obtain ⟨ciFailures, hciFailures, h⟩ := bind_ok.mp h
  obtain ⟨feedback, -, h⟩ := bind_ok.mp h
  obtain ⟨evaluations, hevaluations, h⟩ := bind_ok.mp h
  obtain ⟨testResult, htestResult, h⟩ := bind_ok.mp h
  obtain rfl := Except.ok.inj h
  refine ⟨readCurrentJson_holds hciFailures, readCurrentJson_holds hevaluations, ?_⟩
  intro result hresult
  have hread : readOptionalCurrentJsonForHead validate binding testFamily store
      = .ok (some result) := htestResult.trans (congrArg Except.ok hresult)
  exact readOptionalCurrentJsonForHead_holds hread

theorem mustFix_planLists_stems {inputs : PlanInputs} (hheld : InputsHeld store inputs)
    (h : item ∈ (planLists binding inputs).mustFix) :
    ∃ source, store.Holds source ∧ StemsFrom item source := by
  rcases mem_mustFix_foldl h with hbefore | ⟨result, hresult, hmade⟩
  · rcases List.mem_append.mp hbefore with hci | htest
    · obtain ⟨index, hindex, hmade⟩ := List.mem_mapIdx.mp hci
      exact ⟨_, hheld.ciFailures.1,
        .ciFailure binding index _ hheld.ciFailures.2 (List.getElem_mem hindex) hmade.symm⟩
    · cases htestResult : inputs.postPrTestResult with
      | none => simp [htestResult] at htest
      | some testResult =>
        obtain ⟨hholds, hfamily⟩ := hheld.postPrTestResult testResult htestResult
        simp only [htestResult, Option.map_some, Option.getD_some] at htest
        unfold postPrTestFailures at htest
        split at htest
        · obtain ⟨command, hcommand, hmade⟩ := List.mem_map.mp htest
          exact ⟨testResult, hholds, .testFailure binding command hfamily
            (List.mem_of_mem_filter hcommand) hmade.symm⟩
        · simp at htest
  · exact ⟨_, hheld.evaluations.1, .evaluation binding result hheld.evaluations.2 hresult hmade⟩

/-- **A finding of a plan stems from a document that the plan was made of.** -/
theorem mustFix_stems (h : item ∈ (buildPlan validate step run store).1.mustFix) :
    ∃ source, store.Holds source ∧ StemsFrom item source := by
  unfold buildPlan at h
  split at h
  · simp at h
  · split at h
    · simp at h
    · rename_i inputs hinputs
      exact mustFix_planLists_stems (readPlanInputs_held hinputs) h

/-! ### Runs -/

/-- The steps that find out what is known of a pull request. -/
inductive Producer where
  | capturePrIdentity
  | collectCiFailures
  | collectCoderabbitFeedback
  | evaluateCoderabbitFeedback

def Producer.family : Producer → String
  | capturePrIdentity => "pr"
  | collectCiFailures => ciFailuresFamily
  | collectCoderabbitFeedback => "coderabbit-feedback"
  | evaluateCoderabbitFeedback => "feedback-evaluations"

/-- A write of a producer. -/
structure ArtifactWrite where
  request : JsonArtifactWriteRequest
  order : ListingOrder
  publication : Publication

/-- What happens to the artifacts of a run. -/
inductive RemediationEvent where
  | produced (producer : Producer) (write : ArtifactWrite)
      (family : write.request.artifactFamily = producer.family)
  /-- A step writes an artifact that no plan is made of. -/
  | written (write : ArtifactWrite)
      (family : write.request.artifactFamily ∉ evidenceFamilies ++ [planFamily, testFamily])
  | planned (input : StepInput) (lookup : BindingRun) (run : PlanRun)
  | tested (input : PostPrTestInput) (lookup : BindingRun) (run : PostPrTestRun)
  | pushed (input : PushInput) (lookup : BindingRun) (run : PushRun)

section Runs

variable (validate : FamilyInvariants)

def ArtifactWrite.effect (write : ArtifactWrite) : Effect RemediationWorld StepOutcome :=
  RemediationWorld.onTree (onPullRequest write.request.binding (Effect.of fun store =>
    let (answer, store) := writeJsonArtifactLocked validate write.order
      write.request write.publication store
    (answer.map fun _ => .success, store)))

def RemediationEvent.effect : RemediationEvent → Effect RemediationWorld StepOutcome
  | produced _ write _ => write.effect validate
  | written write _ => write.effect validate
  | planned input lookup run =>
    RemediationWorld.onTree (input.buildRemediationPlan validate lookup run)
  | tested input lookup run => RemediationWorld.onTree (input.runPostPrTests validate lookup run)
  | pushed input lookup run => input.pushRemediationChanges validate lookup run

/-- The steps of a remediation, over the files of a root. -/
def remediationMachine :
    StateMachine RemediationWorld RemediationEvent (Except String StepOutcome) where
  start world := world.tree.history = [] ∧ world.tree.current = []
  step world event := (event.effect validate).ends world

/-- The harness has no part in the event. -/
def RemediationEvent.Grounded (world : RemediationWorld) : RemediationEvent → Prop
  | produced _ _ _ => True
  | written _ _ => True
  | planned input lookup _ | tested input lookup _ => input.Grounded validate lookup world.tree
  | pushed input lookup run => run.barrier = .allow → input.Grounded validate lookup world.tree

end Runs

/-- The event writes the document: a producer, or the local verification. -/
def RemediationEvent.Writes (root : String) (value : Json) : RemediationEvent → Prop
  | produced _ write _ => documentsOf write.request root value
  | tested input _ run => ∃ binding, testDocuments (input.step binding) run root value
  | written _ _ => False
  | planned _ _ _ => False
  | pushed _ _ _ => False

/-- The document is accounted for by the events: one that plans are made of was written by its
producer, and what a plan finds stems from such a document. -/
structure Accounted (events : List RemediationEvent) (root : String) (value : Json) : Prop where
  source : ∀ family ∈ testFamily :: evidenceFamilies,
    artifactFamilyFromValue value = some family → ∃ event ∈ events, event.Writes root value
  plan : artifactFamilyFromValue value = some planFamily →
    ∀ item ∈ arrayField value "must_fix",
      ∃ event ∈ events, ∃ source, event.Writes root source ∧ StemsFrom item source

theorem Accounted.mono {past events : List RemediationEvent} (h : Accounted past root value)
    (hsubset : past ⊆ events) : Accounted events root value where
  source := by
    intro family hfamily hvalue
    obtain ⟨event, hevent, hwrites⟩ := h.source family hfamily hvalue
    exact ⟨event, hsubset hevent, hwrites⟩
  plan := by
    intro hvalue item hitem
    obtain ⟨event, hevent, hsource⟩ := h.plan hvalue item hitem
    exact ⟨event, hsubset hevent, hsource⟩

variable {events : List RemediationEvent}

theorem accounted_of_other {family : String}
    (hvalue : artifactFamilyFromValue value = some family)
    (hfamily : family ∉ evidenceFamilies ++ [planFamily, testFamily]) :
    Accounted events root value := by
  have hne : ∀ other ∈ evidenceFamilies ++ [planFamily, testFamily],
      artifactFamilyFromValue value ≠ some other := by
    intro other hother hsame
    rw [hvalue] at hsame
    exact hfamily (Option.some.inj hsame ▸ hother)
  refine ⟨?_, ?_⟩
  · intro other hother hsame
    refine absurd hsame (hne other ?_)
    rcases List.mem_cons.mp hother with rfl | hother
    · simp
    · exact List.mem_append_left _ hother
  · intro hsame
    exact absurd hsame (hne planFamily (by simp))

theorem accounted_of_writes {event : RemediationEvent} {family : String} (hevent : event ∈ events)
    (hwrites : event.Writes root value) (hvalue : artifactFamilyFromValue value = some family)
    (hfamily : family ≠ planFamily) : Accounted events root value where
  source := fun _ _ _ => ⟨event, hevent, hwrites⟩
  plan := by
    intro hplan
    rw [hvalue] at hplan
    exact absurd (Option.some.inj hplan) hfamily

theorem StemsFrom.family {source : Json} (h : StemsFrom item source) :
    ∃ family ∈ testFamily :: evidenceFamilies, artifactFamilyFromValue source = some family := by
  cases h with
  | ciFailure _ _ _ family _ _ => exact ⟨ciFailuresFamily, by decide, family⟩
  | evaluation _ _ family _ _ => exact ⟨"feedback-evaluations", by decide, family⟩
  | testFailure _ _ family _ _ => exact ⟨testFamily, by decide, family⟩

theorem accounted_of_plan
    (hvalue : artifactFamilyFromValue value = some planFamily)
    (hitems : ∀ item ∈ arrayField value "must_fix",
      ∃ event ∈ events, ∃ source, event.Writes root source ∧ StemsFrom item source) :
    Accounted events root value where
  source := by
    intro family hfamily hsame
    rw [hvalue] at hsame
    have hplan : planFamily ∉ testFamily :: evidenceFamilies := by decide
    exact absurd (Option.some.inj hsame ▸ hfamily) hplan
  plan := fun _ => hitems

theorem IsFatalPlan.accounted (h : IsFatalPlan root value) : Accounted events root value := by
  apply accounted_of_plan h.1
  intro item hitem
  rw [h.2.2] at hitem
  simp at hitem

/-- Every file is accounted for. -/
def AllAccounted (events : List RemediationEvent) (tree : ArtifactTree) : Prop :=
  ∀ file, file ∈ tree.history ∨ file ∈ tree.current → Accounted events tree.root file.content

theorem AllAccounted.mono {past events : List RemediationEvent} (h : AllAccounted past tree)
    (hsubset : past ⊆ events) : AllAccounted events tree :=
  fun file hfile => (h file hfile).mono hsubset

theorem AllAccounted.sameFiles (h : AllAccounted events before) (hsame : SameFiles before after) :
    AllAccounted events after := by
  intro file hfile
  rw [hsame.root]
  rcases hfile with hhistory | hcurrent
  · exact h file (Or.inl (hsame.history.mem_iff.mp hhistory))
  · exact h file (Or.inr (hsame.current.mem_iff.mp hcurrent))

theorem AllAccounted.adds (h : AllAccounted events before)
    (hadds : TreeAdds (Accounted events) before after) : AllAccounted events after := by
  have hroot : after.root = before.root := hadds.root
  intro file hfile
  rw [hroot]
  rcases hfile with hhistory | hcurrent
  · rcases hadds.history file hhistory with hold | ⟨canonical, hcanonical, hcontent⟩ | hnew
    · exact h file (Or.inl hold)
    · exact hcontent ▸ h canonical (Or.inr hcanonical)
    · exact hnew
  · rcases hadds.current file hcurrent with hold | hnew
    · exact h file (Or.inr hold)
    · exact hnew

/-- **The findings of a plan are accounted for where the files are that it is made of.** -/
theorem planDocuments_accounted (h : AllAccounted events tree)
    (hvalue : planDocuments validate step run
      (tree.pullRequest step.binding) tree.root value) :
    Accounted events tree.root value := by
  obtain ⟨hfamily, -, hmustFix⟩ := planDocument_fields hvalue
  apply accounted_of_plan hfamily
  intro item hitem
  rw [hmustFix] at hitem
  obtain ⟨source, ⟨file, hfile, rfl⟩, hstems⟩ := mustFix_stems hitem
  have hcurrent : file ∈ tree.current := List.mem_of_mem_filter hfile
  obtain ⟨family, hmem, hsource⟩ := hstems.family
  obtain ⟨event, hevent, hwrites⟩ := (h file (Or.inr hcurrent)).source family hmem hsource
  exact ⟨event, hevent, file.content, hwrites, hstems⟩

/-! ### One event -/

section Event

variable {events : List RemediationEvent} {lookup : BindingRun}

variable {world : RemediationWorld}

theorem write_adds {write : ArtifactWrite}
    (h : ∀ value, documentsOf write.request world.tree.root value →
      Accounted events world.tree.root value) :
    (write.effect validate).Meets world fun _ after =>
      TreeAdds (Accounted events) world.tree after.tree := by
  unfold ArtifactWrite.effect
  refine meets_onPart (meets_onPart ?_)
  apply treeAdds_withPullRequest
  exact (adds_write write.order write.request write.publication _).mono h

theorem buildRemediationPlan_adds {input : StepInput} (h : AllAccounted events tree)
    (hgrounded : input.Grounded validate lookup tree) :
    (input.buildRemediationPlan validate lookup run).Meets tree fun _ after =>
      TreeAdds (Accounted events) tree after := by
  unfold StepInput.buildRemediationPlan
  split
  · exact meets_throw (Std.Refl.refl tree)
  · exact meets_throw (Std.Refl.refl tree)
  · rename_i fallback hopen hfallback
    refine meets_attempt ?_
    apply (bindingForContext_grounded hopen hgrounded).mono
    intro answer after hbinding
    have hafter : AllAccounted events after := h.sameFiles hbinding.1
    have hsame : TreeAdds (Accounted events) tree after := hbinding.1.adds
    cases answer with
    | error error =>
      have hwritten := keeps_onPullRequest fallback
        (keeps_writeFatalPlan validate (input.planStep fallback) run error)
      refine meets_onPart (IsTrans.trans _ _ _ hsame ?_)
      exact (hwritten after).mono fun value hfatal => hfatal.accounted
    | ok binding =>
      refine meets_onPart (IsTrans.trans _ _ _ hsame ?_)
      apply treeAdds_withPullRequest
      apply (adds_buildRemediationPlan (input.planStep binding) run _).mono
      intro value hvalue
      exact planDocuments_accounted hafter hvalue

theorem runPostPrTests_adds {input : PostPrTestInput} {run : PostPrTestRun}
    (hevent : .tested input lookup run ∈ events) (hgrounded : input.Grounded validate lookup tree) :
    (input.runPostPrTests validate lookup run).Meets tree fun _ after =>
      TreeAdds (Accounted events) tree after := by
  unfold PostPrTestInput.runPostPrTests
  split
  · exact meets_throw (Std.Refl.refl tree)
  · rename_i hopen
    refine meets_bind ?_
    apply (bindingForContext_grounded hopen hgrounded).mono
    intro answer after hbinding
    have hsame : TreeAdds (Accounted events) tree after := hbinding.1.adds
    cases answer with
    | error error => exact hsame
    | ok binding =>
      have hwritten := keeps_onPullRequest binding
        (keeps_runPostPrTests validate (input.step binding) run)
      refine meets_onPart (IsTrans.trans _ _ _ hsame ?_)
      apply (hwritten after).mono
      intro value hvalue
      have hvalue' := hvalue
      obtain ⟨payload, failure, hdocument⟩ := hvalue
      have hfamily : testFamily ≠ planFamily := by decide
      exact accounted_of_writes hevent ⟨binding, hvalue'⟩ (documentsOf_family hdocument) hfamily

theorem pushRemediationChanges_adds {input : PushInput} {run : PushRun}
    (hgrounded : run.barrier = .allow → input.Grounded validate lookup world.tree) :
    (input.pushRemediationChanges validate lookup run).Meets world
      fun _ after => TreeAdds (Accounted events) world.tree after.tree := by
  unfold PushInput.pushRemediationChanges
  split
  · exact meets_pure (Std.Refl.refl world.tree)
  · exact meets_pure (Std.Refl.refl world.tree)
  · exact meets_throw (Std.Refl.refl world.tree)
  · rename_i hbarrier hopen
    refine meets_bind (meets_onPart ?_)
    apply (bindingForContext_grounded hopen (hgrounded hbarrier)).mono
    intro answer after hbinding
    have hsame : TreeAdds (Accounted events) world.tree after := hbinding.1.adds
    cases answer with
    | error error => exact hsame
    | ok binding =>
      refine meets_state ?_
      split
      · exact meets_throw hsame
      · exact meets_throw hsame
      · rename_i workingDirectory _ _
        refine meets_onPart (IsTrans.trans _ _ _ hsame ?_)
        have hpushed := keeps_pushRemediationChanges validate
          (input.step binding workingDirectory) run
          ⟨after.pullRequest binding, world.repository, world.commands⟩
        apply (treeAdds_withPullRequest hpushed).mono
        intro value hvalue
        exact accounted_of_other hvalue (by decide)

/-- **What an event adds is accounted for by the events up to it.** -/
theorem effect_adds {past : List RemediationEvent} {event : RemediationEvent}
    (h : AllAccounted past world.tree) (hgrounded : event.Grounded validate world) :
    (event.effect validate).Meets world fun _ after =>
      TreeAdds (Accounted (past ++ [event])) world.tree after.tree := by
  have hevent : event ∈ past ++ [event] := by simp
  have hpast : AllAccounted (past ++ [event]) world.tree := h.mono (List.subset_append_left _ _)
  cases event with
  | produced producer write family =>
    apply write_adds
    intro value hvalue
    have hfamily : write.request.artifactFamily ≠ planFamily := by
      rw [family]
      cases producer <;> decide
    exact accounted_of_writes hevent hvalue (documentsOf_family hvalue) hfamily
  | written write family =>
    apply write_adds
    intro value hvalue
    exact accounted_of_other (documentsOf_family hvalue) family
  | planned input lookup run => exact buildRemediationPlan_adds hpast hgrounded
  | tested input lookup run => exact runPostPrTests_adds hevent hgrounded
  | pushed input lookup run => exact pushRemediationChanges_adds hgrounded

end Event

/-- **Along a run that the harness has no part in every document is accounted for.** -/
theorem run_accounted {world : RemediationWorld}
    (hstart : (remediationMachine validate).start world)
    (h : (remediationMachine validate).Along
      (fun world event => event.Grounded validate world) world events) :
    AllAccounted events ((remediationMachine validate).run world events).tree
      ∧ ((remediationMachine validate).run world events).tree.root
        = world.tree.root := by
  have hempty : AllAccounted [] world.tree ∧ world.tree.root = world.tree.root := by
    refine ⟨?_, rfl⟩
    intro file hfile
    rw [hstart.1, hstart.2] at hfile
    simp at hfile
  apply h.history (P := fun past later =>
    AllAccounted past later.tree ∧ later.tree.root = world.tree.root) _ hempty
  intro past before event hgrounded hbefore
  have hadds : TreeAdds (Accounted (past ++ [event])) before.tree
      ((remediationMachine validate).next before event).tree :=
    effect_adds hbefore.1 hgrounded
  have hpast := hbefore.1.mono (List.subset_append_left past [event])
  exact ⟨hpast.adds hadds, hadds.root.trans hbefore.2⟩

/-- **Steps without the harness invent nothing.** Where the lookup accepts no artifact of a pull
request, and the harness has no part in the step, a plan is fatal and all that is written, a
local verification is an error, and a push fails, unless the scope barrier tells it to wait;
the last two write nothing.  Along a run of steps that the harness has no part in, every finding
of every plan stems from a document that a producer or the local verification has written. -/
theorem remediation_invents_nothing (validate : FamilyInvariants) :
    (∀ (lookup : BindingRun) (input : StepInput) (run : PlanRun) (tree : ArtifactTree),
        ¬ input.FindsPr validate lookup tree →
        input.Grounded validate lookup tree →
        (input.buildRemediationPlan validate lookup run).Meets tree
          fun answer after =>
            Stopped answer ∧ TreeAdds IsFatalPlan tree after ∧ AddsNoEvidence tree after)
      ∧ (∀ (lookup : BindingRun) (input : PostPrTestInput) (run : PostPrTestRun)
          (tree : ArtifactTree),
        ¬ input.FindsPr validate lookup tree →
        input.Grounded validate lookup tree →
        (input.runPostPrTests validate lookup run).Meets tree
          fun answer after => (∃ error, answer = .error error) ∧ SameFiles tree after)
      ∧ (∀ (lookup : BindingRun) (input : PushInput) (run : PushRun) (world : RemediationWorld),
        ¬ input.FindsPr validate lookup world.tree →
        input.Grounded validate lookup world.tree →
        (input.pushRemediationChanges validate lookup run).Meets world
          fun answer after =>
            (Stopped answer ∨ (run.barrier = .blocked ∧ answer = .ok .wait))
              ∧ SameFiles world.tree after.tree)
      ∧ (∀ (world : RemediationWorld) (events : List RemediationEvent),
        (remediationMachine validate).start world →
        (remediationMachine validate).Along
          (fun world event => event.Grounded validate world) world events →
        ∀ file,
          file ∈ ((remediationMachine validate).run world events).tree.history ∨
            file ∈ ((remediationMachine validate).run world events).tree.current →
          artifactFamilyFromValue file.content = some planFamily →
          ∀ item ∈ arrayField file.content "must_fix",
            ∃ event ∈ events, ∃ source,
              event.Writes world.tree.root source ∧ StemsFrom item source) := by
  refine ⟨?_, ?_, ?_, ?_⟩
  · intro lookup input run tree hfinds hgrounded
    apply (buildRemediationPlan_stops hfinds hgrounded).mono
    intro answer after hstops
    have hnone : AddsNoEvidence tree after := hstops.2.mono fun value hfatal => hfatal.noEvidence
    exact ⟨hstops.1, hstops.2, hnone⟩
  · intro lookup input run tree hfinds hgrounded
    exact runPostPrTests_stops hfinds hgrounded
  · intro lookup input run world hfinds hgrounded
    exact pushRemediationChanges_stops hfinds hgrounded
  · intro world events hstart halong file hfile hplan item hitem
    obtain ⟨haccounted, hroot⟩ := run_accounted hstart halong
    have hfindings := (haccounted file hfile).plan hplan item hitem
    rwa [hroot] at hfindings

/-! ### A step that is given nothing -/

def inOrder : ListingOrder := ⟨id, fun _ => .rfl⟩

/-- A step that is given nothing but the place of the artifacts. -/
def bareInput : StepInput where
  runId := "r"
  workDir := "/w"
  context := StepContext.build "/w" "r"
  params := .obj [("artifact_root", .str "/a")]
  order := ["work_dir", "run_id"]
  ordered := ⟨[], _, ⟨[], .refl _, .nil⟩, .refl _, by decide⟩
  identified := by decide

def bareLookup : BindingRun where
  order := inOrder
  now := fun _ => 0
  writtenAt := fun _ => 0

def barePlan : PlanRun := { order := inOrder, builtAt := 0, writtenAt := 0 }

/-- The pull request of that step. -/
def bareBinding : PrFollowupBinding :=
  ⟨1, "r", "example", "workflow", 1910, "feature", "aaaaaaaaaaaaaaaaaaaaaaaaaaaaaaaaaaaaaaaa", "main",
    some "base-a"⟩

/-- A producer writes about it. -/
def producing (producer : Producer) (stepOrderIndex : UInt64) (payload : Json) :
    RemediationEvent :=
  .produced producer ⟨⟨bareBinding, producer.family, "p", stepOrderIndex, 0, 0, payload, none⟩,
    inOrder, .published⟩ rfl

/-- The producers find a failed check and a comment, a plan is made of them, and the local
verification misses a result. -/
def foundRun : List RemediationEvent :=
  [producing .capturePrIdentity 1 (.obj [("capture_state", .str "captured")]),
   producing .collectCiFailures 4 legacyHarnessCiFailures,
   producing .collectCoderabbitFeedback 5 (legacyHarnessFeedback bareBinding),
   producing .evaluateCoderabbitFeedback 6 (legacyHarnessEvaluations bareBinding 0),
   .planned bareInput bareLookup barePlan,
   .tested { bareInput with commands := .ok [] } bareLookup
    ⟨inOrder, fun _ => ⟨.lost "", "", "", .skipped, "", ""⟩, 0, 0, .published⟩]

def bareWorld : RemediationWorld := { tree := { root := "/a" }, repository := ⟨0, 0, []⟩ }

/-- A pull request of the harness whose history is gone stands where the step would write one. -/
def blockedTree : ArtifactTree :=
  { root := "/a", current := [⟨canonicalPath "/a" bareBinding "pr",
      .obj (bindingFields bareBinding ++ [("source", .str legacyHarness)])⟩] }

theorem bareInput_grounded : bareInput.Grounded exampleInvariants bareLookup blockedTree := by
  intro _ _ requested hrequested
  have hbare : bareInput.bindingFromParams = .ok bareBinding := by decide +kernel
  obtain rfl := Except.ok.inj (hrequested.symm.trans hbare)
  decide +kernel

/-- The step stops at the file, and the findings of the run stem from its producers. -/
theorem remediation_invents_nothing_found :
    bareInput.findPr exampleInvariants bareLookup blockedTree = .ok none
      ∧ (bareInput.buildRemediationPlan exampleInvariants bareLookup barePlan).Meets blockedTree
        (fun answer _ => Stopped answer)
      ∧ ∃ file ∈ ((remediationMachine exampleInvariants).run bareWorld foundRun).tree.current,
        (arrayField file.content "must_fix").length = 2
          ∧ ∀ item ∈ arrayField file.content "must_fix", ∃ event ∈ foundRun, ∃ source,
            event.Writes "/a" source ∧ StemsFrom item source := by
  obtain ⟨hplan, -, -, hrun⟩ := remediation_invents_nothing exampleInvariants
  have hnone : bareInput.findPr exampleInvariants bareLookup blockedTree = .ok none := by
    decide +kernel
  refine ⟨hnone, (hplan bareLookup bareInput _ blockedTree ?_ bareInput_grounded).mono
    (fun _ _ h => h.1), ?_⟩
  · rintro ⟨value, hvalue⟩
    exact absurd (Except.ok.inj (hnone.symm.trans hvalue)) (by simp)
  · have hfound : ∃ file ∈ ((remediationMachine exampleInvariants).run bareWorld
        foundRun).tree.current, artifactFamilyFromValue file.content = some planFamily
          ∧ (arrayField file.content "must_fix").length = 2 := by
      decide +kernel
    obtain ⟨file, hfile, hfamily, hlength⟩ := hfound
    refine ⟨file, hfile, hlength, hrun bareWorld foundRun ⟨rfl, rfl⟩ ?_ file (Or.inr hfile)
      hfamily⟩
    exact ⟨trivial, trivial, trivial, trivial, fun _ hnone => absurd hnone (by decide +kernel),
      fun _ hnone => absurd hnone (by decide +kernel), trivial⟩
/-- What the plan of that step comes to where no artifact was ever written. -/
def inventedPlan : Except String StepOutcome × ArtifactTree :=
  (bareInput.buildRemediationPlan exampleInvariants bareLookup barePlan).ends { root := "/a" }

/-- A push of the same step, at a barrier that is blocked. -/
def blockedPush (names : CommitNames) : Except String StepOutcome × RemediationWorld :=
  (PushInput.pushRemediationChanges exampleInvariants bareLookup
    { order := inOrder, barrier := .blocked, pushedAt := 0, writtenAt := 0 }
    { bareInput with
      names := names
      workingDirectory := .ok "/w"
      workflowPaths := .ok fun _ => false }).ends
    { tree := { root := "/a" }, repository := ⟨0, 0, []⟩ }

/-- Where no artifact was ever written the plan finds two things to fix, in artifacts of all four
families that it has written itself; and a push at a blocked barrier waits. -/
theorem harness_invents_evidence :
    bareInput.findPr exampleInvariants bareLookup { root := "/a" } = .ok none
      ∧ (inventedPlan.1.toOption, inventedPlan.2.current.map fun file =>
          (artifactFamilyFromValue file.content, (arrayField file.content "must_fix").length))
        = (some .fixable, [(some "pr", 0), (some "ci-failures", 0),
          (some "coderabbit-feedback", 0), (some "feedback-evaluations", 0),
          (some "pr-remediation-plan", 2)])
      ∧ ∀ names, (blockedPush names).1 = .ok .wait := by
  refine ⟨?_, ?_, ?_⟩
  · decide +kernel
  · decide +kernel
  · intro names
    rfl

end Luther
