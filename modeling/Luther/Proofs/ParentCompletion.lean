/-
A parent is complete only when its children are, and an old record can keep it from that.

What the evaluation asks for is stated once, as a condition on the states, the leases, the
checklist and the rollup.  That the parent is closed too early is excluded by it.  That it is
closed at all is not: a record of an outcome without a pull request counts against the parent
whatever GitHub says of the child now, and a child with such a record is selected no more, so no
later pass replaces the record.
-/
import Luther.Orchestration.Completion
import Luther.Proofs.Leases

namespace Luther

open Sql

/-! ### The evaluation -/

def childIsSettled (rollup : ParentOrchestrationRollup) (child : ChildIssueState) : Bool :=
  child.terminalState == .merged || childHasExplicitNonActionableReason child rollup

/-- Every item of the checklist is checked. -/
def ChecklistDone (body : Option String) : Prop :=
  ∀ text, body = some text →
    ∀ line ∈ splitLines text, checklistMarker (trimStart line) ["[ ]"] = false

section Evaluation

variable {states : List ChildIssueState} {rollup : ParentOrchestrationRollup}
  {body : Option String}

theorem incompleteChildNumbers_eq_nil :
    incompleteChildNumbers states rollup = [] ↔
      ∀ child ∈ states, childIsSettled rollup child = true := by
  unfold incompleteChildNumbers childCompletionSatisfied childIsComplete childIsSettled
  simp only [List.map_eq_nil_iff, List.filter_eq_nil_iff, Bool.not_eq_true, Bool.not_eq_false']

theorem childIsBlocked_of_settled {child : ChildIssueState}
    (h : childIsSettled rollup child) : childIsBlocked child = false := by
  unfold childIsSettled childHasExplicitNonActionableReason at h
  unfold childIsBlocked
  rcases Bool.or_eq_true_iff.mp h with hmerged | hclosed
  · rw [beq_iff_eq.mp hmerged]
  · rw [beq_iff_eq.mp (Bool.and_eq_true_iff.mp hclosed).1]

theorem requiredPrsSatisfied_iff :
    requiredPrsSatisfied states rollup = true ↔
      (∀ child ∈ states, childIsSettled rollup child = true) ∧
        ∀ entry ∈ rollup.children, unresolvedRollupOutcomeRequiresPr entry = false := by
  unfold requiredPrsSatisfied
  rw [Bool.and_eq_true, List.all_eq_true, Bool.not_eq_true', List.any_eq_false]
  refine and_congr (forall₂_congr fun child _ => ?_) (by simp only [Bool.not_eq_true])
  unfold childIsSettled childHasExplicitNonActionableReason
  cases child.terminalState <;> simp

theorem childAcceptance_getRight? (child : ChildIssueState) :
    (childAcceptance rollup child).getRight? = none ↔ childIsSettled rollup child = true := by
  unfold childAcceptance childIsSettled
  cases hstate : child.terminalState with
  | closed => cases childHasExplicitNonActionableReason child rollup <;> simp
  | merged => simp
  | _ =>
    have hno : childHasExplicitNonActionableReason child rollup = false := by
      unfold childHasExplicitNonActionableReason
      rw [hstate]
      rfl
    simp [hno]

theorem checklistDone_iff :
    ChecklistDone body ↔
      ¬ ((body.map countAcceptanceCriteria).getD 0 ≠ 0 ∧
        0 < (body.map countUncheckedAcceptanceCriteria).getD 0) := by
  cases body with
  | none => simp [ChecklistDone]
  | some text =>
    have hle : countUncheckedAcceptanceCriteria text ≤ countAcceptanceCriteria text := by
      refine List.countP_mono_left fun line _ hline => ?_
      unfold checklistMarker at hline ⊢
      simp only [List.any_eq_true, Option.any_eq_true] at hline ⊢
      obtain ⟨bullet, hbullet, rest, hrest, marker, hmarker, hstarts⟩ := hline
      rw [List.mem_singleton.mp hmarker] at hstarts
      exact ⟨bullet, hbullet, rest, hrest, "[ ]", by simp, hstarts⟩
    have hzero : ChecklistDone (some text) ↔ countUncheckedAcceptanceCriteria text = 0 := by
      unfold ChecklistDone countUncheckedAcceptanceCriteria
      simp [List.countP_eq_zero]
    rw [hzero]
    simp only [Option.map_some, Option.getD_some]
    omega

theorem evaluateAcceptanceCriteria_satisfied :
    (evaluateAcceptanceCriteria body states rollup).satisfied = true ↔
      ChecklistDone body ∧ (∀ child ∈ states, childIsSettled rollup child = true) ∧
        ∀ entry ∈ rollup.children, unresolvedRollupOutcomeRequiresPr entry = false := by
  have hsettled : (states.map (childAcceptance rollup)).filterMap Sum.getRight? = [] ↔
      ∀ child ∈ states, childIsSettled rollup child = true := by
    simp only [List.filterMap_eq_nil_iff, List.mem_map, forall_exists_index, and_imp,
      forall_apply_eq_imp_iff₂, childAcceptance_getRight?]
  have hrecords : (if rollup.children.any unresolvedRollupOutcomeRequiresPr then
        ["one or more child runs lack merged PR evidence"] else []) = [] ↔
      ∀ entry ∈ rollup.children, unresolvedRollupOutcomeRequiresPr entry = false := by
    simp only [ite_eq_right_iff, List.cons_ne_self, imp_false, List.any_eq_true, not_exists,
      not_and, Bool.not_eq_true]
  have hwork : ∀ text : String, (if (body.map countAcceptanceCriteria).getD 0 ≠ 0 ∧
        0 < (body.map countUncheckedAcceptanceCriteria).getD 0 then [text] else []) = [] ↔
      ChecklistDone body := by
    intro text
    rw [checklistDone_iff]
    simp only [ite_eq_right_iff, reduceCtorEq, imp_false]
  unfold evaluateAcceptanceCriteria
  simp only [List.isEmpty_iff, List.append_eq_nil_iff, hsettled, hrecords, hwork, and_assoc]

/-- **What the evaluation asks for.** -/
theorem parentCompletionEvaluation_complete {activeRuns : List ActiveChildRun} :
    (parentCompletionEvaluation body states rollup activeRuns).complete = true ↔
      activeRuns = [] ∧ ChecklistDone body ∧
        (∀ child ∈ states, childIsSettled rollup child = true) ∧
        ∀ entry ∈ rollup.children, unresolvedRollupOutcomeRequiresPr entry = false := by
  unfold parentCompletionEvaluation
  simp only [Bool.and_eq_true, List.isEmpty_iff, incompleteChildNumbers_eq_nil,
    requiredPrsSatisfied_iff, evaluateAcceptanceCriteria_satisfied]
  constructor
  · rintro ⟨⟨⟨⟨hchildren, -, hrecords⟩, hruns⟩, hdone, -⟩, -⟩
    exact ⟨hruns, hdone, hchildren, hrecords⟩
  · rintro ⟨hruns, hdone, hchildren, hrecords⟩
    refine ⟨⟨⟨⟨hchildren, hchildren, hrecords⟩, hruns⟩, hdone, hchildren, hrecords⟩, ?_⟩
    unfold blockedChildNumbers
    rw [List.map_eq_nil_iff, List.filter_eq_nil_iff]
    intro child hchild
    rw [childIsBlocked_of_settled (hchildren child hchild)]
    exact Bool.false_ne_true

end Evaluation

/-! ### The leases -/

section Leases

variable {repo : String} {leases : LeaseTable} {children : List ChildIssueState}

/-- The issue numbers of the children can be bound to a statement. -/
def BindableNumbers (numbers : List UInt64) : Prop := ∀ n ∈ numbers, n.toNat < 2 ^ 63

/-- No lease of a child is active. -/
def Idle (repo : String) (leases : LeaseTable) (numbers : List UInt64) : Prop :=
  ∀ n ∈ numbers, ∀ lease ∈ leases, lease.covers repo n = true →
    activeChildLeaseBlocksParent lease = false

theorem issueNumberToSqlI64_of_lt {n : UInt64} (h : n.toNat < 2 ^ 63) :
    issueNumberToSqlI64 n = .ok n.toNat := by
  unfold issueNumberToSqlI64
  rw [if_pos h]

theorem activeChildLeases_eq_nil {activeRuns : List ActiveChildRun}
    (h : activeChildLeases repo leases children = .ok activeRuns) :
    activeRuns = [] ↔ Idle repo leases (children.map (·.issueNumber)) := by
  unfold activeChildLeases getLeasesForIssues at h
  simp only [bind_assoc] at h
  obtain ⟨bound, -, hruns⟩ := bind_ok.mp h
  obtain rfl := Except.ok.inj hruns
  rw [List.filterMap_eq_nil_iff]
  constructor
  · intro hnone n hn lease hlease hcovers
    obtain ⟨child, hchild, rfl⟩ := List.mem_map.mp hn
    have hfind : leases.find? (IssueLease.covers repo child.issueNumber) = some lease :=
      Table.find?_eq_some_of_key IssueLease.clash_of_covers hlease hcovers
    have hmem : (children.map (·.issueNumber)).contains child.issueNumber = true :=
      List.contains_iff_mem.mpr hn
    have hthis := hnone child hchild
    simp only [hmem, if_true, hfind, Option.map_eq_none_iff, Option.filter_eq_none_iff] at hthis
    simpa using hthis lease rfl
  · intro hidle child hchild
    have hn : child.issueNumber ∈ children.map (·.issueNumber) := List.mem_map_of_mem hchild
    have hmem : (children.map (·.issueNumber)).contains child.issueNumber = true :=
      List.contains_iff_mem.mpr hn
    simp only [hmem, if_true, Option.map_eq_none_iff, Option.filter_eq_none_iff]
    intro lease hfind
    obtain ⟨hlease, hcovers⟩ := Table.find?_some hfind
    simp [hidle _ hn lease hlease hcovers]

theorem activeChildLeases_ok (h : BindableNumbers (children.map (·.issueNumber))) :
    ∃ activeRuns, activeChildLeases repo leases children = .ok activeRuns := by
  have hbound : (children.map (·.issueNumber)).mapM issueNumberToSqlI64 =
      .ok ((children.map (·.issueNumber)).map fun n => (n.toNat : Int)) :=
    mapM_eq_ok_map fun n hn => issueNumberToSqlI64_of_lt (h n hn)
  unfold activeChildLeases getLeasesForIssues
  rw [hbound]
  exact ⟨_, rfl⟩

end Leases

/-! ### Success -/

section Success

variable {state : OrchestrationState} {view : OrchestrationView}
  {artifacts : OrchestrationArtifacts} {states : List ChildIssueState}
  {parent : OrchestratedIssue}

/-- **When the evaluation reports success.** -/
theorem evaluateParentCompletion_success
    (hparent : view.query.getIssue state.parentIssueNumber = .ok (some parent))
    (hstates : artifacts.snapshot = some states) :
    (evaluateParentCompletion state view artifacts).1 = .ok .success ↔
      (∃ activeRuns, activeChildLeases state.repo view.leases states = .ok activeRuns) ∧
        Idle state.repo view.leases (states.map (·.issueNumber)) ∧ ChecklistDone parent.body ∧
        (∀ child ∈ states, childIsSettled (readRollup artifacts) child = true) ∧
        ∀ entry ∈ (readRollup artifacts).children,
          unresolvedRollupOutcomeRequiresPr entry = false := by
  unfold evaluateParentCompletion
  simp only [hparent, hstates, readArtifact]
  cases hruns : activeChildLeases state.repo view.leases states with
  | error error => simp
  | ok activeRuns =>
    have hcomplete : (parentCompletionEvaluation parent.body states (readRollup artifacts)
        activeRuns).complete = true ↔ _ := parentCompletionEvaluation_complete
    rw [activeChildLeases_eq_nil hruns] at hcomplete
    have houtcome : (if (parentCompletionEvaluation parent.body states (readRollup artifacts)
        activeRuns).complete then StepOutcome.success else .fixable) = .success ↔
        (parentCompletionEvaluation parent.body states (readRollup artifacts)
          activeRuns).complete = true := by
      split <;> simp [*]
    show Except.ok (if (parentCompletionEvaluation parent.body states (readRollup artifacts)
      activeRuns).complete then StepOutcome.success else .fixable) = .ok .success ↔ _
    rw [Except.ok.injEq, houtcome, hcomplete]
    exact (and_iff_right ⟨activeRuns, rfl⟩).symm

/-- What a success guarantees. -/
structure CompletionSound (repo : String) (leases : LeaseTable) (body : Option String)
    (rollup : ParentOrchestrationRollup) (states : List ChildIssueState) : Prop where
  settled : ∀ child ∈ states, child.terminalState = .merged ∨
    child.terminalState = .closed ∧ ∃ entry ∈ rollup.children,
      entry.childIssueNumber = child.issueNumber ∧ entry.isExplicitlyNonActionable = true
  unblocked : ∀ child ∈ states, childIsBlocked child = false
  idle : Idle repo leases (states.map (·.issueNumber))
  checklist : ChecklistDone body

theorem evaluateParentCompletion_sound
    (h : (evaluateParentCompletion state view artifacts).1 = .ok .success) :
    ∃ parent states, view.query.getIssue state.parentIssueNumber = .ok (some parent) ∧
      artifacts.snapshot = some states ∧
      CompletionSound state.repo view.leases parent.body (readRollup artifacts) states := by
  cases hparent : view.query.getIssue state.parentIssueNumber with
  | error error =>
    unfold evaluateParentCompletion at h
    simp [hparent] at h
  | ok issue =>
    cases issue with
    | none =>
      unfold evaluateParentCompletion at h
      simp [hparent] at h
    | some parent =>
      cases hstates : artifacts.snapshot with
      | none =>
        unfold evaluateParentCompletion at h
        simp [hparent, hstates, readArtifact] at h
      | some states =>
        obtain ⟨-, hidle, hdone, hchildren, -⟩ :=
          (evaluateParentCompletion_success hparent hstates).mp h
        refine ⟨parent, states, rfl, rfl, ?_, ?_, hidle, hdone⟩
        · intro child hchild
          have hsettled := hchildren child hchild
          unfold childIsSettled childHasExplicitNonActionableReason at hsettled
          rcases Bool.or_eq_true_iff.mp hsettled with hmerged | hclosed
          · exact Or.inl (beq_iff_eq.mp hmerged)
          · obtain ⟨hstate, hreason⟩ := Bool.and_eq_true_iff.mp hclosed
            obtain ⟨entry, hget, hentry⟩ := (Option.any_eq_true _ _).mp hreason
            unfold ParentOrchestrationRollup.get at hget
            have hnumber := List.find?_some hget
            exact Or.inr ⟨beq_iff_eq.mp hstate, entry, List.mem_of_find?_eq_some hget,
              beq_iff_eq.mp hnumber, hentry⟩
        · exact fun child hchild => childIsBlocked_of_settled (hchildren child hchild)

theorem evaluateParentCompletion_rollup (state : OrchestrationState) (view : OrchestrationView)
    (artifacts : OrchestrationArtifacts) :
    (evaluateParentCompletion state view artifacts).2.rollup = artifacts.rollup := by
  unfold evaluateParentCompletion
  split
  · rfl
  · rfl
  · dsimp only
    split
    · rfl
    · split <;> rfl

end Success

/-! ### A pass -/

/-- GitHub shows every child closed with its pull request merged, and no lease is active. -/
structure AllMerged (state : OrchestrationState) (children : List GithubSubIssue)
    (view : OrchestrationView) : Prop where
  closed : ∀ child ∈ children, eqIgnoreAsciiCase child.issue.state "closed" = true
  merged : ∀ child ∈ children, ∃ pr,
    view.query.prStateForIssue child.issue.number = .ok (some pr) ∧ pr.merged = true
  idle : Idle state.repo view.leases (children.map (·.issue.number))
  bindable : BindableNumbers (children.map (·.issue.number))

section Pass

variable {state : OrchestrationState} {view : OrchestrationView}
  {children : List GithubSubIssue}

def mergedChild (view : OrchestrationView) (child : GithubSubIssue) : ChildIssueState where
  issueNumber := child.issue.number
  terminalState := .merged
  prNumber := (view.query.prStateForIssue child.issue.number).toOption.join.map (·.number)

section

variable (rollup : ParentOrchestrationRollup)

/-- The state that a merged child is given: merged, or blocked by an old record. -/
def mergedChildState (view : OrchestrationView) (child : GithubSubIssue) : ChildIssueState :=
  applyChildRollupState rollup (mergedChild view child)

theorem eqIgnoreAsciiCase_open_of_closed {text : String}
    (h : eqIgnoreAsciiCase text "closed") : eqIgnoreAsciiCase text "open" = false := by
  unfold eqIgnoreAsciiCase at *
  rw [beq_iff_eq.mp h]
  decide +kernel

/-- **How a merged child is classified.** -/
theorem classifyChildWithRunState_merged (h : AllMerged state children view)
    (rollup : ParentOrchestrationRollup) {child : GithubSubIssue} (hchild : child ∈ children) :
    classifyChildWithRunState state view rollup child.issue =
      .ok (mergedChildState rollup view child) := by
  obtain ⟨pr, hpr, hmerged⟩ := h.merged child hchild
  have hn : child.issue.number ∈ children.map (·.issue.number) := List.mem_map_of_mem hchild
  have hclosed := h.closed child hchild
  have hstate : classifyChild child.issue (some pr) =
      ⟨child.issue.number, .merged, some pr.number⟩ := by
    unfold classifyChild
    simp [hmerged, hclosed]
  unfold classifyChildWithRunState mergedChildState mergedChild
  simp only [hpr, bind, Except.bind, hstate, Except.toOption, Option.join_some, Option.map_some]
  unfold applyChildRunState getLeaseForIssue
  simp only [issueNumberToSqlI64_of_lt (h.bindable _ hn), bind, Except.bind]
  cases hfind : view.leases.find? (IssueLease.covers state.repo child.issue.number) with
  | none => rfl
  | some lease =>
    obtain ⟨hlease, hcovers⟩ := Table.find?_some hfind
    have hactive := h.idle _ hn lease hlease hcovers
    have hopen := eqIgnoreAsciiCase_open_of_closed hclosed
    have hkept : applyChildLeaseState view.now state.mergePollIntervalSeconds view.runs
        child.issue lease ⟨child.issue.number, .merged, some pr.number⟩ =
        ⟨child.issue.number, .merged, some pr.number⟩ := by
      unfold applyChildLeaseState
      unfold activeChildLeaseBlocksParent at hactive
      cases hstatus : lease.status <;> simp_all
    simp only [hkept]

theorem applyChildRollupState_issueNumber (child : ChildIssueState) :
    (applyChildRollupState rollup child).issueNumber = child.issueNumber := by
  unfold applyChildRollupState
  split <;> rfl

theorem applyChildRollupState_terminalState (child : ChildIssueState) :
    (applyChildRollupState rollup child).terminalState = .blocked ∨
      applyChildRollupState rollup child = child := by
  unfold applyChildRollupState
  split
  · exact Or.inl rfl
  · exact Or.inr rfl

theorem applyChildRollupState_of_resolved {rollup : ParentOrchestrationRollup}
    (h : ∀ entry ∈ rollup.children, unresolvedRollupOutcomeRequiresPr entry = false)
    (child : ChildIssueState) : applyChildRollupState rollup child = child := by
  unfold applyChildRollupState
  rw [if_neg]
  rw [List.any_eq_true]
  rintro ⟨entry, hentry, hboth⟩
  have hno := h entry hentry
  rw [(Bool.and_eq_true_iff.mp hboth).2] at hno
  cases hno

theorem mergedChildState_blocksSelection (child : GithubSubIssue) :
    childStateBlocksSelection (mergedChildState rollup view child).terminalState = true := by
  unfold mergedChildState
  rcases applyChildRollupState_terminalState rollup (mergedChild view child) with
    hblocked | hkept
  · rw [hblocked]
    rfl
  · rw [hkept]
    rfl

theorem mergedChildState_settled {rollup : ParentOrchestrationRollup}
    (h : ∀ entry ∈ rollup.children, unresolvedRollupOutcomeRequiresPr entry = false)
    (child : GithubSubIssue) :
    childIsSettled rollup (mergedChildState rollup view child) = true := by
  unfold mergedChildState
  rw [applyChildRollupState_of_resolved h]
  rfl

theorem mergedChildState_numbers :
    (children.map (mergedChildState rollup view)).map (·.issueNumber) =
      children.map (·.issue.number) := by
  rw [List.map_map]
  exact List.map_congr_left fun child _ => applyChildRollupState_issueNumber rollup _

end

theorem mem_orderSubissues {n : UInt64} :
    n ∈ orderSubissues children ↔ n ∈ children.map (·.issue.number) := by
  unfold orderSubissues
  simp only [List.mem_map, List.mem_insertionSort]

theorem selectNextChild_merged {artifacts : OrchestrationArtifacts}
    {rollup : ParentOrchestrationRollup}
    (hstates : artifacts.snapshot = some (children.map (mergedChildState rollup view)))
    (horder : artifacts.orderPlan = some (orderSubissues children)) :
    selectNextChild artifacts =
      (.ok .fixable, { artifacts with selectedChild := some ⟨none, []⟩ }) := by
  have hmissing : missingOrderedChildStates (children.map (mergedChildState rollup view))
      (orderSubissues children) = [] := by
    unfold missingOrderedChildStates
    rw [List.filter_eq_nil_iff, mergedChildState_numbers]
    intro n hn
    rw [List.contains_iff_mem.mpr (mem_orderSubissues.mp hn)]
    exact Bool.false_ne_true
  have hnone : nextActionableChild (children.map (mergedChildState rollup view))
      (orderSubissues children) = none := by
    unfold nextActionableChild
    rw [List.find?_eq_none]
    intro n _ hany
    obtain ⟨childState, hfind, hactionable⟩ := (Option.any_eq_true _ _).mp hany
    have hmem := List.mem_reverse.mp (List.mem_of_find?_eq_some hfind)
    obtain ⟨child, -, rfl⟩ := List.mem_map.mp hmem
    rw [mergedChildState_blocksSelection] at hactionable
    cases hactionable
  unfold selectNextChild
  simp only [hstates, horder, readArtifact, bind, Except.bind, hmissing, hnone, ne_eq,
    not_true_eq_false, if_false, Option.isSome_none, Bool.false_eq_true]

theorem run_classified (h : AllMerged state children view)
    (hlist : view.query.listSubIssues state.parentIssueNumber = .ok children)
    {first : OrchestrationStep}
    (hfirst : first = .discoverSubissues ∨ first = .refreshParentAndChildren)
    (artifacts : OrchestrationArtifacts) :
    ∃ classified, (orchestrationMachine state).run artifacts
        [(first, view), (.classifySubissues, view), (.determineSubissueOrder, view)] = classified ∧
      classified.snapshot =
        some (children.map (mergedChildState (readRollup artifacts) view)) ∧
      classified.orderPlan = some (orderSubissues children) ∧
      classified.rollup = artifacts.rollup := by
  obtain ⟨discovered, hnext, hsubissues, hrollup⟩ : ∃ discovered,
      (orchestrationMachine state).next artifacts (first, view) = discovered ∧
        discovered.subissues = some children ∧ discovered.rollup = artifacts.rollup := by
    refine ⟨_, rfl, ?_⟩
    rcases hfirst with rfl | rfl
    · show (discoverSubissues false state view artifacts).2.subissues = some children ∧
        (discoverSubissues false state view artifacts).2.rollup = artifacts.rollup
      unfold discoverSubissues
      rw [hlist]
      exact ⟨rfl, rfl⟩
    · show (discoverSubissues true state view artifacts).2.subissues = some children ∧
        (discoverSubissues true state view artifacts).2.rollup = artifacts.rollup
      unfold discoverSubissues
      rw [hlist]
      exact ⟨rfl, rfl⟩
  have hread : readRollup discovered = readRollup artifacts := by
    unfold readRollup
    rw [hrollup]
  have hclassify : classifySubissues state view discovered =
      (.ok .success, { discovered with
        snapshot := some (children.map (mergedChildState (readRollup artifacts) view)) }) := by
    unfold classifySubissues
    have hstates : (children.mapM fun child : GithubSubIssue =>
        classifyChildWithRunState state view (readRollup artifacts) child.issue) =
          .ok (children.map (mergedChildState (readRollup artifacts) view)) :=
      mapM_eq_ok_map fun child hchild => classifyChildWithRunState_merged h _ hchild
    simp only [hsubissues, hread, readArtifact, bind, Except.bind, hstates]
  refine ⟨_, rfl, ?_⟩
  rw [StateMachine.run_cons, hnext, StateMachine.run_cons, StateMachine.run_cons,
    StateMachine.run_nil]
  have hsecond : (orchestrationMachine state).next discovered (.classifySubissues, view) =
      (classifySubissues state view discovered).2 := rfl
  rw [hsecond, hclassify]
  generalize hclassified : { discovered with
    snapshot := some (children.map (mergedChildState (readRollup artifacts) view)) } = classified
  have hthird : (orchestrationMachine state).next classified (.determineSubissueOrder, view) =
      (determineSubissueOrder classified).2 := rfl
  rw [hthird]
  unfold determineSubissueOrder
  rw [← hclassified]
  simp only [hsubissues, readArtifact]
  exact ⟨trivial, trivial, hrollup⟩

/-- **A parent is closed only when it is done, and then unless an old record is in the way.**

A success of the evaluation means that every child is merged, or closed with a reason, that none
is blocked or at work, and that the checklist is done.  Conversely, in a pass that finds every
child closed and merged and no lease active, no child is selected, and the parent is complete
exactly where its checklist is done and the rollup has no record of an outcome without a pull
request.  The pass leaves the rollup as it was. -/
theorem parent_completion (state : OrchestrationState) (artifacts : OrchestrationArtifacts) :
    (∀ view, (orchestrationMachine state).answer artifacts (.evaluateParentCompletion, view) =
        .ok .success →
      ∃ parent states, view.query.getIssue state.parentIssueNumber = .ok (some parent) ∧
        artifacts.snapshot = some states ∧
        CompletionSound state.repo view.leases parent.body (readRollup artifacts) states) ∧
      ∀ (children : List GithubSubIssue) (parent : OrchestratedIssue)
        (found later : OrchestrationView) (first : OrchestrationStep),
        first = .discoverSubissues ∨ first = .refreshParentAndChildren →
        found.query.listSubIssues state.parentIssueNumber = .ok children →
        AllMerged state children found → AllMerged state children later →
        later.query.getIssue state.parentIssueNumber = .ok (some parent) →
        ∃ classified selected, (orchestrationMachine state).run artifacts
            [(first, found), (.classifySubissues, found), (.determineSubissueOrder, found)] =
              classified ∧
          (orchestrationMachine state).step classified (.selectNextChild, found) =
            (.ok .fixable, selected) ∧
          ((orchestrationMachine state).answer selected (.evaluateParentCompletion, later) =
              .ok .success ↔
            ChecklistDone parent.body ∧ ∀ entry ∈ (readRollup artifacts).children,
              unresolvedRollupOutcomeRequiresPr entry = false) ∧
          ((orchestrationMachine state).next selected (.evaluateParentCompletion, later)).rollup =
            artifacts.rollup := by
  refine ⟨fun view h => evaluateParentCompletion_sound h, ?_⟩
  intro children parent found later first hfirst hlist hfound hlater hparent
  obtain ⟨classified, hrun, hstates, horder, hrollup⟩ :=
    run_classified hfound hlist hfirst artifacts
  refine ⟨classified, { classified with selectedChild := some ⟨none, []⟩ }, hrun,
    selectNextChild_merged hstates horder, ?_, ?_⟩
  · have hread : readRollup { classified with selectedChild := some ⟨none, []⟩ } =
        readRollup artifacts := by
      unfold readRollup
      rw [← hrollup]
    have hsuccess : (evaluateParentCompletion state later
        { classified with selectedChild := some ⟨none, []⟩ }).1 = .ok .success ↔ _ :=
      evaluateParentCompletion_success hparent hstates
    rw [mergedChildState_numbers, hread] at hsuccess
    refine hsuccess.trans ?_
    constructor
    · rintro ⟨-, -, hdone, -, hrecords⟩
      exact ⟨hdone, hrecords⟩
    · rintro ⟨hdone, hrecords⟩
      refine ⟨activeChildLeases_ok ?_, hlater.idle, hdone, ?_, hrecords⟩
      · rw [mergedChildState_numbers]
        exact hlater.bindable
      · intro child hchild
        obtain ⟨issue, -, rfl⟩ := List.mem_map.mp hchild
        exact mergedChildState_settled hrecords issue
  · exact (evaluateParentCompletion_rollup state later _).trans hrollup

end Pass

/-- The parent of the examples, issue 42 of a repository. -/
def exampleParent : OrchestrationState := { repo := "org/repo", parentIssueNumber := 42 }

/-- GitHub shows one child, issue 7, closed with its pull request merged. -/
def exampleMergedView : OrchestrationView where
  query :=
    { getIssue := fun _ => .ok (some ⟨42, "open", some "- [x] Parent acceptance"⟩)
      listSubIssues := fun _ => .ok [⟨⟨7, "closed", none⟩, none⟩]
      prStateForIssue := fun _ => .ok (some ⟨17, "merged", true, some "abc123", none, none⟩) }
  leases := Table.empty
  runs := Table.empty
  now := 0

theorem exampleMergedView_allMerged :
    AllMerged exampleParent [⟨⟨7, "closed", none⟩, none⟩] exampleMergedView where
  closed := by decide +kernel
  merged := fun _ _ => ⟨_, rfl, rfl⟩
  idle := fun _ _ lease hlease => absurd hlease (Table.not_mem_empty lease)
  bindable := by
    intro n hn
    obtain rfl := List.mem_singleton.mp hn
    decide

/-- A child that was merged by a later attempt completes its parent. -/
theorem parent_completion_example :
    ∃ selected : OrchestrationArtifacts,
      (orchestrationMachine exampleParent).answer selected
        (.evaluateParentCompletion, exampleMergedView) = .ok .success := by
  obtain ⟨-, hreachable⟩ := parent_completion exampleParent
    { rollup := some (updateRollup (fun _ _ => "") 42 7 none "waiting_external" none {}) }
  obtain ⟨_, selected, -, -, hiff, -⟩ := hreachable _ ⟨42, "open", some "- [x] Parent acceptance"⟩
    exampleMergedView exampleMergedView .discoverSubissues (Or.inl rfl) rfl
    exampleMergedView_allMerged exampleMergedView_allMerged rfl
  refine ⟨selected, hiff.mpr ⟨?_, by decide +kernel⟩⟩
  intro text htext
  obtain rfl := Option.some.inj htext
  decide +kernel

/-- **A record of a pull request that was closed keeps the parent open for good.**  The child is
merged by now; it is blocked all the same, no child is selected, and the record stays. -/
theorem parent_completion_blocked :
    ∃ record : ParentOrchestrationRollup,
      record = updateRollup (fun _ _ => "") 42 7 none "closed_unmerged_pr"
        (some ⟨16, "closed", false, none, none, none⟩) {} ∧
      AllMerged exampleParent [⟨⟨7, "closed", none⟩, none⟩] exampleMergedView ∧
      ∃ selected : OrchestrationArtifacts,
        selected = (orchestrationMachine exampleParent).run { rollup := some record }
          [(.discoverSubissues, exampleMergedView), (.classifySubissues, exampleMergedView),
            (.determineSubissueOrder, exampleMergedView), (.selectNextChild, exampleMergedView)] ∧
        selected.snapshot = some [⟨7, .blocked, some 17⟩] ∧
        selected.selectedChild = some ⟨none, []⟩ ∧
        (orchestrationMachine exampleParent).answer selected
          (.evaluateParentCompletion, exampleMergedView) = .ok .fixable ∧
        ((orchestrationMachine exampleParent).next selected
          (.evaluateParentCompletion, exampleMergedView)).rollup = some record := by
  refine ⟨_, rfl, exampleMergedView_allMerged, _, rfl, ?_, ?_, ?_, ?_⟩
  · decide +kernel
  · decide +kernel
  · decide +kernel
  · decide +kernel

end Luther
