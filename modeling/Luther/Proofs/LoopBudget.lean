/-
The budgets of the edges.

A loop that begins with empty counts has counted, under every key, the limited ways over
the edges that are written with that key.  The ways over one edge are among them, so no
edge gets more than its largest limit.  They are all of them only while no other edge is
written like it: the key puts a colon between two step names, and a step name may have
one itself.
-/
import Luther.Proofs.LoopPass

namespace Luther

open Sql

def Traversal.isLimited (wf : WorkflowType) (u : Traversal) : Bool :=
  isLimitedTransition wf u.from u.to (findTransition wf u.from u.outcome)

/-- The edge is the one from `a` to `b`. -/
def Traversal.isOn (a b : String) (u : Traversal) : Bool := u.from == a && u.to == b

/-- How often the run has gone from one step to another. -/
def traversals (s : LoopState) (a b : String) : Nat :=
  s.traversals.countP (Traversal.isOn a b)

/-- How often it has done so over a limited edge. -/
def limitedTraversals (wf : WorkflowType) (s : LoopState) (a b : String) : Nat :=
  s.traversals.countP fun u => u.isLimited wf && u.isOn a b

/-- How often a run has gone over limited edges that are written with the key. -/
def keyTraversals (wf : WorkflowType) (s : LoopState) (key : String) : Nat :=
  s.traversals.countP fun u => u.isLimited wf && edgeKey u.from u.to == key

section Budget

variable (cfg : RunnerConfig)

def transitionsBetween (a b : String) : List TransitionDef :=
  cfg.workflowType.transitions.filter fun t => t.from == a && t.to == b

def largestLimit (a b : String) : Nat :=
  ((transitionsBetween cfg a b).map fun t => (edgeLimit cfg (some t)).toNat).max?.getD 0

/-- Every way over the edge is limited: it leads back, or each of its transitions has a limit. -/
def LimitedEdge (a b : String) : Prop :=
  isLoopBack cfg.workflowType a b = true
    ∨ ∀ t ∈ transitionsBetween cfg a b, t.maxIterations.isSome

/-- The limited transition that an outcome of the current step chooses. -/
def ChoosesLimited (s : LoopState) (t : TransitionDef) : Prop :=
  (∃ outcome, findTransition cfg.workflowType s.runner.currentState outcome = some t)
    ∧ isLimitedTransition cfg.workflowType s.runner.currentState t.to (some t) = true

/-- The budgets of the edges, as they should be. -/
structure BudgetHolds (s : LoopState) : Prop where
  /-- No edge is gone over, as a limited one, more often than its largest limit. -/
  bounded : ∀ a b, limitedTraversals cfg.workflowType s a b ≤ largestLimit cfg a b
  /-- An edge that is always limited is not gone over more often than that at all. -/
  limitedEdge : ∀ a b, LimitedEdge cfg a b → traversals s a b ≤ largestLimit cfg a b
  /-- A run that is given up at an edge has gone over that edge as often as its limit. -/
  abandoned : ∀ next limit outcome, s.ended = some (.exceeded next limit outcome) →
    limit.toNat ≤ limitedTraversals cfg.workflowType s s.runner.currentState next
  /-- What is held against an edge is how often the run has gone over that edge. -/
  independent : ∀ t, ChoosesLimited cfg s t →
    (edgeCount s.runner.edgeLoopCounts (edgeKey s.runner.currentState t.to)).toNat
      = limitedTraversals cfg.workflowType s s.runner.currentState t.to

/-- No limited edge that the current step can choose is written like another one that the run
has gone over. -/
def OwnKeys (s : LoopState) : Prop :=
  ∀ t, ChoosesLimited cfg s t → ∀ u ∈ s.traversals, u.isLimited cfg.workflowType = true →
    edgeKey u.from u.to = edgeKey s.runner.currentState t.to →
    u.from = s.runner.currentState ∧ u.to = t.to

/-- What is known of a loop that began with empty counts. -/
structure BudgetInv (s : LoopState) : Prop where
  taken : ∀ u ∈ s.traversals, ∃ t,
    findTransition cfg.workflowType u.from u.outcome = some t ∧ t.to = u.to
  counted : ∀ key, (edgeCount s.runner.edgeLoopCounts key).toNat
    = keyTraversals cfg.workflowType s key
  bounded : ∀ a b, limitedTraversals cfg.workflowType s a b ≤ largestLimit cfg a b
  refused : ∀ next limit outcome, s.ended = some (.exceeded next limit outcome) →
    ∃ t, ChoosesLimited cfg s t ∧ t.to = next
      ∧ limit ≤ edgeCount s.runner.edgeLoopCounts (edgeKey s.runner.currentState next)

variable {cfg}

/-! ### Counting -/

variable {a b : String} {t : TransitionDef} {s : LoopState} {executed : List String} {r : Runner}

theorem Traversal.isOn_iff {u : Traversal} :
    u.isOn a b = true ↔ u.from = a ∧ u.to = b := by
  simp [Traversal.isOn]

/-- Two counts of which one counts some of what the other counts are the same if and only if it
counts all of that. -/
theorem countP_eq_iff {Entry : Type} {p q : Entry → Bool} (hqp : ∀ x, q x = true → p x = true)
    (l : List Entry) : l.countP p = l.countP q ↔ ∀ x ∈ l, p x = true → q x = true := by
  constructor
  · intro heq
    induction l with
    | nil => simp
    | cons x rest ih =>
      have hle : rest.countP q ≤ rest.countP p := List.countP_mono_left fun y _ => hqp y
      rw [List.countP_cons, List.countP_cons] at heq
      have hx : p x = true → q x = true := by
        intro hp
        by_contra hq
        rw [if_pos hp, if_neg hq] at heq
        omega
      have hrest : rest.countP p = rest.countP q := by
        by_cases hq : q x = true
        · rw [if_pos hq, if_pos (hqp x hq)] at heq
          omega
        · rw [if_neg hq, if_neg (fun hp => hq (hx hp))] at heq
          omega
      exact List.forall_mem_cons.mpr ⟨hx, ih hrest⟩
  · intro hall
    exact List.countP_congr fun x hx => ⟨hall x hx, hqp x⟩

theorem limited_of_isOn {wf : WorkflowType} {u : Traversal}
    (h : (u.isLimited wf && u.isOn a b) = true) :
    (u.isLimited wf && edgeKey u.from u.to == edgeKey a b) = true := by
  obtain ⟨hlimited, hon⟩ := (Bool.and_eq_true _ _).mp h
  obtain ⟨rfl, rfl⟩ := Traversal.isOn_iff.mp hon
  simp [hlimited]

theorem limitedTraversals_le (wf : WorkflowType) (s : LoopState) (a b : String) :
    limitedTraversals wf s a b ≤ keyTraversals wf s (edgeKey a b) :=
  List.countP_mono_left fun _ _ => limited_of_isOn

theorem keyTraversals_eq_iff (wf : WorkflowType) (s : LoopState) (a b : String) :
    keyTraversals wf s (edgeKey a b) = limitedTraversals wf s a b
      ↔ ∀ u ∈ s.traversals, u.isLimited wf = true → edgeKey u.from u.to = edgeKey a b →
        u.from = a ∧ u.to = b := by
  unfold keyTraversals limitedTraversals
  rw [countP_eq_iff fun _ => limited_of_isOn]
  refine forall₂_congr fun u _ => ?_
  simp only [Bool.and_eq_true, beq_iff_eq, Traversal.isOn_iff]
  exact ⟨fun h hlimited hkey => (h ⟨hlimited, hkey⟩).2,
    fun h hcounted => ⟨hcounted.1, h hcounted.1 hcounted.2⟩⟩

theorem edgeLimit_le_largestLimit (h : t ∈ cfg.workflowType.transitions) :
    (edgeLimit cfg (some t)).toNat ≤ largestLimit cfg t.from t.to := by
  refine List.le_max?_getD_of_mem (List.mem_map_of_mem (List.mem_filter.mpr ⟨h, ?_⟩))
  simp

theorem BudgetInv.traversals_eq (h : BudgetInv cfg s) (hedge : LimitedEdge cfg a b) :
    traversals s a b = limitedTraversals cfg.workflowType s a b := by
  refine List.countP_congr fun u hu => ?_
  have hlimited : u.isOn a b = true → u.isLimited cfg.workflowType = true := by
    intro hon
    obtain ⟨rfl, rfl⟩ := Traversal.isOn_iff.mp hon
    obtain ⟨t, hfound, hto⟩ := h.taken u hu
    unfold Traversal.isLimited isLimitedTransition
    rw [hfound, Bool.or_eq_true]
    rcases hedge with hback | hall
    · exact Or.inl hback
    · obtain ⟨hmem, hfrom⟩ := findTransition_some hfound
      exact Or.inr (hall t (List.mem_filter.mpr ⟨hmem, by simp [hfrom, hto]⟩))
  rw [Bool.and_eq_true]
  exact ⟨fun hon => ⟨hlimited hon, hon⟩, And.right⟩

/-! ### What a pass keeps -/

/-- A way that is taken is counted where it is limited. -/
theorem BudgetInv.take (h : BudgetInv cfg s) {outcome : StepOutcome} {limited : Bool}
    (hfound : findTransition cfg.workflowType s.runner.currentState outcome = some t)
    (hcurrent : r.currentState = t.to)
    (hlimited : isLimitedTransition cfg.workflowType s.runner.currentState t.to (some t) = limited)
    (hcount : limited = true → edgeCount s.runner.edgeLoopCounts
      (edgeKey s.runner.currentState t.to) < edgeLimit cfg (some t))
    (hcounts : ∀ key, (edgeCount r.edgeLoopCounts key).toNat
      = (edgeCount s.runner.edgeLoopCounts key).toNat
        + if limited && edgeKey s.runner.currentState t.to == key then 1 else 0) :
    BudgetInv cfg
      { runner := r
        executed := executed
        traversals := s.traversals ++ [⟨s.runner.currentState, outcome, r.currentState⟩]
        ended := none } := by
  have hway : Traversal.isLimited cfg.workflowType
      ⟨s.runner.currentState, outcome, r.currentState⟩ = limited := by
    rw [Traversal.isLimited, hfound, hcurrent]
    exact hlimited
  refine ⟨fun u hu => ?_, fun key => ?_, fun a b => ?_, fun next limit o hended => ?_⟩
  · rcases List.mem_append.mp hu with hold | hnew
    · exact h.taken u hold
    · obtain rfl := List.mem_singleton.mp hnew
      exact ⟨t, hfound, hcurrent.symm⟩
  · have hkey := h.counted key
    unfold keyTraversals at hkey ⊢
    rw [hcounts, List.countP_append, List.countP_singleton, hway, hcurrent, hkey]
  · have hold := h.bounded a b
    unfold limitedTraversals at hold ⊢
    rw [List.countP_append, List.countP_singleton, hway, hcurrent]
    by_cases hon : (limited && Traversal.isOn a b ⟨s.runner.currentState, outcome, t.to⟩) = true
    · rw [if_pos hon]
      rw [Bool.and_eq_true, Traversal.isOn_iff] at hon
      obtain ⟨hyes, hfrom, hto⟩ := hon
      dsimp only at hfrom hto
      subst hfrom hto
      obtain ⟨hmem, hfrom⟩ := findTransition_some hfound
      -- The count is below the limit of the transition, and covers the ways over the edge.
      have hown := limitedTraversals_le cfg.workflowType s s.runner.currentState t.to
      have hlargest := edgeLimit_le_largestLimit hmem
      have hlt := UInt32.lt_iff_toNat_lt.mp (hcount hyes)
      rw [← h.counted] at hown
      rw [hfrom] at hlargest
      unfold limitedTraversals at hown
      omega
    · rw [if_neg hon]
      exact hold
  · simp at hended

theorem BudgetInv.last (h : BudgetInv cfg s) {last : PassResult}
    (heffect : PassEffect cfg s.runner last r) (hlast : last.result?.isSome) :
    BudgetInv cfg
      { runner := r, executed := executed, traversals := s.traversals, ended := some last } := by
  cases heffect with
  | returned hsame =>
    refine ⟨h.taken, ?_, h.bounded, fun _ _ _ hended => absurd hended (by simp)⟩
    intro key
    rw [hsame.edgeLoopCounts]
    exact h.counted key
  | @exceeded outcome t _ _ hfound hlimited hcount hsame =>
    refine ⟨h.taken, ?_, h.bounded, ?_⟩
    · intro key
      rw [hsame.edgeLoopCounts]
      exact h.counted key
    · intro next limit o hended
      obtain ⟨rfl, rfl, -⟩ := PassResult.exceeded.inj (Option.some.inj hended)
      unfold ChoosesLimited
      dsimp only
      rw [hsame.currentState, hsame.edgeLoopCounts]
      exact ⟨t, ⟨⟨outcome, hfound⟩, hlimited⟩, rfl, hcount⟩
  | counted | free => simp [PassResult.result?] at hlast

theorem loopStep_budgetInv (h : BudgetInv cfg s) (input : LoopInput) :
    BudgetInv cfg (loopStep cfg s input) := by
  by_cases hended : s.ended.isSome
  · rw [loopStep_ended hended]
    exact h
  · have heffect := loopStep_effect cfg (Option.not_isSome_iff_eq_none.mp hended) input
    generalize loopStep cfg s input = s' at heffect
    cases heffect with
    | advanced heffect =>
      cases heffect with
      | @counted _ t _ hfound _ hlimited hcount hcurrent hcounts =>
        refine h.take hfound hcurrent hlimited (fun _ => hcount) fun key => ?_
        rw [hcounts, edgeCount_insert]
        by_cases hown : key = edgeKey s.runner.currentState t.to
        · rw [if_pos hown, hown, toNat_succ_of_lt hcount]
          simp
        · rw [if_neg hown]
          simp [Ne.symm hown]
      | free hfound _ hfree hcurrent hcounts =>
        exact h.take hfound hcurrent hfree (by simp) fun key => by simp [hcounts]
    | ended heffect hlast => exact h.last heffect hlast

theorem budgetInv_start {runner : Runner} (hempty : runner.edgeLoopCounts = []) :
    BudgetInv cfg { runner := runner } := by
  refine ⟨fun u hu => absurd hu List.not_mem_nil, fun key => ?_, fun a b => ?_,
    fun _ _ _ hended => absurd hended (by simp)⟩
  · show (edgeCount runner.edgeLoopCounts key).toNat = 0
    rw [hempty]
    rfl
  · show 0 ≤ largestLimit cfg a b
    omega

/-- **Edges keep their budgets as long as each has its own key.** After any passes of a loop that
began with empty counts: the limits, the reason for which a run is given up and the independence of
the edges are as they should be if and only if no limited edge that the current step can choose is
written like another one that the run has gone over. -/
theorem edge_budgets_hold {runner : Runner} (hempty : runner.edgeLoopCounts = [])
    (inputs : List LoopInput) :
    BudgetHolds cfg ((loopMachine cfg).run { runner := runner } inputs)
      ↔ OwnKeys cfg ((loopMachine cfg).run { runner := runner } inputs) := by
  have hinv : BudgetInv cfg ((loopMachine cfg).run { runner := runner } inputs) :=
    StateMachine.run_keeps (m := loopMachine cfg) (P := BudgetInv cfg)
      (fun s input h => loopStep_budgetInv h input) (budgetInv_start hempty) inputs
  generalize (loopMachine cfg).run { runner := runner } inputs = s at hinv
  have hown : ∀ t : TransitionDef, (edgeCount s.runner.edgeLoopCounts
        (edgeKey s.runner.currentState t.to)).toNat
        = limitedTraversals cfg.workflowType s s.runner.currentState t.to
      ↔ ∀ u ∈ s.traversals, u.isLimited cfg.workflowType = true →
        edgeKey u.from u.to = edgeKey s.runner.currentState t.to →
        u.from = s.runner.currentState ∧ u.to = t.to := by
    intro t
    rw [hinv.counted, keyTraversals_eq_iff]
  constructor
  · intro hholds t hchooses
    exact (hown t).mp (hholds.independent t hchooses)
  · intro hkeys
    refine ⟨hinv.bounded, fun a b hedge => ?_, fun next limit o hended => ?_,
      fun t hchooses => (hown t).mpr (hkeys t hchooses)⟩
    · rw [hinv.traversals_eq hedge]
      exact hinv.bounded a b
    · obtain ⟨t, hchooses, rfl, hlimit⟩ := hinv.refused next limit o hended
      rw [← (hown t).mpr (hkeys t hchooses)]
      exact UInt32.le_iff_toNat_le.mp hlimit

end Budget

/-! ### Two edges with one key -/

/-- A run without a registry, of which every step has an executor. -/
def bareConfig (wf : WorkflowType) : RunnerConfig where
  workflowType := wf
  runId := "run-1"
  maxLoops := 10
  mergeRequired := false
  daemonManaged := false
  persistRegistry := false
  registered _ := true
  workDir := "/work"
  seeds := []
  processPid := 1
  repository := none
  issueNumber := none
  prNumber := none
  headSha := none

def bareRunner (stepId : String) : Runner where
  currentState := stepId
  retryCount := 0
  edgeLoopCounts := []
  context := StepContext.build "/work" "run-1"
  pendingFailureCleanup := none
  terminalOwnershipFailure := false
  db := ⟨Table.empty, Table.empty, Table.empty⟩

/-- A pass whose executor answers with the outcome. -/
def answering (outcome : StepOutcome) : LoopInput where
  interruptedBefore := false
  interruptedAfter := false
  now := 0
  execute _ context := (.ok outcome, context)
  ownershipEvidence := false
  ownershipRejection := none
  mergeCompletion := .notYetMerged

/-- Two steps, of which the second goes back to the first at most twice. -/
def remediation : WorkflowType where
  workflowTypeId := "remediation"
  steps := [⟨"implement", "shell", none, none, none⟩, ⟨"verify", "shell", none, none, none⟩]
  transitions :=
    [⟨"implement", "verify", none, none⟩, ⟨"verify", "implement", some "fixable", some 2⟩]

/-- The back edge has been gone over twice, and the third time the run is given up. -/
theorem edge_budgets_hold_remediation :
    BudgetHolds (bareConfig remediation) ((loopMachine (bareConfig remediation)).run
      { runner := bareRunner "implement" } [answering .success, answering .fixable,
        answering .success, answering .fixable, answering .success, answering .fixable]) := by
  have hown : OwnKeys (bareConfig remediation) ((loopMachine (bareConfig remediation)).run
      { runner := bareRunner "implement" } [answering .success, answering .fixable,
        answering .success, answering .fixable, answering .success, answering .fixable]) := by
    have hcurrent : ((loopMachine (bareConfig remediation)).run
        { runner := bareRunner "implement" } [answering .success, answering .fixable,
          answering .success, answering .fixable, answering .success,
          answering .fixable]).runner.currentState = "verify" := by
      decide +kernel
    have htraversals : ((loopMachine (bareConfig remediation)).run
        { runner := bareRunner "implement" } [answering .success, answering .fixable,
          answering .success, answering .fixable, answering .success,
          answering .fixable]).traversals.all fun u =>
            !u.isLimited remediation || u.isOn "verify" "implement" := by
      decide +kernel
    intro t hchooses u hu hlimited _
    obtain ⟨⟨outcome, hfound⟩, -⟩ := hchooses
    obtain ⟨hmem, hfrom⟩ := findTransition_some hfound
    rw [hcurrent] at hfrom ⊢
    have hto : t.to = "implement" := by
      rcases List.mem_cons.mp hmem with rfl | hmem
      · exact absurd hfrom (by decide)
      · rw [List.mem_singleton.mp hmem]
    have hon := List.all_eq_true.mp htraversals u hu
    rw [show u.isLimited remediation = true from hlimited] at hon
    rw [hto]
    exact Traversal.isOn_iff.mp (by simpa using hon)
  exact (edge_budgets_hold rfl _).mpr hown

/-- Four steps, of which two have a colon in their names. -/
def colons : WorkflowType where
  workflowTypeId := "colons"
  steps := [⟨"a", "shell", none, none, none⟩, ⟨"b:c", "shell", none, none, none⟩,
    ⟨"a:b", "shell", none, none, none⟩, ⟨"c", "shell", none, none, none⟩]
  transitions := [⟨"a", "b:c", none, some 1⟩, ⟨"b:c", "a:b", none, none⟩,
    ⟨"a:b", "c", none, some 1⟩]

/-- **An edge is refused that was never gone over.** The way from `a` to `b:c` uses up the limit of
the edge from `a:b` to `c`. -/
theorem edge_budgets_shared :
    let s := (loopMachine (bareConfig colons)).run { runner := bareRunner "a" }
      (List.replicate 3 (answering .success))
    s.result = some (.ok
        (.abandoned "a:b" "Per-edge loop limit (1) exceeded on edge a:b:c"))
      ∧ traversals s "a:b" "c" = 0 ∧ ¬ BudgetHolds (bareConfig colons) s := by
  refine ⟨by decide +kernel, by decide +kernel, fun h => ?_⟩
  have hchooses : ChoosesLimited (bareConfig colons) ((loopMachine (bareConfig colons)).run
      { runner := bareRunner "a" } (List.replicate 3 (answering .success)))
      ⟨"a:b", "c", none, some 1⟩ :=
    ⟨⟨.success, by decide +kernel⟩, by decide +kernel⟩
  exact absurd (h.independent _ hchooses) (by decide +kernel)

end Luther
