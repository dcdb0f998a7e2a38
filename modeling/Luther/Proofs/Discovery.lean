/-
A pass takes the first issues that nothing is against.

`Passes` is what the pass finds out about an issue, and `Admissible` is that and two things it does
not ask: that the issue still carries the label it was approved with, and that the lease of its
parent can be read.  One turn of the loop is told without the cache, which only remembers what
GitHub answers; the loop is then a filter of the ordered issues.
-/
import Luther.Daemon.Discovery
import Luther.Lib.Selection

namespace Luther.Discovery

open Sql

section Pass

variable (rfc3339 : String → Option Timestamp) (cfg : DiscoveryConfig) (query : GithubIssueQuery)
  (leases : LeaseRows) (activeCount : Nat)

/-! ### The issues that are to be taken -/

/-- The lease of an issue can be read, and does not keep other work off it. -/
def LeaseFree (issueNumber : UInt64) : Prop :=
  ∃ lease, getLeaseForIssue rfc3339 leases cfg.repoName issueNumber = .ok lease ∧
    ∀ row ∈ lease, row.status.blocksDuplicateWork = false

/-- Nothing that the pass looks at is against the issue. -/
structure Passes (issue : GithubIssue) : Prop where
  required : ∀ label ∈ cfg.includeLabels, issueHasLabel issue label = true
  excluded : ∀ label ∈ cfg.excludeLabels, issueHasLabel issue label = false
  allowed : cfg.issueStates = [] ∨
    ∃ state ∈ cfg.issueStates, eqIgnoreAsciiCase state issue.state = true
  approved : cfg.approvalLabel = none ∧ cfg.approvalActor = none ∨
    ∃ label ∈ cfg.approvalLabel, ∃ expected ∈ cfg.approvalActor, ∃ actual,
      query.latestLabelActor cfg.repoName issue.number label = .ok (some actual) ∧
        eqIgnoreAsciiCase actual expected = true
  lease : LeaseFree rfc3339 cfg leases issue.number
  noOpenPr : query.hasOpenPrForIssue cfg.repoName issue.number = .ok false
  parent : cfg.skipChildrenOfActiveParents = true →
    ∀ parent, query.getParentIssue cfg.repoName issue.number = .ok (some parent) →
      parentHasActiveLabel cfg parent.issue = false ∧
        ∀ lease, getLeaseForIssue rfc3339 leases cfg.repoName parent.issue.number =
          .ok (some lease) → lease.status.blocksDuplicateWork = false

/-- Nothing is against the issue: it carries the label that it was approved with, too, and the
lease of its parent can be read. -/
structure Admissible (issue : GithubIssue) : Prop extends
    Passes rfc3339 cfg query leases issue where
  carriesApproval : ∀ label ∈ cfg.approvalLabel, issueHasLabel issue label = true
  parentLease : cfg.skipChildrenOfActiveParents = true →
    ∀ parent, query.getParentIssue cfg.repoName issue.number = .ok (some parent) →
      LeaseFree rfc3339 cfg leases parent.issue.number

/-- The routing of the issue finds out what it needs. -/
def Routes (issue : GithubIssue) : Prop :=
  cfg.routeParentIssues = true →
    ∃ children, query.listSubIssues cfg.repoName issue.number = .ok children

/-- The issue comes first, by its milestone, and then by its number. -/
def Precedes (a b : GithubIssue) : Prop := issueKey cfg a < issueKey cfg b

open scoped Classical in
/-- **What a pass is to find**: every issue once, and of the admissible issues that can be routed
the first up to the limit, whatever the order in which they are listed. -/
structure Selects (listed : List GithubIssue) (result : DiscoveryResult) : Prop where
  once : (result.eligible.map (·.issue) ++ result.skipped.map Prod.fst).Perm listed
  sound : ∀ routed ∈ result.eligible, Admissible rfc3339 cfg query leases routed.issue
  first : ∃ ordered : List GithubIssue, ordered.Perm listed ∧ ordered.Pairwise (Precedes cfg) ∧
    result.eligible.map (·.issue) =
      (ordered.filter fun issue =>
        decide (Admissible rfc3339 cfg query leases issue ∧ Routes cfg query issue)).take
          (cfg.maxRuns - activeCount)
  orderless : ∀ listed', listed'.Perm listed →
    discover rfc3339 cfg { query with listIssues := fun _ _ _ => .ok listed' } leases activeCount =
      .ok result

end Pass

section Turn

variable {rfc3339 : String → Option Timestamp} {cfg : DiscoveryConfig} {query : GithubIssueQuery}
  {leases : LeaseRows} {activeCount : Nat} {issue : GithubIssue} {cache cache' : DiscoveryLookupCache}
  {result result' : DiscoveryResult}

/-! ### The answers that are remembered -/

/-- What is remembered is what GitHub answers. -/
structure Remembers (query : GithubIssueQuery) (cache : DiscoveryLookupCache) : Prop where
  parents : ∀ repo number parent, cache.parents.lookup (repo, number) = some parent →
    (query.getParentIssue repo number).map (Option.map (·.issue)) = .ok parent
  subIssues : ∀ repo number children, cache.subIssues.lookup (repo, number) = some children →
    query.listSubIssues repo number = .ok children

theorem remembers_empty : Remembers query {} :=
  ⟨fun _ _ _ h => by simp at h, fun _ _ _ h => by simp at h⟩

variable {number : UInt64} {repo : String}

theorem parentIssue_ok (hcache : Remembers query cache) {parent : Option GithubIssue}
    (h : parentIssue query repo number cache = .ok (parent, cache')) :
    (query.getParentIssue repo number).map (Option.map (·.issue)) = .ok parent ∧
      Remembers query cache' := by
  unfold parentIssue at h
  cases hknown : cache.parents.lookup (repo, number) with
  | some known =>
    rw [hknown] at h
    obtain ⟨rfl, rfl⟩ := Prod.mk.inj (Except.ok.inj h)
    exact ⟨hcache.parents repo number _ hknown, hcache⟩
  | none =>
    rw [hknown] at h
    cases hasked : query.getParentIssue repo number with
    | error error => simp [hasked, Except.map] at h
    | ok found =>
      rw [hasked] at h
      obtain ⟨rfl, rfl⟩ := Prod.mk.inj (Except.ok.inj h)
      refine ⟨rfl, ⟨fun repo' number' parent hlookup => ?_, hcache.subIssues⟩⟩
      rcases Assoc.lookup_cons_some hlookup with ⟨hkey, rfl⟩ | hknown
      · obtain ⟨rfl, rfl⟩ := Prod.mk.inj hkey
        rw [hasked]
        rfl
      · exact hcache.parents repo' number' parent hknown

theorem subIssues_ok (hcache : Remembers query cache) {children : List GithubSubIssue}
    (h : subIssues query repo number cache = .ok (children, cache')) :
    query.listSubIssues repo number = .ok children ∧ Remembers query cache' := by
  unfold subIssues at h
  cases hknown : cache.subIssues.lookup (repo, number) with
  | some known =>
    rw [hknown] at h
    obtain ⟨rfl, rfl⟩ := Prod.mk.inj (Except.ok.inj h)
    exact ⟨hcache.subIssues repo number _ hknown, hcache⟩
  | none =>
    rw [hknown] at h
    cases hasked : query.listSubIssues repo number with
    | error error => simp [hasked, Except.map] at h
    | ok found =>
      rw [hasked] at h
      obtain ⟨rfl, rfl⟩ := Prod.mk.inj (Except.ok.inj h)
      refine ⟨rfl, ⟨hcache.parents, fun repo' number' children hlookup => ?_⟩⟩
      rcases Assoc.lookup_cons_some hlookup with ⟨hkey, rfl⟩ | hknown
      · obtain ⟨rfl, rfl⟩ := Prod.mk.inj hkey
        exact hasked
      · exact hcache.subIssues repo' number' children hknown

theorem subIssues_error {error : String} (h : subIssues query repo number cache = .error error) :
    query.listSubIssues repo number = .error error := by
  unfold subIssues at h
  cases hknown : cache.subIssues.lookup (repo, number) with
  | some known => simp [hknown] at h
  | none =>
    rw [hknown] at h
    cases hasked : query.listSubIssues repo number with
    | error error' =>
      rw [hasked] at h
      exact congrArg _ (Except.error.inj h)
    | ok found => simp [hasked, Except.map] at h

/-! ### The checks of one issue -/

theorem staticFilter_eq_none :
    staticFilter cfg issue = none ↔
      (∀ label ∈ cfg.includeLabels, issueHasLabel issue label = true) ∧
        (∀ label ∈ cfg.excludeLabels, issueHasLabel issue label = false) ∧
        (cfg.issueStates = [] ∨
          ∃ state ∈ cfg.issueStates, eqIgnoreAsciiCase state issue.state = true) := by
  unfold staticFilter
  cases hrequired : cfg.includeLabels.find? (!issueHasLabel issue ·) with
  | some label =>
    have hmissing : issueHasLabel issue label = false := by
      simpa using List.find?_some hrequired
    refine ⟨fun h => by simp at h, fun h => ?_⟩
    have hcarried := h.1 label (List.mem_of_find?_eq_some hrequired)
    simp [hmissing] at hcarried
  | none =>
    have hrequired' : ∀ label ∈ cfg.includeLabels, issueHasLabel issue label = true := by
      simpa using hrequired
    cases hexcluded : cfg.excludeLabels.find? (issueHasLabel issue ·) with
    | some label =>
      have hcarried : issueHasLabel issue label = true := List.find?_some hexcluded
      refine ⟨fun h => by simp at h, fun h => ?_⟩
      have hmissing := h.2.1 label (List.mem_of_find?_eq_some hexcluded)
      simp [hcarried] at hmissing
    | none =>
      have hexcluded' : ∀ label ∈ cfg.excludeLabels, issueHasLabel issue label = false := by
        simpa using hexcluded
      simp only [iff_true_intro hrequired', iff_true_intro hexcluded', true_and]
      by_cases hstates : cfg.issueStates = []
      · simp [hstates]
      · by_cases hallowed : cfg.issueStates.any (eqIgnoreAsciiCase · issue.state) = true
        · have hstate : ∃ state ∈ cfg.issueStates,
              eqIgnoreAsciiCase state issue.state = true := by simpa using hallowed
          rw [if_neg (by simp [hallowed])]
          exact iff_of_true rfl (Or.inr hstate)
        · have hstate : ¬ ∃ state ∈ cfg.issueStates,
              eqIgnoreAsciiCase state issue.state = true := by simpa using hallowed
          rw [if_pos (by simp [hstates, hallowed])]
          exact iff_of_false (by simp) (not_or_intro hstates hstate)

theorem approvalSkip_ok_none :
    approvalSkip cfg query cfg.repoName issue = .ok none ↔
      (cfg.approvalLabel = none ∧ cfg.approvalActor = none ∨
        ∃ label ∈ cfg.approvalLabel, ∃ expected ∈ cfg.approvalActor, ∃ actual,
          query.latestLabelActor cfg.repoName issue.number label = .ok (some actual) ∧
            eqIgnoreAsciiCase actual expected = true) := by
  unfold approvalSkip
  cases cfg.approvalLabel with
  | none => cases cfg.approvalActor <;> simp
  | some label =>
    cases cfg.approvalActor with
    | none => simp
    | some expected =>
      cases hasked : query.latestLabelActor cfg.repoName issue.number label with
      | error error => simp [Except.map, hasked]
      | ok actual =>
        cases actual with
        | none => simp [Except.map, hasked, evaluateApprovalActor]
        | some actor =>
          by_cases hactor : eqIgnoreAsciiCase actor expected = true
          · simp [Except.map, hasked, evaluateApprovalActor, hactor]
          · simp [Except.map, hasked, evaluateApprovalActor, hactor]

theorem localDynamicSkip_ok_none :
    localDynamicSkip rfc3339 leases issue cfg.repoName = .ok none ↔
      LeaseFree rfc3339 cfg leases issue.number := by
  unfold localDynamicSkip LeaseFree
  cases getLeaseForIssue rfc3339 leases cfg.repoName issue.number with
  | error error => simp [Except.map]
  | ok lease => cases lease <;> simp [Except.map]

theorem isActiveParent_eq_false {parent : GithubIssue} :
    isActiveParent rfc3339 cfg leases cfg.repoName parent = false ↔
      parentHasActiveLabel cfg parent = false ∧
        ∀ lease, getLeaseForIssue rfc3339 leases cfg.repoName parent.number = .ok (some lease) →
          lease.status.blocksDuplicateWork = false := by
  unfold isActiveParent
  rw [Bool.or_eq_false_iff]
  refine and_congr_right fun _ => ?_
  cases getLeaseForIssue rfc3339 leases cfg.repoName parent.number with
  | error error => simp
  | ok lease => cases lease <;> simp

/-- No parent that keeps the issue, and no pull request. -/
def RemotelyFree (rfc3339 : String → Option Timestamp) (cfg : DiscoveryConfig)
    (query : GithubIssueQuery) (leases : LeaseRows) (issue : GithubIssue) : Prop :=
  query.hasOpenPrForIssue cfg.repoName issue.number = .ok false ∧
    (cfg.skipChildrenOfActiveParents = true →
      ∀ parent, query.getParentIssue cfg.repoName issue.number = .ok (some parent) →
        isActiveParent rfc3339 cfg leases cfg.repoName parent.issue = false)

theorem remoteDynamicSkip_ok (hcache : Remembers query cache) {skip : Option SkipReason}
    (h : remoteDynamicSkip rfc3339 cfg query leases cache issue cfg.repoName = .ok (skip, cache')) :
    Remembers query cache' ∧ (skip = none ↔ RemotelyFree rfc3339 cfg query leases issue) := by
  unfold remoteDynamicSkip at h
  dsimp only at h
  generalize hparent : (if cfg.skipChildrenOfActiveParents = true then
    hasActiveParent rfc3339 cfg query cache cfg.repoName issue leases
    else .ok (false, cache)) = activeParent at h
  have hactive : ∀ active between, activeParent = .ok (active, between) →
      Remembers query between ∧ (active = false ↔
        (cfg.skipChildrenOfActiveParents = true →
          ∀ parent, query.getParentIssue cfg.repoName issue.number = .ok (some parent) →
            isActiveParent rfc3339 cfg leases cfg.repoName parent.issue = false)) := by
    intro active between hok
    rw [hok] at hparent
    by_cases hskip : cfg.skipChildrenOfActiveParents = true
    · rw [if_pos hskip] at hparent
      unfold hasActiveParent at hparent
      cases hfound : parentIssue query cfg.repoName issue.number cache with
      | error error => simp [hfound, Except.map] at hparent
      | ok found =>
        obtain ⟨parent, cache''⟩ := found
        rw [hfound] at hparent
        obtain ⟨rfl, rfl⟩ := Prod.mk.inj (Except.ok.inj hparent)
        obtain ⟨hasked, hcache'⟩ := parentIssue_ok hcache hfound
        refine ⟨hcache', ?_⟩
        cases hanswer : query.getParentIssue cfg.repoName issue.number with
        | error error => simp [hanswer, Except.map] at hasked
        | ok answer =>
          rw [hanswer] at hasked
          obtain rfl := Except.ok.inj hasked
          cases answer <;> simp [hskip]
    · rw [if_neg hskip] at hparent
      obtain ⟨rfl, rfl⟩ := Prod.mk.inj (Except.ok.inj hparent)
      exact ⟨hcache, iff_of_true rfl fun htrue => absurd htrue hskip⟩
  match activeParent, h with
  | .ok (true, between), h =>
    obtain ⟨rfl, rfl⟩ := Prod.mk.inj (Except.ok.inj h)
    obtain ⟨hcache', hfree⟩ := hactive true _ rfl
    refine ⟨hcache', iff_of_false (by simp) fun hremote => ?_⟩
    have hfalse := hfree.mpr hremote.2
    simp at hfalse
  | .ok (false, between), h =>
    obtain ⟨hcache', hfree⟩ := hactive false between rfl
    have hparents := hfree.mp rfl
    cases hopen : query.hasOpenPrForIssue cfg.repoName issue.number with
    | error error => simp [hopen, Except.map] at h
    | ok openPr =>
      rw [hopen] at h
      obtain ⟨rfl, rfl⟩ := Prod.mk.inj (Except.ok.inj h)
      refine ⟨hcache', ?_⟩
      unfold RemotelyFree
      rw [hopen]
      cases openPr with
      | true => simp
      | false => simpa using hparents

theorem passes_iff :
    Passes rfc3339 cfg query leases issue ↔
      staticFilter cfg issue = none ∧ approvalSkip cfg query cfg.repoName issue = .ok none ∧
        localDynamicSkip rfc3339 leases issue cfg.repoName = .ok none ∧
        RemotelyFree rfc3339 cfg query leases issue := by
  unfold RemotelyFree
  rw [staticFilter_eq_none, approvalSkip_ok_none, localDynamicSkip_ok_none]
  simp only [isActiveParent_eq_false]
  constructor
  · intro h
    exact ⟨⟨h.required, h.excluded, h.allowed⟩, h.approved, h.lease, h.noOpenPr, h.parent⟩
  · rintro ⟨⟨hrequired, hexcluded, hallowed⟩, happroved, hlease, hopen, hparent⟩
    exact ⟨hrequired, hexcluded, hallowed, happroved, hlease, hopen, hparent⟩

/-! ### One turn of the loop -/

/-- What a turn makes of the result. -/
inductive Turn (rfc3339 : String → Option Timestamp) (cfg : DiscoveryConfig)
    (query : GithubIssueQuery) (leases : LeaseRows) (activeCount : Nat) (issue : GithubIssue)
    (result : DiscoveryResult) : DiscoveryResult → Prop where
  | against (reason : SkipReason) (hnot : ¬ (Passes rfc3339 cfg query leases issue ∧
      Routes cfg query issue)) : Turn rfc3339 cfg query leases activeCount issue result
        (result.skip issue reason)
  | full (hpasses : Passes rfc3339 cfg query leases issue)
      (hfull : cfg.maxRuns ≤ result.eligible.length + activeCount) :
      Turn rfc3339 cfg query leases activeCount issue result
        (result.skip issue .concurrencyLimitReached)
  | taken (routed : RoutedIssue) (hissue : routed.issue = issue)
      (hpasses : Passes rfc3339 cfg query leases issue) (hroutes : Routes cfg query issue)
      (hfree : result.eligible.length + activeCount < cfg.maxRuns) :
      Turn rfc3339 cfg query leases activeCount issue result (result.take routed)

theorem admitIssue_turn (hcache : Remembers query cache)
    (hpasses : Passes rfc3339 cfg query leases issue)
    (h : admitIssue cfg query activeCount issue result cache = (result', cache')) :
    Remembers query cache' ∧ Turn rfc3339 cfg query leases activeCount issue result result' := by
  unfold admitIssue at h
  by_cases hfull : result.eligible.length + activeCount ≥ cfg.maxRuns
  · rw [if_pos hfull] at h
    obtain ⟨rfl, rfl⟩ := Prod.mk.inj h
    exact ⟨hcache, .full hpasses hfull⟩
  · rw [if_neg hfull] at h
    have hfree : result.eligible.length + activeCount < cfg.maxRuns := by omega
    by_cases hroute : cfg.routeParentIssues = true
    · rw [if_pos hroute] at h
      unfold routeIssue at h
      cases hchildren : subIssues query cfg.repoName issue.number cache with
      | error error =>
        rw [hchildren] at h
        obtain ⟨rfl, rfl⟩ := Prod.mk.inj h
        refine ⟨hcache, .against _ fun hboth => ?_⟩
        obtain ⟨children, hlisted⟩ := hboth.2 hroute
        simp [subIssues_error hchildren] at hlisted
      | ok found =>
        obtain ⟨children, cache''⟩ := found
        rw [hchildren] at h
        obtain ⟨rfl, rfl⟩ := Prod.mk.inj h
        obtain ⟨hlisted, hcache'⟩ := subIssues_ok hcache hchildren
        refine ⟨hcache', .taken _ ?_ hpasses (fun _ => ⟨children, hlisted⟩) hfree⟩
        cases children <;> rfl
    · rw [if_neg hroute] at h
      obtain ⟨rfl, rfl⟩ := Prod.mk.inj h
      exact ⟨hcache, .taken _ rfl hpasses (fun htrue => absurd htrue hroute) hfree⟩

/-- **What one turn of the loop does.** -/
theorem discoverIssue_turn (hcache : Remembers query cache)
    (h : discoverIssue rfc3339 cfg query leases activeCount (result, cache) issue =
      .ok (result', cache')) :
    Remembers query cache' ∧ Turn rfc3339 cfg query leases activeCount issue result result' := by
  have hagainst : ∀ reason, ¬ Passes rfc3339 cfg query leases issue →
      Turn rfc3339 cfg query leases activeCount issue result (result.skip issue reason) :=
    fun reason hnot => .against reason fun hboth => hnot hboth.1
  unfold discoverIssue at h
  dsimp only at h
  cases hstatic : staticFilter cfg issue with
  | some reason =>
    rw [hstatic] at h
    obtain ⟨rfl, rfl⟩ := Prod.mk.inj (Except.ok.inj h)
    refine ⟨hcache, hagainst reason fun hpasses => ?_⟩
    simp [(passes_iff.mp hpasses).1] at hstatic
  | none =>
    rw [hstatic] at h
    cases happroval : approvalSkip cfg query cfg.repoName issue with
    | error error => simp [happroval] at h
    | ok skip =>
      rw [happroval] at h
      cases skip with
      | some reason =>
        obtain ⟨rfl, rfl⟩ := Prod.mk.inj (Except.ok.inj h)
        refine ⟨hcache, hagainst reason fun hpasses => ?_⟩
        simp [(passes_iff.mp hpasses).2.1] at happroval
      | none =>
        cases hlocal : localDynamicSkip rfc3339 leases issue cfg.repoName with
        | error error =>
          simp only [hlocal] at h
          obtain ⟨rfl, rfl⟩ := Prod.mk.inj (Except.ok.inj h)
          refine ⟨hcache, hagainst _ fun hpasses => ?_⟩
          simp [(passes_iff.mp hpasses).2.2.1] at hlocal
        | ok skip =>
          cases skip with
          | some reason =>
            simp only [hlocal] at h
            obtain ⟨rfl, rfl⟩ := Prod.mk.inj (Except.ok.inj h)
            refine ⟨hcache, hagainst reason fun hpasses => ?_⟩
            simp [(passes_iff.mp hpasses).2.2.1] at hlocal
          | none =>
            simp only [hlocal] at h
            cases hremote : remoteDynamicSkip rfc3339 cfg query leases cache issue
                cfg.repoName with
            | error error => simp [hremote] at h
            | ok answer =>
              obtain ⟨skip, cache''⟩ := answer
              obtain ⟨hcache', hfree⟩ := remoteDynamicSkip_ok hcache hremote
              simp only [hremote] at h
              cases skip with
              | some reason =>
                obtain ⟨rfl, rfl⟩ := Prod.mk.inj (Except.ok.inj h)
                refine ⟨hcache', hagainst reason fun hpasses => ?_⟩
                have hnone := hfree.mpr (passes_iff.mp hpasses).2.2.2
                simp at hnone
              | none =>
                have hpasses := passes_iff.mpr
                  ⟨hstatic, happroval, hlocal, hfree.mp rfl⟩
                exact admitIssue_turn hcache' hpasses (Except.ok.inj h)

/-! ### The loop -/

def DiscoveryResult.issues (result : DiscoveryResult) : List GithubIssue :=
  result.eligible.map (·.issue) ++ result.skipped.map Prod.fst

theorem issues_skip (reason : SkipReason) :
    (result.skip issue reason).issues.Perm (result.issues ++ [issue]) := by
  simp [DiscoveryResult.issues, DiscoveryResult.skip]

theorem issues_take (routed : RoutedIssue) :
    (result.take routed).issues.Perm (result.issues ++ [routed.issue]) := by
  unfold DiscoveryResult.issues DiscoveryResult.take
  rw [List.map_append, List.append_assoc, List.append_assoc]
  exact List.perm_append_comm.append_left _

theorem Turn.issues (h : Turn rfc3339 cfg query leases activeCount issue result result') :
    result'.issues.Perm (result.issues ++ [issue]) := by
  cases h with
  | against reason hnot => exact issues_skip reason
  | full hpasses hfull => exact issues_skip _
  | taken routed hissue hpasses hroutes hfree => exact hissue ▸ issues_take routed

open scoped Classical in
/-- **The loop is a filter of the issues, up to the limit.** -/
theorem discoverLoop {issues : List GithubIssue} (hcache : Remembers query cache)
    (h : issues.foldlM (discoverIssue rfc3339 cfg query leases activeCount) (result, cache) =
      .ok (result', cache')) :
    result'.issues.Perm (result.issues ++ issues) ∧
      result'.eligible.map (·.issue) = result.eligible.map (·.issue) ++
        (issues.filter fun issue =>
          decide (Passes rfc3339 cfg query leases issue ∧ Routes cfg query issue)).take
            (cfg.maxRuns - activeCount - result.eligible.length) := by
  induction issues generalizing result cache with
  | nil =>
    obtain ⟨rfl, rfl⟩ := Prod.mk.inj (Except.ok.inj h)
    simp
  | cons issue rest ih =>
    rw [List.foldlM_cons] at h
    obtain ⟨⟨between, cache''⟩, hturn, hrest⟩ := bind_ok.mp h
    obtain ⟨hcache', hturn⟩ := discoverIssue_turn hcache hturn
    obtain ⟨hissues, heligible⟩ := ih hcache' hrest
    have hperm : (between.issues ++ rest).Perm (result.issues ++ issue :: rest) := by
      rw [List.append_cons]
      exact hturn.issues.append_right rest
    refine ⟨hissues.trans hperm, ?_⟩
    rw [heligible]
    cases hturn with
    | against reason hnot =>
      rw [List.filter_cons_of_neg (by simpa using hnot)]
      rfl
    | full hpasses hfull =>
      have hnone : cfg.maxRuns - activeCount - result.eligible.length = 0 := by omega
      show result.eligible.map _ ++ List.take (cfg.maxRuns - activeCount -
        result.eligible.length) _ = _
      rw [hnone, List.take_zero, List.take_zero]
    | taken routed hissue hpasses hroutes hfree =>
      have hone : cfg.maxRuns - activeCount - result.eligible.length =
          cfg.maxRuns - activeCount - (result.take routed).eligible.length + 1 := by
        simp only [DiscoveryResult.take, List.length_append, List.length_singleton]
        omega
      rw [List.filter_cons_of_pos (by simpa using ⟨hpasses, hroutes⟩), hone,
        List.take_succ_cons]
      simp [DiscoveryResult.take, hissue]

end Turn

/-! ### The order -/

section Order

variable {cfg : DiscoveryConfig} {listed listed' : List GithubIssue}

theorem number_of_issueKey {a b : GithubIssue} (h : issueKey cfg a = issueKey cfg b) :
    a.number = b.number := by
  have hnumber := congrArg (fun key => (ofLex (ofLex (ofLex (ofLex key).2).2).2).2) h
  exact UInt64.toNat_inj.mp hnumber

theorem orderIssues_perm (listed : List GithubIssue) : (orderIssues cfg listed).Perm listed :=
  List.perm_insertionSort _ _

instance : Std.Total fun a b : GithubIssue => issueKey cfg a ≤ issueKey cfg b :=
  ⟨fun a b => le_total (issueKey cfg a) (issueKey cfg b)⟩

instance : IsTrans GithubIssue fun a b => issueKey cfg a ≤ issueKey cfg b :=
  ⟨fun _ _ _ => le_trans⟩

section

variable (hdistinct : (listed.map (·.number)).Nodup)

include hdistinct

theorem issue_of_number {a b : GithubIssue}
    (ha : a ∈ listed) (hb : b ∈ listed) (h : a.number = b.number) : a = b :=
  List.inj_on_of_nodup_map hdistinct ha hb h

theorem orderIssues_pairwise : (orderIssues cfg listed).Pairwise (Precedes cfg) := by
  have hsorted : (orderIssues cfg listed).Pairwise fun a b => issueKey cfg a ≤ issueKey cfg b :=
    List.pairwise_insertionSort _ _
  have hnodup : (orderIssues cfg listed).Nodup :=
    (orderIssues_perm listed).nodup_iff.mpr hdistinct.of_map
  refine (hsorted.and hnodup).imp_of_mem fun {a b} ha hb hboth => ?_
  refine lt_of_le_of_ne hboth.1 fun heq => hboth.2 ?_
  exact issue_of_number hdistinct ((orderIssues_perm listed).mem_iff.mp ha)
    ((orderIssues_perm listed).mem_iff.mp hb) (number_of_issueKey heq)

theorem orderIssues_eq_of_perm
    (h : listed'.Perm listed) : orderIssues cfg listed' = orderIssues cfg listed := by
  have hdistinct' : (listed'.map (·.number)).Nodup := (h.map _).nodup_iff.mpr hdistinct
  refine List.Perm.eq_of_pairwise (fun a b _ _ hab hba => ?_) (orderIssues_pairwise hdistinct')
    (orderIssues_pairwise hdistinct)
    ((orderIssues_perm listed').trans (h.trans (orderIssues_perm listed).symm))
  exact absurd (lt_trans hab hba) (lt_irrefl _)

end

end Order

/-! ### What a pass selects -/

section Selected

variable {rfc3339 : String → Option Timestamp} {cfg : DiscoveryConfig} {query : GithubIssueQuery}
  {leases : LeaseRows} {activeCount : Nat} {listed : List GithubIssue} {result : DiscoveryResult}

theorem discoverIssue_listIssues
    (listIssues : String → List String → List String → Except String (List GithubIssue)) :
    discoverIssue rfc3339 cfg { query with listIssues := listIssues } leases activeCount =
      discoverIssue rfc3339 cfg query leases activeCount := rfl

open scoped Classical in
/-- The issues that the pass lets through and that are not admissible come after as many that are
as there is room for. -/
def OverlooksTooLate (rfc3339 : String → Option Timestamp) (cfg : DiscoveryConfig)
    (query : GithubIssueQuery) (leases : LeaseRows) (activeCount : Nat)
    (listed : List GithubIssue) : Prop :=
  ∀ issue ∈ listed, Passes rfc3339 cfg query leases issue → Routes cfg query issue →
    ¬ Admissible rfc3339 cfg query leases issue →
    cfg.maxRuns - activeCount ≤ listed.countP fun other =>
      decide (Admissible rfc3339 cfg query leases other ∧ Routes cfg query other ∧
        Precedes cfg other issue)

open scoped Classical in
theorem countP_before {P : GithubIssue → Prop} [DecidablePred P] {before after : List GithubIssue}
    {issue : GithubIssue} (hperm : (before ++ issue :: after).Perm listed)
    (hordered : (before ++ issue :: after).Pairwise (Precedes cfg)) :
    (listed.countP fun other => decide (P other ∧ Precedes cfg other issue)) =
      before.countP fun other => decide (P other) := by
  obtain ⟨-, hlater, hearlier⟩ := List.pairwise_append.mp hordered
  rw [← hperm.countP_eq, List.countP_append]
  have hnone : ((issue :: after).countP fun other =>
      decide (P other ∧ Precedes cfg other issue)) = 0 := by
    refine List.countP_eq_zero.mpr fun other hother hboth => ?_
    have hprecedes : Precedes cfg other issue := (of_decide_eq_true hboth).2
    rcases List.mem_cons.mp hother with rfl | hafter
    · exact lt_irrefl _ hprecedes
    · exact lt_asymm hprecedes ((List.pairwise_cons.mp hlater).1 other hafter)
  rw [hnone, Nat.add_zero]
  refine List.countP_congr fun other hother => ?_
  have hprecedes : Precedes cfg other issue := hearlier other hother issue (by simp)
  simp [hprecedes]

open scoped Classical in
theorem discover_ok (hdiscover : discover rfc3339 cfg query leases activeCount = .ok result)
    (hlisted : query.listIssues cfg.repoName cfg.includeLabels cfg.issueStates = .ok listed) :
    result.issues.Perm (orderIssues cfg listed) ∧
      result.eligible.map (·.issue) =
        ((orderIssues cfg listed).filter fun issue =>
          decide (Passes rfc3339 cfg query leases issue ∧ Routes cfg query issue)).take
            (cfg.maxRuns - activeCount) := by
  unfold discover at hdiscover
  rw [hlisted] at hdiscover
  dsimp only at hdiscover
  cases hfold : (orderIssues cfg listed).foldlM
      (discoverIssue rfc3339 cfg query leases activeCount) ({}, {}) with
  | error error => simp [hfold, Except.map] at hdiscover
  | ok found =>
    obtain ⟨found, cache⟩ := found
    rw [hfold] at hdiscover
    obtain rfl := Except.ok.inj hdiscover
    exact discoverLoop remembers_empty hfold

open scoped Classical in
/-- **A pass selects what it is to find just when no issue that it lets through, and that is not
admissible, comes in time.** -/
theorem discover_selects_iff
    (hdiscover : discover rfc3339 cfg query leases activeCount = .ok result)
    (hlisted : query.listIssues cfg.repoName cfg.includeLabels cfg.issueStates = .ok listed)
    (hdistinct : (listed.map (·.number)).Nodup) :
    Selects rfc3339 cfg query leases activeCount listed result ↔
      OverlooksTooLate rfc3339 cfg query leases activeCount listed := by
  have hordered : (orderIssues cfg listed).Pairwise (Precedes cfg) := orderIssues_pairwise hdistinct
  have hperm : (orderIssues cfg listed).Perm listed := orderIssues_perm listed
  obtain ⟨hissues, heligible⟩ := discover_ok hdiscover hlisted
  have hboth : ∀ issue, (decide (Passes rfc3339 cfg query leases issue ∧ Routes cfg query issue) &&
      decide (Admissible rfc3339 cfg query leases issue)) =
      decide (Admissible rfc3339 cfg query leases issue ∧ Routes cfg query issue) := by
    intro issue
    rw [← Bool.decide_and, decide_eq_decide]
    exact ⟨fun h => ⟨h.2, h.1.2⟩, fun h => ⟨⟨h.1.toPasses, h.2⟩, h.1⟩⟩
  have hsound : (∀ routed ∈ result.eligible, Admissible rfc3339 cfg query leases routed.issue) ↔
      ∀ issue ∈ ((orderIssues cfg listed).filter fun issue =>
        decide (Passes rfc3339 cfg query leases issue ∧ Routes cfg query issue)).take
          (cfg.maxRuns - activeCount),
        decide (Admissible rfc3339 cfg query leases issue) = true := by
    rw [← heligible]
    simp
  have hearlier : ∀ {before issue after}, orderIssues cfg listed = before ++ issue :: after →
      (listed.countP fun other => decide (Admissible rfc3339 cfg query leases other ∧
        Routes cfg query other ∧ Precedes cfg other issue)) =
      (before.filter fun other =>
        decide (Admissible rfc3339 cfg query leases other ∧ Routes cfg query other)).length := by
    intro before issue after hsplit
    rw [hsplit] at hperm hordered
    rw [← List.countP_eq_length_filter]
    refine (List.countP_congr fun other _ => ?_).trans (countP_before hperm hordered)
    simp [and_assoc]
  have hlate : OverlooksTooLate rfc3339 cfg query leases activeCount listed ↔
      ∀ routed ∈ result.eligible, Admissible rfc3339 cfg query leases routed.issue := by
    rw [hsound, Selection.forall_take_filter]
    simp only [hboth]
    constructor
    · intro h before issue after hsplit hpasses hnot
      have hmem : issue ∈ listed := hperm.mem_iff.mp (by rw [hsplit]; simp)
      obtain ⟨hpasses, hroutes⟩ := of_decide_eq_true hpasses
      exact (h issue hmem hpasses hroutes (of_decide_eq_false hnot)).trans_eq (hearlier hsplit)
    · intro h issue hmem hpasses hroutes hnot
      obtain ⟨before, after, hsplit⟩ := List.append_of_mem (hperm.mem_iff.mpr hmem)
      have hcount := h before issue after hsplit (decide_eq_true ⟨hpasses, hroutes⟩)
        (decide_eq_false hnot)
      exact hcount.trans_eq (hearlier hsplit).symm
  rw [hlate]
  refine ⟨fun h => h.sound, fun h => ⟨hissues.trans hperm, h, ?_, fun listed' hlisted' => ?_⟩⟩
  · refine ⟨orderIssues cfg listed, hperm, hordered, ?_⟩
    rw [heligible, Selection.take_filter_and _ _ (hsound.mp h)]
    simp only [hboth]
  · rw [← hdiscover]
    unfold discover
    rw [hlisted, discoverIssue_listIssues]
    show Except.map Prod.fst (List.foldlM _ _ (orderIssues cfg listed')) = _
    rw [orderIssues_eq_of_perm hdistinct hlisted']

end Selected

/-! ### Two passes -/

def openIssue (number : UInt64) (labels : List String) (milestone : Option String) :
    GithubIssue where
  number := number
  title := "An issue"
  state := "open"
  labels := labels
  assignees := []
  milestone := milestone
  body := none

/-- A repository whose issues have been approved by `boss`, and that has no pull request. -/
def approvedIssues (issues : List GithubIssue) (parent : Option GithubIssue) :
    GithubIssueQuery where
  listIssues _ _ _ := .ok issues
  latestLabelActor _ _ _ := .ok (some "boss")
  hasOpenPrForIssue _ _ := .ok false
  listSubIssues _ _ := .ok []
  getParentIssue _ _ := .ok (parent.map GithubParentIssue.mk)

/-- Issues that are ready, and approved by `boss`. -/
def approvalConfig (ready : String) : DiscoveryConfig where
  repo := some "o/r"
  maxConcurrentRuns := some 1
  includeLabels := [ready]
  issueStates := ["open"]
  approvalLabel := some "ok"
  approvalActor := some "boss"
  skipChildrenOfActiveParents := true

def noInstant : String → Option Timestamp := fun _ => none

/-- Two issues, of which the later one belongs to the earlier milestone. -/
def twoMilestones : List GithubIssue :=
  [openIssue 2 ["ok"] (some "v2.0"), openIssue 7 ["ok"] (some "v1.9.1")]

theorem twoMilestones_approved : ∀ issue ∈ twoMilestones, issueHasLabel issue "ok" = true := by
  decide +kernel

/-- What becomes of them where one run is allowed. -/
def earlierMilestone : DiscoveryResult where
  eligible := [.ordinary (openIssue 7 ["ok"] (some "v1.9.1"))]
  skipped := [(openIssue 2 ["ok"] (some "v2.0"), .concurrencyLimitReached)]

/-- Of two approved issues the one of the earlier milestone is taken. -/
theorem discover_selects_earlier :
    Selects noInstant (approvalConfig "ok") (approvedIssues twoMilestones none) Table.empty 0
      twoMilestones earlierMilestone := by
  have happroval : (approvalConfig "ok").approvalLabel = some "ok" := rfl
  have hdiscover : discover noInstant (approvalConfig "ok") (approvedIssues twoMilestones none)
      Table.empty 0 = .ok earlierMilestone := by decide +kernel
  have hdistinct : (twoMilestones.map (·.number)).Nodup := by decide
  refine (discover_selects_iff hdiscover rfl hdistinct).mpr ?_
  intro issue hmem hpasses _ hnot
  refine absurd { toPasses := hpasses, carriesApproval := ?_, parentLease := ?_ } hnot
  · rw [happroval]
    intro label hlabel
    rw [← Option.some.inj hlabel]
    exact twoMilestones_approved issue hmem
  · intro _ parent hparent
    have hnone : (none : Option GithubParentIssue) = some parent := Except.ok.inj hparent
    simp at hnone

def unreadableLease : LeaseRow where
  leaseId := .text "lease-parent"
  issueRepo := .text "o/r"
  issueNumber := .integer 50
  configId := .text "parents"
  runId := .null
  status := .blob [255]
  claimedAt := .text ""
  updatedAt := .text ""
  heartbeatAt := .text ""

def unreadableLeases : LeaseRows := ⟨[unreadableLease], List.pairwise_singleton ..⟩

/-- **An issue is taken that has lost its approval label, and one whose parent has a lease that
cannot be read.** -/
theorem discover_overlooks :
    (∃ result, discover noInstant (approvalConfig "ready")
        (approvedIssues [openIssue 1 ["ready"] none] none) Table.empty 0 = .ok result ∧
      ¬ Selects noInstant (approvalConfig "ready")
        (approvedIssues [openIssue 1 ["ready"] none] none) Table.empty 0
        [openIssue 1 ["ready"] none] result) ∧
    ∃ result, discover noInstant (approvalConfig "ok")
        (approvedIssues [openIssue 61 ["ok"] none] (some (openIssue 50 [] none)))
        unreadableLeases 0 = .ok result ∧
      ¬ Selects noInstant (approvalConfig "ok")
        (approvedIssues [openIssue 61 ["ok"] none] (some (openIssue 50 [] none)))
        unreadableLeases 0 [openIssue 61 ["ok"] none] result := by
  refine ⟨⟨{ eligible := [.ordinary (openIssue 1 ["ready"] none)] }, by decide +kernel, ?_⟩,
    { eligible := [.ordinary (openIssue 61 ["ok"] none)] }, by decide +kernel, ?_⟩
  · intro hselects
    have hcarries := (hselects.sound _ (List.mem_singleton_self _)).carriesApproval "ok" rfl
    exact absurd hcarries (by decide +kernel)
  · intro hselects
    obtain ⟨lease, hlease, -⟩ :=
      (hselects.sound _ (List.mem_singleton_self _)).parentLease rfl _ rfl
    have hread : ∃ error, getLeaseForIssue noInstant unreadableLeases "o/r" 50 = .error error :=
      ⟨_, rfl⟩
    obtain ⟨error, herror⟩ := hread
    exact absurd (hlease.symm.trans herror) (by simp)

end Luther.Discovery
