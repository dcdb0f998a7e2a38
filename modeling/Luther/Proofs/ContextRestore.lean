/-
What a context carries across a checkpoint.

A checkpoint holds the variables that an allowlist names: the bare ones, those of every step, and
the order of the steps.  Restoring them into a context that no step has written to makes the
allowlisted keys read as they did, and nothing else: the namespaces come from the checkpoint
altogether, and the bare variables are only changed under allowlisted keys.

Two keys read across the allowlist.  `issue_number` falls back to `primary_issue_number`, so it
follows that key where it is not listed itself; and a fresh context that names its own issue keeps
it, where the old one knew the issue only under the other key.
-/
import Luther.Proofs.ContextReads

namespace Luther

open Assoc

namespace StepContext

variable {context old fresh restored : StepContext} {keys : List String}
  {values : List (String × Json)}

/-- The variable that a key names, in whatever namespace. -/
def varName (key : String) : String :=
  match splitAtDot key with
  | some (_, name) => name
  | none => key

/-- The allowlist names the key, bare or in a namespace. -/
def Allowlisted (keys : List String) (key : String) : Prop := varName key ∈ keys

/-- No namespace has a key that may not cross a checkpoint. -/
def Narrow (context : StepContext) : Prop :=
  ∀ step name, name ∉ context.checkpointableKeys →
    Layers.inLayer step name context.namespacedVars = none

variable {key step name value : String}

theorem isCheckpointable_iff :
    context.isCheckpointableContextKey key = true ↔ key ∈ context.checkpointableKeys := by
  unfold isCheckpointableContextKey
  exact List.contains_iff_mem

theorem inLayer_keep_of_mem (h : name ∈ context.checkpointableKeys)
    (layers : List (String × List (String × String))) :
    Layers.inLayer step name (Layers.keep context.isCheckpointableContextKey layers) =
      Layers.inLayer step name layers := by
  rw [Layers.inLayer_keep, if_pos (isCheckpointable_iff.mpr h)]

theorem inLayer_keep_of_notMem (h : name ∉ context.checkpointableKeys)
    (layers : List (String × List (String × String))) :
    Layers.inLayer step name (Layers.keep context.isCheckpointableContextKey layers) = none := by
  rw [Layers.inLayer_keep, if_neg fun hin => h (isCheckpointable_iff.mp hin)]

/-! ### What a restore leaves alone -/

/-- Every bare variable is there once. -/
def KeyedOnce (context : StepContext) : Prop := (context.variables.map Prod.fst).Nodup

/-- What no restore changes: the allowlist, and what is bare and not on it. -/
structure Spared (before after : StepContext) : Prop where
  keys : after.checkpointableKeys = before.checkpointableKeys
  keyedOnce : before.KeyedOnce → after.KeyedOnce
  narrow : before.Narrow → after.Narrow
  bare : ∀ key, key ∉ before.checkpointableKeys →
    after.variables.lookup key = before.variables.lookup key

theorem Spared.refl (context : StepContext) : context.Spared context :=
  ⟨rfl, id, id, fun _ _ => rfl⟩

theorem Spared.trans {a b c : StepContext} (hab : a.Spared b) (hbc : b.Spared c) : a.Spared c where
  keys := hbc.keys.trans hab.keys
  keyedOnce := hbc.keyedOnce ∘ hab.keyedOnce
  narrow := hbc.narrow ∘ hab.narrow
  bare key hkey := (hbc.bare key (hab.keys ▸ hkey)).trans (hab.bare key hkey)

theorem spared_restoreNamespacedVars {value : Option Json}
    (h : restoreNamespacedVars value context = .ok restored) : context.Spared restored := by
  unfold restoreNamespacedVars at h
  split at h
  · exact Except.ok.inj h ▸ Spared.refl context
  · split at h
    · cases h
    · obtain rfl := Except.ok.inj h
      refine ⟨rfl, id, fun _ step name hname => ?_, fun _ _ => rfl⟩
      exact inLayer_keep_of_notMem hname _

theorem spared_restoreStepOrder {value : Option Json}
    (h : restoreStepOrder value context = .ok restored) : context.Spared restored := by
  unfold restoreStepOrder at h
  split at h
  · exact Except.ok.inj h ▸ Spared.refl context
  · split at h
    · cases h
    · obtain rfl := Except.ok.inj h
      exact ⟨rfl, id, id, fun _ _ => rfl⟩

theorem spared_restoreVariable {entry : String × Json}
    (h : restoreVariable entry context = .ok restored) : context.Spared restored := by
  unfold restoreVariable at h
  split at h
  · rename_i hkey
    split at h
    · cases h
    · obtain rfl := Except.ok.inj h
      refine ⟨rfl, nodup_keys_insert, id, fun key hnot => ?_⟩
      have hne : key ≠ entry.1 := fun heq => hnot (heq ▸ isCheckpointable_iff.mp hkey)
      exact lookup_insert_ne hne _ _
  · exact Except.ok.inj h ▸ Spared.refl context

theorem spared_afterRestoreVariables (entries : List (String × Json)) (context : StepContext) :
    context.Spared (afterRestoreVariables entries context) := by
  induction entries generalizing context with
  | nil => exact Spared.refl context
  | cons entry rest ih =>
    unfold afterRestoreVariables
    cases hentry : restoreVariable entry context with
    | error e => exact Spared.refl context
    | ok next => exact (spared_restoreVariable hentry).trans (ih next)

/-- **Whatever is restored, however it ends, what is not on the allowlist is spared.** -/
theorem spared_afterRestore (values : List (String × Json)) (context : StepContext) :
    context.Spared (context.afterRestore values) := by
  unfold afterRestore
  cases hspaces : restoreNamespacedVars (values.lookup "__namespaced_vars") context with
  | error e => exact Spared.refl context
  | ok first =>
    dsimp only
    cases horder : restoreStepOrder (values.lookup "__step_order") first with
    | error e => exact spared_restoreNamespacedVars hspaces
    | ok second =>
      exact (spared_restoreNamespacedVars hspaces).trans
        ((spared_restoreStepOrder horder).trans (spared_afterRestoreVariables _ second))

theorem afterRestore_of_ok (h : context.restoreCheckpointValues values = .ok restored) :
    context.afterRestore values = restored := by
  have hvariables : ∀ (entries : List (String × Json)) (context : StepContext),
      entries.foldlM (fun context entry => restoreVariable entry context) context = .ok restored →
        afterRestoreVariables entries context = restored := by
    intro entries
    induction entries with
    | nil => exact fun _ hnil => Except.ok.inj hnil
    | cons entry rest ih =>
      intro context hcons
      rw [List.foldlM_cons] at hcons
      unfold afterRestoreVariables
      cases hentry : restoreVariable entry context with
      | error e =>
        rw [hentry] at hcons
        cases hcons
      | ok next =>
        rw [hentry] at hcons
        exact ih next hcons
  unfold restoreCheckpointValues at h
  unfold afterRestore
  cases hspaces : restoreNamespacedVars (values.lookup "__namespaced_vars") context with
  | error e =>
    rw [hspaces] at h
    cases h
  | ok first =>
    rw [hspaces] at h
    cases horder : restoreStepOrder (values.lookup "__step_order") first with
    | error e =>
      simp only [bind, Except.bind, horder] at h
      cases h
    | ok second =>
      simp only [bind, Except.bind, horder] at h
      simp only [horder]
      exact hvariables _ second h

/-! ### What is read after a restore -/

theorem get_of_undotted (h : splitAtDot key = none) :
    context.get key = (context.getBare key).or
      (if key = "issue_number" then context.getBare "primary_issue_number" else none) := by
  unfold get
  rw [h]

theorem Narrow.getBare_of_notMem (hnarrow : context.Narrow) (h : key ∉ context.checkpointableKeys) :
    context.getBare key = context.variables.lookup key := by
  have hread : Layers.read context.searched key context.namespacedVars = none :=
    List.findSome?_eq_none_iff.mpr fun step _ => hnarrow step key h
  rw [getBare_eq, hread, Option.none_or]

/-- **What is not on the allowlist reads as before.** -/
theorem Spared.get_eq (h : context.Spared restored) (hnarrow : context.Narrow)
    (hkey : ¬ Allowlisted context.checkpointableKeys key)
    (halias : key = "issue_number" → "primary_issue_number" ∉ context.checkpointableKeys) :
    restored.get key = context.get key := by
  have hafter := h.narrow hnarrow
  unfold Allowlisted varName at hkey
  cases hsplit : splitAtDot key with
  | some parts =>
    obtain ⟨step, name⟩ := parts
    rw [hsplit] at hkey
    rw [get_of_dotted hsplit, get_of_dotted hsplit, hnarrow step name hkey,
      hafter step name (h.keys ▸ hkey)]
  | none =>
    rw [hsplit] at hkey
    have hbare : ∀ bare, bare ∉ context.checkpointableKeys →
        restored.getBare bare = context.getBare bare := by
      intro bare hnot
      rw [hnarrow.getBare_of_notMem hnot, hafter.getBare_of_notMem (h.keys ▸ hnot),
        h.bare bare hnot]
    rw [get_of_undotted hsplit, get_of_undotted hsplit, hbare key hkey]
    by_cases hissue : key = "issue_number"
    · rw [if_pos hissue, if_pos hissue, hbare _ (halias hissue)]
    · rw [if_neg hissue, if_neg hissue]

/-! ### The round trip -/

/-- The bare variables that a checkpoint hands over. -/
def carried (context : StepContext) : List (String × String) :=
  (context.checkpointable context.variables).filter fun entry =>
    entry.1 != "__namespaced_vars" && entry.1 != "__step_order"

theorem restoreVariables_ok {entries : List (String × String)}
    (h : ∀ entry ∈ entries, context.isCheckpointableContextKey entry.1 = true) :
    (entries.map fun entry => (entry.1, Json.str entry.2)).foldlM
        (fun context entry => restoreVariable entry context) context =
      .ok { context with
        «variables» := entries.foldl (fun m e => Assoc.insert e.1 e.2 m) context.variables } := by
  induction entries generalizing context with
  | nil => rfl
  | cons entry rest ih =>
    have hfirst : restoreVariable (entry.1, Json.str entry.2) context = .ok { context with
        «variables» := Assoc.insert entry.1 entry.2 context.variables } := by
      unfold restoreVariable
      rw [if_pos (h entry List.mem_cons_self)]
      rfl
    rw [List.map_cons, List.foldlM_cons, hfirst]
    exact ih fun other hother => h other (List.mem_cons_of_mem _ hother)

/-- The context that holds what another one hands over. -/
def joined (old fresh : StepContext) : StepContext :=
  { fresh with
    «variables» := old.carried.foldl (fun m e => Assoc.insert e.1 e.2 m) fresh.variables
    stepOrder := old.stepOrder
    namespacedVars := Layers.keep fresh.isCheckpointableContextKey
      (Layers.keep old.isCheckpointableContextKey old.namespacedVars) }

/-- **A checkpoint is restored.** -/
theorem restore_checkpointValues (hkeys : fresh.checkpointableKeys = old.checkpointableKeys) :
    fresh.restoreCheckpointValues old.checkpointValues = .ok (joined old fresh) := by
  have hlayers : ∀ layers : List (String × List (String × String)),
      Json.toMap? (Json.toMap? Json.asStr?) (Json.ofMap (Json.ofMap Json.str) layers) =
        some layers :=
    Json.toMap?_ofMap (Json.toMap?_ofMap fun _ => rfl)
  have hspaces : restoreNamespacedVars (old.checkpointValues.lookup "__namespaced_vars") fresh =
      .ok { fresh with
        namespacedVars := Layers.keep fresh.isCheckpointableContextKey
          (Layers.keep old.isCheckpointableContextKey old.namespacedVars) } := by
    unfold checkpointValues
    dsimp only
    rw [lookup_insert_ne (by decide), lookup_insert_self]
    unfold restoreNamespacedVars
    dsimp only
    rw [hlayers]
    rfl
  have horder : ∀ context : StepContext,
      restoreStepOrder (old.checkpointValues.lookup "__step_order") context =
        .ok { context with stepOrder := old.stepOrder } := by
    intro context
    unfold checkpointValues
    dsimp only
    rw [lookup_insert_self]
    unfold restoreStepOrder
    dsimp only
    rw [Json.toStrings?_ofStrings]
  have hothers : (old.checkpointValues.filter fun entry =>
      entry.1 != "__namespaced_vars" && entry.1 != "__step_order") =
        old.carried.map fun entry => (entry.1, Json.str entry.2) := by
    unfold checkpointValues carried
    dsimp only
    rw [filter_insert_of_neg (fun _ => by simp),
      filter_insert_of_neg (fun _ => by simp), List.filter_map]
    rfl
  unfold restoreCheckpointValues
  rw [hspaces]
  simp only [bind, Except.bind]
  rw [horder]
  simp only [hothers]
  refine restoreVariables_ok fun entry hentry => ?_
  have hmem := (List.mem_filter.mp (List.mem_filter.mp hentry).1).2
  exact isCheckpointable_iff.mpr (hkeys ▸ isCheckpointable_iff.mp hmem)

/-! ### What the restored context reads -/

theorem inLayer_joined (hkeys : fresh.checkpointableKeys = old.checkpointableKeys)
    (h : name ∈ old.checkpointableKeys) :
    Layers.inLayer step name (joined old fresh).namespacedVars =
      Layers.inLayer step name old.namespacedVars := by
  unfold joined
  rw [inLayer_keep_of_mem (hkeys ▸ h), inLayer_keep_of_mem h]

def reservedKeys : List String := ["__namespaced_vars", "__step_order"]

theorem lookup_joined (hold : old.KeyedOnce) (key : String) :
    (joined old fresh).variables.lookup key =
      (if key ∈ old.checkpointableKeys ∧ key ∉ reservedKeys then old.variables.lookup key
        else none).or (fresh.variables.lookup key) := by
  have hnodup : (old.carried.map Prod.fst).Nodup :=
    hold.sublist ((List.filter_sublist.trans List.filter_sublist).map Prod.fst)
  unfold joined
  rw [lookup_insertMany hnodup]
  unfold carried checkpointable
  rw [Layers.lookup_filter_fst fun k => k != "__namespaced_vars" && k != "__step_order",
    Layers.lookup_filter_fst old.isCheckpointableContextKey]
  have hreserved : (key != "__namespaced_vars" && key != "__step_order") = true ↔
      key ∉ reservedKeys := by
    simp [reservedKeys]
  by_cases hkey : key ∈ old.checkpointableKeys ∧ key ∉ reservedKeys
  · rw [if_pos hkey, if_pos (hreserved.mpr hkey.2), if_pos (isCheckpointable_iff.mpr hkey.1)]
  · rw [if_neg hkey]
    congr 1
    by_cases hin : key ∈ reservedKeys
    · rw [if_neg fun h => hreserved.mp h hin]
    · rw [if_pos (hreserved.mpr hin),
        if_neg fun h => hkey ⟨isCheckpointable_iff.mp h, hin⟩]

/-- **An allowlisted key reads what it read**, or what the fresh context holds where it read
nothing. -/
theorem getBare_joined (hkeys : fresh.checkpointableKeys = old.checkpointableKeys)
    (hold : old.KeyedOnce) (h : key ∈ old.checkpointableKeys)
    (hreserved : key ∉ reservedKeys) :
    (joined old fresh).getBare key = (old.getBare key).or (fresh.variables.lookup key) := by
  have hread : Layers.read (joined old fresh).searched key (joined old fresh).namespacedVars =
      Layers.read old.searched key old.namespacedVars :=
    Layers.read_congr fun step _ => inLayer_joined hkeys h
  rw [getBare_eq, getBare_eq, hread, lookup_joined hold, if_pos ⟨h, hreserved⟩, Option.or_assoc]

theorem narrow_joined : (joined old fresh).Narrow := by
  intro step name hname
  exact @inLayer_keep_of_notMem fresh step name hname _

/-- **What is read was read in the old context under an allowlisted key, or is the fresh one's.** -/
theorem getBare_joined_source (hkeys : fresh.checkpointableKeys = old.checkpointableKeys)
    (hold : old.KeyedOnce) (h : (joined old fresh).getBare key = some value) :
    (key ∈ old.checkpointableKeys ∧ old.getBare key = some value) ∨
      fresh.variables.lookup key = some value := by
  by_cases hkey : key ∈ old.checkpointableKeys
  · have hread : Layers.read (joined old fresh).searched key (joined old fresh).namespacedVars =
        Layers.read old.searched key old.namespacedVars :=
      Layers.read_congr fun step _ => inLayer_joined hkeys hkey
    rw [getBare_eq, hread, lookup_joined hold, ← Option.or_assoc] at h
    rcases Option.or_eq_some_iff.mp h with hcarried | ⟨-, hfresh⟩
    · refine Or.inl ⟨hkey, ?_⟩
      rw [getBare_eq]
      by_cases hreserved : key ∉ reservedKeys
      · rwa [if_pos ⟨hkey, hreserved⟩] at hcarried
      · rw [if_neg fun hc => hreserved hc.2, Option.or_none] at hcarried
        rw [hcarried, Option.some_or]
    · exact Or.inr hfresh
  · have hbare : (joined old fresh).getBare key = (joined old fresh).variables.lookup key := by
      refine narrow_joined.getBare_of_notMem ?_
      show key ∉ fresh.checkpointableKeys
      rwa [hkeys]
    rw [hbare, lookup_joined hold, if_neg fun hc => hkey hc.1, Option.none_or] at h
    exact Or.inr h

/-! ### The whole of it -/

/-- What a restored context has of the two that it is made of. -/
structure Restored (old fresh restored : StepContext) : Prop where
  /-- What an allowlisted key read, it reads again.  An issue that the old context knew only under
  its other key gives way to one that the fresh context names. -/
  values : ∀ key value, Allowlisted old.checkpointableKeys key → key ∉ reservedKeys →
    (key = "issue_number" → (fresh.variables.lookup key).isSome = true →
      (old.variables.lookup key).isSome = true) →
    old.get key = some value → restored.get key = some value
  /-- What is not on the allowlist reads as in the fresh context; the issue, if the key it falls
  back to is not on it either. -/
  others : ∀ key, ¬ Allowlisted old.checkpointableKeys key →
    (key = "issue_number" → "primary_issue_number" ∉ old.checkpointableKeys) →
    restored.get key = fresh.get key
  /-- Whatever is read comes from the fresh context or from an allowlisted key of the old one. -/
  sources : ∀ name value, restored.get name = some value →
    fresh.get name = some value ∨
      ∃ key, Allowlisted old.checkpointableKeys key ∧ old.get key = some value

theorem get_of_getBare (hsplit : splitAtDot key = none)
    (h : context.getBare key = some value) : context.get key = some value := by
  rw [get_of_undotted hsplit, h, Option.some_or]

theorem narrow_of_empty (h : context.namespacedVars = []) : context.Narrow := by
  intro step name _
  rw [h]
  rfl

theorem getBare_of_empty (h : context.namespacedVars = []) (key : String) :
    context.getBare key = context.variables.lookup key := by
  have hread : Layers.read context.searched key context.namespacedVars = none := by
    rw [h]
    exact List.findSome?_eq_none_iff.mpr fun _ _ => rfl
  rw [getBare_eq, hread, Option.none_or]

theorem splitAtDot_primary : splitAtDot "primary_issue_number" = none := by decide

theorem isSome_getBare (h : (context.variables.lookup key).isSome) :
    context.getBare key ≠ none := by
  rw [getBare_eq]
  intro hnone
  rw [(Option.or_eq_none_iff.mp hnone).2] at h
  cases h

section

variable (hkeys : fresh.checkpointableKeys = old.checkpointableKeys)

include hkeys

theorem joined_values (hold : old.KeyedOnce) (hissue : "issue_number" ∈ old.checkpointableKeys →
      "primary_issue_number" ∈ old.checkpointableKeys)
    (hkey : Allowlisted old.checkpointableKeys key)
    (hreserved : key ∉ reservedKeys)
    (hknown : key = "issue_number" → (fresh.variables.lookup key).isSome = true →
      (old.variables.lookup key).isSome = true)
    (h : old.get key = some value) : (joined old fresh).get key = some value := by
  unfold Allowlisted varName at hkey
  cases hsplit : splitAtDot key with
  | some parts =>
    obtain ⟨step, name⟩ := parts
    rw [hsplit] at hkey
    rw [get_of_dotted hsplit] at h ⊢
    rw [inLayer_joined hkeys hkey, h]
  | none =>
    rw [hsplit] at hkey
    rw [get_of_undotted hsplit] at h
    rcases Option.or_eq_some_iff.mp h with hbare | ⟨hnone, halias⟩
    · refine get_of_getBare hsplit ?_
      rw [getBare_joined hkeys hold hkey hreserved, hbare, Option.some_or]
    · by_cases hname : key = "issue_number"
      · rw [if_pos hname] at halias
        have hfresh : fresh.variables.lookup key = none := by
          by_contra hsome
          exact isSome_getBare (hknown hname (Option.isSome_iff_ne_none.mpr hsome)) hnone
        have hprimary := hissue (hname ▸ hkey)
        rw [get_of_undotted hsplit, getBare_joined hkeys hold hkey hreserved, hnone, hfresh,
          Option.none_or, Option.none_or, if_pos hname,
          getBare_joined hkeys hold hprimary (by decide), halias, Option.some_or]
      · rw [if_neg hname] at halias
        cases halias

theorem joined_sources (hold : old.KeyedOnce) (hfresh : fresh.namespacedVars = [])
    (h : (joined old fresh).get name = some value) :
    fresh.get name = some value ∨
      ∃ key, Allowlisted old.checkpointableKeys key ∧ old.get key = some value := by
  have hold' : ∀ {key}, splitAtDot key = none → key ∈ old.checkpointableKeys →
      old.getBare key = some value →
        ∃ key, Allowlisted old.checkpointableKeys key ∧ old.get key = some value := by
    intro key hsplit hkey hbare
    refine ⟨key, ?_, get_of_getBare hsplit hbare⟩
    unfold Allowlisted varName
    rwa [hsplit]
  cases hsplit : splitAtDot name with
  | some parts =>
    obtain ⟨step, var⟩ := parts
    rw [get_of_dotted hsplit] at h
    by_cases hvar : var ∈ old.checkpointableKeys
    · rw [inLayer_joined hkeys hvar] at h
      refine Or.inr ⟨name, ?_, by rw [get_of_dotted hsplit, h]⟩
      unfold Allowlisted varName
      rwa [hsplit]
    · have hnone := @narrow_joined old fresh step var (by rw [← hkeys] at hvar; exact hvar)
      rw [hnone] at h
      cases h
  | none =>
    rw [get_of_undotted hsplit] at h
    rcases Option.or_eq_some_iff.mp h with hbare | ⟨hnone, halias⟩
    · rcases getBare_joined_source hkeys hold hbare with ⟨hkey, hold''⟩ | hflat
      · exact Or.inr (hold' hsplit hkey hold'')
      · refine Or.inl (get_of_getBare hsplit ?_)
        rw [getBare_of_empty hfresh, hflat]
    · by_cases hname : name = "issue_number"
      · rw [if_pos hname] at halias
        rcases getBare_joined_source hkeys hold halias with ⟨hkey, hold''⟩ | hflat
        · exact Or.inr (hold' splitAtDot_primary hkey hold'')
        · left
          have hflatNone : fresh.variables.lookup name = none := by
            have hlookup := hnone
            rw [getBare_eq] at hlookup
            have hjoined := (Option.or_eq_none_iff.mp hlookup).2
            rw [lookup_joined hold] at hjoined
            exact (Option.or_eq_none_iff.mp hjoined).2
          rw [get_of_undotted hsplit, getBare_of_empty hfresh, hflatNone, Option.none_or,
            if_pos hname, getBare_of_empty hfresh, hflat]
      · rw [if_neg hname] at halias
        cases halias

/-- **What is restored into a context without namespaces.** -/
theorem restored_joined (hold : old.KeyedOnce) (hfresh : fresh.namespacedVars = [])
    (hissue : "issue_number" ∈ old.checkpointableKeys →
      "primary_issue_number" ∈ old.checkpointableKeys) :
    Restored old fresh (joined old fresh) where
  values _ _ := joined_values hkeys hold hissue
  others key hkey halias := by
    have hspared := spared_afterRestore old.checkpointValues fresh
    rw [afterRestore_of_ok (restore_checkpointValues hkeys)] at hspared
    exact hspared.get_eq (narrow_of_empty hfresh) (hkeys ▸ hkey) (hkeys ▸ halias)
  sources _ _ := joined_sources hkeys hold hfresh

end

/-! ### Along a run -/

theorem keyedOnce_invariant : machine.Invariant KeyedOnce where
  start := by
    rintro context ⟨workDir, runId, keys, rfl⟩
    have hempty : (([] : List (String × String)).map Prod.fst).Nodup := List.nodup_nil
    exact nodup_keys_insert (nodup_keys_insert hempty)
  step context call h := by
    cases call with
    | setCurrentStepId stepId | set key value => exact nodup_keys_insert h
    | restoreCheckpointValues values => exact (spared_afterRestore values context).keyedOnce h

theorem checkpointableKeys_run (calls : List Call) (context : StepContext) :
    (machine.run context calls).checkpointableKeys = context.checkpointableKeys := by
  refine StateMachine.run_keeps (m := machine)
    (P := fun other => other.checkpointableKeys = context.checkpointableKeys) ?_ rfl calls
  intro other call h
  cases call with
  | setCurrentStepId stepId => exact h
  | set key value => exact h
  | restoreCheckpointValues values => exact (spared_afterRestore values other).keys.trans h

end StepContext

def WorkflowInstance.allowing (keys : List String) (tempDir : String) (inst : WorkflowInstance)
    (run : Option RunContext) : StepContext :=
  (inst.buildStepContext tempDir run).withCheckpointableKeys keys

theorem WorkflowInstance.keyedOnce_allowing (keys : List String) (tempDir : String)
    (inst : WorkflowInstance) (run : Option RunContext) :
    (inst.allowing keys tempDir run).KeyedOnce := by
  have hstart : StepContext.machine.start
      (StepContext.build (inst.resolveFinalWorkDir tempDir run) inst.runId) := ⟨_, _, _, rfl⟩
  have hbuilt := StepContext.keyedOnce_invariant.run
    (StepContext.keyedOnce_invariant.start _ hstart)
    ((inst.seeds tempDir run).map fun seed => .set seed.1 seed.2)
  rw [← inst.buildStepContext_eq_run] at hbuilt
  exact hbuilt

open StepContext in
/-- **A context survives its checkpoint.** Under every allowlist, what any run of a context
checkpoints is restored into a fresh context of the same instance, and the restored one reads what
the allowlist carried and nothing else of the old one.  And no JSON whatsoever, restored into a
context whose namespaces hold only allowlisted keys, changes what a key off the allowlist reads. -/
theorem checkpoint_round_trip (tempDir : String) (inst : WorkflowInstance)
    (run run' : Option RunContext) (keys : List String) (calls : List StepContext.Call)
    (hissue : "issue_number" ∈ keys → "primary_issue_number" ∈ keys) :
    (∃ restored, (inst.allowing keys tempDir run').restoreCheckpointValues
          (machine.run (inst.allowing keys tempDir run) calls).checkpointValues = .ok restored ∧
        Restored (machine.run (inst.allowing keys tempDir run) calls)
          (inst.allowing keys tempDir run') restored) ∧
      (inst.allowing keys tempDir run').Narrow ∧
      ∀ (context : StepContext) (values : List (String × Json)) (key : String), context.Narrow →
        ¬ Allowlisted context.checkpointableKeys key →
        (key = "issue_number" → "primary_issue_number" ∉ context.checkpointableKeys) →
          (context.afterRestore values).get key = context.get key := by
  have hempty : (inst.allowing keys tempDir run').namespacedVars = [] :=
    inst.namespacedVars_buildStepContext tempDir run'
  have hold : (machine.run (inst.allowing keys tempDir run) calls).KeyedOnce :=
    keyedOnce_invariant.run (inst.keyedOnce_allowing keys tempDir run) calls
  have hkeys : (machine.run (inst.allowing keys tempDir run) calls).checkpointableKeys = keys :=
    checkpointableKeys_run calls _
  refine ⟨⟨_, restore_checkpointValues hkeys.symm, restored_joined hkeys.symm hold hempty ?_⟩,
    narrow_of_empty hempty, fun context values key hnarrow hkey halias => ?_⟩
  · rw [hkeys]
    exact hissue
  · exact (spared_afterRestore values context).get_eq hnarrow hkey halias

def plainInstance : WorkflowInstance where
  config := { configId := "plain" }
  runId := "run-1"

/-- A step learns the number of the issue and of a pull request. -/
def learnIssue : List StepContext.Call :=
  [.setCurrentStepId "discover", .set "primary_issue_number" "5", .set "pr_number" "9"]

open StepContext in
/-- The checkpoint of such a step under the default allowlist. -/
theorem checkpoint_round_trip_default :
    ∃ restored, (plainInstance.allowing defaultCheckpointableContextKeys "/tmp" none
        ).restoreCheckpointValues (machine.run (plainInstance.allowing
          defaultCheckpointableContextKeys "/tmp" none) learnIssue).checkpointValues = .ok restored ∧
      Restored (machine.run (plainInstance.allowing defaultCheckpointableContextKeys "/tmp" none)
        learnIssue) (plainInstance.allowing defaultCheckpointableContextKeys "/tmp" none) restored :=
  (checkpoint_round_trip "/tmp" plainInstance none none defaultCheckpointableContextKeys learnIssue
    (fun _ => by decide)).1

def readRestored (keys : List String) (run : Option RunContext) (calls : List StepContext.Call)
    (key : String) : Option String :=
  ((plainInstance.allowing keys "/tmp" run).restoreCheckpointValues
    (StepContext.machine.run (plainInstance.allowing keys "/tmp" none) calls).checkpointValues
  ).toOption.bind (StepContext.get key)

/-- Where the allowlist is crossed: by the key that `issue_number` falls back to; by a key that a
checkpoint keeps for itself; by a fresh context that names another issue; and by a restore into a
context that a step has written to. -/
theorem allowlist_crossed :
    readRestored ["primary_issue_number"] none learnIssue "issue_number" = some "5" ∧
      (plainInstance.allowing ["primary_issue_number"] "/tmp" none).get "issue_number" = none ∧
      readRestored ["__step_order"] none [.set "__step_order" "text"] "__step_order" = none ∧
      readRestored defaultCheckpointableContextKeys (some { issueNumber := some 7 }) learnIssue
        "issue_number" = some "7" ∧
      (StepContext.machine.run (plainInstance.allowing defaultCheckpointableContextKeys "/tmp" none)
        learnIssue).get "issue_number" = some "5" ∧
      (((StepContext.build "/work" "run-1").setCurrentStepId "plan").set "summary" "x").get
        "plan.summary" = some "x" ∧
      ((((StepContext.build "/work" "run-1").setCurrentStepId "plan").set "summary" "x"
        ).afterRestore [("__namespaced_vars", .obj [])]).get "plan.summary" = none := by
  decide +kernel

end Luther
