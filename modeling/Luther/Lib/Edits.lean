/-
Edits of a map, and stages that make them.

An edit puts a value under its key, or fills in one where the key has none, or leaves it.  Edits
whose keys differ do not disturb each other, and a map that every edit leaves as it is is left by
all of them.

A stage changes a value in place and may fail; what it has changed by then stays changed.  Stages
are run one after the other until one fails.
-/
import Luther.Lib.Assoc

namespace Edits

variable {Key Value : Type*}

/-- What an edit makes of the value of its key. -/
inductive Change (Value : Type*) where
  | keep
  | put (v : Value)
  | fill (v : Value)

def Change.on : Change Value → Option Value → Option Value
  | keep, old => old
  | put v, _ => some v
  | fill v, old => old.or (some v)

theorem Change.on_on (change : Change Value) (old : Option Value) :
    change.on (change.on old) = change.on old := by
  cases change with
  | keep => rfl
  | put v => rfl
  | fill v => cases old <;> rfl

variable [DecidableEq Key]

def edit (key : Key) (change : Change Value) (m : List (Key × Value)) : List (Key × Value) :=
  match change with
  | .keep => m
  | .put v => Assoc.insert key v m
  | .fill v => if (m.lookup key).isSome then m else Assoc.insert key v m

def edits (changes : List (Key × Change Value)) (m : List (Key × Value)) : List (Key × Value) :=
  changes.foldl (fun m e => edit e.1 e.2 m) m

/-- Every edit leaves the map as it is. -/
def Settled (changes : List (Key × Change Value)) (m : List (Key × Value)) : Prop :=
  ∀ e ∈ changes, e.2.on (m.lookup e.1) = m.lookup e.1

variable {key other : Key} {change : Change Value} {m m' : List (Key × Value)}
  {changes : List (Key × Change Value)}

@[simp] theorem edits_nil (m : List (Key × Value)) : edits [] m = m := rfl

@[simp] theorem edits_cons (e : Key × Change Value) (rest : List (Key × Change Value))
    (m : List (Key × Value)) : edits (e :: rest) m = edits rest (edit e.1 e.2 m) := rfl

@[simp] theorem lookup_edit_self (key : Key) (change : Change Value) (m : List (Key × Value)) :
    (edit key change m).lookup key = change.on (m.lookup key) := by
  cases change with
  | keep => rfl
  | put v => exact Assoc.lookup_insert_self key v m
  | fill v =>
    unfold edit Change.on
    cases hkey : m.lookup key with
    | none => simp
    | some old => simpa using hkey

theorem lookup_edit_ne (h : other ≠ key) (change : Change Value) (m : List (Key × Value)) :
    (edit key change m).lookup other = m.lookup other := by
  cases change with
  | keep => rfl
  | put v => exact Assoc.lookup_insert_ne h v m
  | fill v =>
    unfold edit
    dsimp only
    by_cases hkey : (m.lookup key).isSome = true
    · rw [if_pos hkey]
    · rw [if_neg hkey]
      exact Assoc.lookup_insert_ne h v m

/-- **Edits leave the keys that they do not name.** -/
theorem lookup_edits_of_notMem (h : other ∉ changes.map Prod.fst) (m : List (Key × Value)) :
    (edits changes m).lookup other = m.lookup other := by
  induction changes generalizing m with
  | nil => rfl
  | cons e rest ih =>
    rw [List.map_cons, List.mem_cons, not_or] at h
    rw [edits_cons, ih h.2, lookup_edit_ne h.1]

/-- **Each edit of a list without repeated keys is made.** -/
theorem lookup_edits_mem (hkeys : (changes.map Prod.fst).Nodup) (h : (key, change) ∈ changes)
    (m : List (Key × Value)) : (edits changes m).lookup key = change.on (m.lookup key) := by
  induction changes generalizing m with
  | nil => cases h
  | cons e rest ih =>
    rw [List.map_cons, List.nodup_cons] at hkeys
    rw [edits_cons]
    rcases List.mem_cons.mp h with rfl | hrest
    · rw [lookup_edits_of_notMem hkeys.1, lookup_edit_self]
    · have hne : key ≠ e.1 := fun heq => hkeys.1 (heq ▸ List.mem_map_of_mem (f := Prod.fst) hrest)
      rw [ih hkeys.2 hrest, lookup_edit_ne hne]

theorem Settled.congr (h : Settled changes m)
    (hsame : ∀ k ∈ changes.map Prod.fst, m'.lookup k = m.lookup k) : Settled changes m' := by
  intro e he
  rw [hsame e.1 (List.mem_map_of_mem he)]
  exact h e he

theorem Settled.lookup_put {v : Value} (h : Settled changes m) (hmem : (key, .put v) ∈ changes) :
    m.lookup key = some v :=
  (h _ hmem).symm

/-- **Edits that have been made leave the map as it is.** -/
theorem settled_edits (hkeys : (changes.map Prod.fst).Nodup) (m : List (Key × Value)) :
    Settled changes (edits changes m) := by
  intro e he
  rw [lookup_edits_mem hkeys he, Change.on_on]

theorem insert_of_lookup {v : Value} (h : m.lookup key = some v) : Assoc.insert key v m = m := by
  induction m with
  | nil => cases h
  | cons e rest ih =>
    obtain ⟨k, w⟩ := e
    rw [List.lookup_cons] at h
    unfold Assoc.insert
    by_cases hk : k = key
    · subst hk
      rw [beq_self_eq_true] at h
      rw [if_pos rfl, Option.some.inj h]
    · have hne : (key == k) = false := beq_eq_false_iff_ne.mpr fun heq => hk heq.symm
      rw [hne] at h
      rw [if_neg hk, ih h]

theorem edit_of_settled (h : change.on (m.lookup key) = m.lookup key) : edit key change m = m := by
  cases change with
  | keep => rfl
  | put v => exact insert_of_lookup h.symm
  | fill v =>
    have hsome : (m.lookup key).isSome = true := by
      rw [← h, Change.on, Option.isSome_or, Option.isSome_some, Bool.or_true]
    exact if_pos hsome

theorem Settled.edits_eq (h : Settled changes m) : edits changes m = m := by
  induction changes with
  | nil => rfl
  | cons e rest ih =>
    rw [edits_cons, edit_of_settled (h e List.mem_cons_self)]
    exact ih fun other hother => h other (List.mem_cons_of_mem _ hother)

end Edits

/-! ### Stages -/

/-- A change of a value in place that may fail. -/
abbrev Stage (Error State : Type*) := State → Except Error Unit × State

namespace Stage

variable {Error State : Type*} {stages xs ys : List (Stage Error State)} {s : State}

def run : List (Stage Error State) → Stage Error State
  | [], s => (.ok (), s)
  | stage :: rest, s =>
    match stage s with
    | (.error e, s') => (.error e, s')
    | (.ok (), s') => run rest s'

section

variable (stage : Stage Error State)

/-- The stage succeeds. -/
def Succeeds (s : State) : Prop := (stage s).1 = .ok ()

def check (p : State → Except Error Unit) : Stage Error State := fun s => (p s, s)

/-- A stage that changes everything it changes at its end. -/
def update (f : State → Except Error State) : Stage Error State := fun s =>
  match f s with
  | .error e => (.error e, s)
  | .ok s' => (.ok (), s')

@[simp] theorem run_nil (s : State) : run ([] : List (Stage Error State)) s = (.ok (), s) := rfl

/-- **A failure leaves what the stages before it and its own have made; a success goes on.** -/
theorem run_cons (rest : List (Stage Error State)) (s : State) :
    (¬ stage.Succeeds s ∧ ¬ Succeeds (run (stage :: rest)) s ∧
        (run (stage :: rest) s).2 = (stage s).2) ∨
      (stage.Succeeds s ∧ run (stage :: rest) s = run rest (stage s).2) := by
  unfold Succeeds
  cases hstage : stage s with
  | mk answer s' =>
    cases answer with
    | error e => exact Or.inl ⟨by simp, by simp [run, hstage], by simp [run, hstage]⟩
    | ok u => exact Or.inr ⟨rfl, by simp [run, hstage]⟩

theorem run_append (xs ys : List (Stage Error State)) (s : State) :
    (¬ Succeeds (run xs) s ∧ ¬ Succeeds (run (xs ++ ys)) s ∧
        (run (xs ++ ys) s).2 = (run xs s).2) ∨
      (Succeeds (run xs) s ∧ run (xs ++ ys) s = run ys (run xs s).2) := by
  induction xs generalizing s with
  | nil => exact Or.inr ⟨rfl, rfl⟩
  | cons stage rest ih =>
    unfold Succeeds at *
    rw [List.cons_append]
    cases hstage : stage s with
    | mk answer s' =>
      cases answer with
      | error e => exact Or.inl ⟨by simp [run, hstage], by simp [run, hstage], by simp [run, hstage]⟩
      | ok u => simpa [run, hstage] using ih s'

@[simp] theorem run_singleton (s : State) : run [stage] s = stage s := by
  unfold run
  cases hstage : stage s with
  | mk answer s' => cases answer <;> rfl

end

/-- **What every stage keeps, a run keeps.** -/
theorem run_keeps {P : State → Prop} (h : ∀ stage ∈ stages, ∀ s, P s → P (stage s).2)
    (hs : P s) : P (run stages s).2 := by
  induction stages generalizing s with
  | nil => exact hs
  | cons stage rest ih =>
    have hnext := h stage List.mem_cons_self s hs
    rcases run_cons stage rest s with ⟨-, -, heq⟩ | ⟨-, heq⟩
    · rw [heq]
      exact hnext
    · rw [heq]
      exact ih (fun other hother => h other (List.mem_cons_of_mem _ hother)) hnext

/-- **A value that every stage leaves as it is is left by the run.** -/
theorem run_fixed (h : ∀ stage ∈ stages, (stage s).2 = s) : (run stages s).2 = s := by
  induction stages with
  | nil => rfl
  | cons stage rest ih =>
    rcases run_cons stage rest s with ⟨-, -, heq⟩ | ⟨-, heq⟩
    · rw [heq]
      exact h stage List.mem_cons_self
    · rw [heq, h stage List.mem_cons_self]
      exact ih fun other hother => h other (List.mem_cons_of_mem _ hother)

/-- **What a stage of a run brings about, and the later ones keep, holds at its end.** -/
theorem run_brings {stage : Stage Error State} {P : State → Prop}
    (h : Succeeds (run (xs ++ stage :: ys)) s)
    (hbrings : stage.Succeeds (run xs s).2 → P (stage (run xs s).2).2)
    (hkeeps : ∀ later ∈ ys, ∀ s, P s → P (later s).2) : P (run (xs ++ stage :: ys) s).2 := by
  rcases run_append xs (stage :: ys) s with ⟨-, hfail, -⟩ | ⟨-, heq⟩
  · exact absurd h hfail
  · rcases run_cons stage ys (run xs s).2 with ⟨-, hfail, -⟩ | ⟨hstage, hrest⟩
    · refine absurd ?_ hfail
      unfold Succeeds at *
      rw [← heq]
      exact h
    · rw [heq, hrest]
      exact run_keeps hkeeps (hbrings hstage)

@[simp] theorem check_snd (p : State → Except Error Unit) (s : State) : (check p s).2 = s := rfl

theorem update_cases (f : State → Except Error State) (s : State) :
    (∃ e, f s = .error e ∧ update f s = (.error e, s)) ∨
      ∃ s', f s = .ok s' ∧ update f s = (.ok (), s') := by
  unfold update
  cases f s with
  | error e => exact Or.inl ⟨e, rfl, rfl⟩
  | ok s' => exact Or.inr ⟨s', rfl, rfl⟩

end Stage
