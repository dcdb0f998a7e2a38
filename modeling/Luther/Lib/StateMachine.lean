/-
Machines that answer calls, and what holds along their runs.

A component that is used through its calls is a state machine: where it may start,
and, for a call, what it answers and what it becomes.  Several callers at once are
one list of calls, as long as each call is atomic.

Three rules are wanted of such a machine, and each is an induction that should be
done once.

  * A property that holds at the start and survives a call holds of every state
    the machine can get to.
  * A preorder that relates the states before and after a call relates the two
    ends of every run.
  * Where the property survives only the calls of some kind, it holds along the
    runs made of such calls, and along no more than that.
-/
import Mathlib.Order.Defs.Unbundled

/-- A machine: its possible starts, and the answer and next state of each call. -/
structure StateMachine (State Call Answer : Type*) where
  /-- The states it may start in. -/
  start : State → Prop
  /-- What a call answers, and the state it leaves. -/
  step : State → Call → Answer × State

namespace StateMachine

variable {State Call Answer : Type*}

def next (m : StateMachine State Call Answer) (s : State) (c : Call) : State := (m.step s c).2

def answer (m : StateMachine State Call Answer) (s : State) (c : Call) : Answer := (m.step s c).1

def run (m : StateMachine State Call Answer) (s : State) (calls : List Call) : State :=
  calls.foldl m.next s

/-- Every call of a run, with its answer, in order. -/
def log (m : StateMachine State Call Answer) : State → List Call → List (Call × Answer)
  | _, [] => []
  | s, c :: rest => (c, m.answer s c) :: m.log (m.next s c) rest

/-- The states a machine can get to. -/
inductive Reachable (m : StateMachine State Call Answer) : State → Prop
  | start {s : State} : m.start s → Reachable m s
  | step {s : State} (c : Call) : Reachable m s → Reachable m (m.next s c)

/-- Every call of the run meets `C` in the state it is made in. -/
def Along (m : StateMachine State Call Answer) (C : State → Call → Prop) :
    State → List Call → Prop
  | _, [] => True
  | s, c :: rest => C s c ∧ m.Along C (m.next s c) rest

/-- How many calls of a run meet `C` in the state they are made in. -/
def tally (m : StateMachine State Call Answer) (C : State → Call → Bool) :
    State → List Call → Nat
  | _, [] => 0
  | s, c :: rest => (if C s c then 1 else 0) + m.tally C (m.next s c) rest

variable {m : StateMachine State Call Answer}

@[simp] theorem run_nil (s : State) : m.run s [] = s := rfl

@[simp] theorem run_cons (s : State) (c : Call) (rest : List Call) :
    m.run s (c :: rest) = m.run (m.next s c) rest := rfl

theorem run_append (s : State) (xs ys : List Call) :
    m.run s (xs ++ ys) = m.run (m.run s xs) ys := by
  simp only [run, List.foldl_append]

@[simp] theorem log_nil (s : State) : m.log s [] = [] := rfl

@[simp] theorem log_cons (s : State) (c : Call) (rest : List Call) :
    m.log s (c :: rest) = (c, m.answer s c) :: m.log (m.next s c) rest := rfl

@[simp] theorem along_nil (C : State → Call → Prop) (s : State) : m.Along C s [] := trivial

@[simp] theorem along_cons (C : State → Call → Prop) (s : State) (c : Call) (rest : List Call) :
    m.Along C s (c :: rest) ↔ C s c ∧ m.Along C (m.next s c) rest := Iff.rfl

/-- Whether the calls of a run meet a condition is found by making them. -/
instance decidableAlong {C : State → Call → Prop} [∀ s c, Decidable (C s c)] :
    (s : State) → (calls : List Call) → Decidable (m.Along C s calls)
  | _, [] => isTrue trivial
  | s, c :: rest =>
    have : Decidable (m.Along C (m.next s c) rest) := decidableAlong (m.next s c) rest
    inferInstanceAs (Decidable (C s c ∧ m.Along C (m.next s c) rest))

variable {s : State} {P : State → Prop} {f : State → Nat} {calls : List Call}
  {C D : State → Call → Prop}

theorem Reachable.run (h : m.Reachable s) (calls : List Call) :
    m.Reachable (m.run s calls) := by
  induction calls generalizing s with
  | nil => exact h
  | cons c rest ih => exact ih (h.step c)

/-! ### Invariants -/

/-- A property that every start has and every call keeps. -/
structure Invariant (m : StateMachine State Call Answer) (P : State → Prop) : Prop where
  start : ∀ s, m.start s → P s
  step : ∀ s c, P s → P (m.next s c)

/-- **An invariant holds of every reachable state.** -/
theorem Invariant.reachable (h : m.Invariant P) (hs : m.Reachable s) : P s := by
  induction hs with
  | start h0 => exact h.start _ h0
  | step c _ ih => exact h.step _ c ih

theorem run_keeps (hstep : ∀ s c, P s → P (m.next s c)) (hs : P s) (calls : List Call) :
    P (m.run s calls) := by
  induction calls generalizing s with
  | nil => exact hs
  | cons c rest ih => exact ih (hstep s c hs)

theorem Invariant.run (h : m.Invariant P) (hs : P s) (calls : List Call) : P (m.run s calls) :=
  run_keeps h.step hs calls

/-- **What every call only moves forward, a run only moves forward.** -/
theorem run_rel {R : State → State → Prop} [Std.Refl R] [IsTrans State R]
    (hstep : ∀ s c, R s (m.next s c)) (s : State) (calls : List Call) :
    R s (m.run s calls) := by
  induction calls generalizing s with
  | nil => exact Std.Refl.refl s
  | cons c rest ih => exact IsTrans.trans _ _ _ (hstep s c) (ih _)

/-- **What no call makes larger, no run makes larger.** -/
theorem run_antitone (hstep : ∀ s c, f (m.next s c) ≤ f s) (s : State) (calls : List Call) :
    f (m.run s calls) ≤ f s := by
  induction calls generalizing s with
  | nil => exact Nat.le_refl _
  | cons c rest ih => exact Nat.le_trans (ih _) (hstep s c)

/-- **A machine that every call brings nearer to its end is there after as many calls as its
measure, and one.** -/
theorem run_done {D : State → Prop} (hkeep : ∀ s c, D s → D (m.next s c))
    (hstep : ∀ s c, ¬ D s → D (m.next s c) ∨ f (m.next s c) < f s) (h : D s ∨ f s < calls.length) :
    D (m.run s calls) := by
  induction calls generalizing s with
  | nil =>
    rcases h with hdone | hlt
    · exact hdone
    · exact absurd hlt (Nat.not_lt_zero _)
  | cons c rest ih =>
    refine ih ?_
    by_cases hdone : D s
    · exact Or.inl (hkeep s c hdone)
    · rcases hstep s c hdone with hnext | hlt
      · exact Or.inl hnext
      · have hlength := h.resolve_left hdone
        rw [List.length_cons] at hlength
        exact Or.inr (by omega)

/-- **What holds of a state and the calls before it, and survives one more call, holds of every
run and its calls.** -/
theorem run_history {P : List Call → State → Prop}
    (hstep : ∀ past s c, P past s → P (past ++ [c]) (m.next s c)) {past : List Call} (h : P past s)
    (calls : List Call) : P (past ++ calls) (m.run s calls) := by
  induction calls generalizing past s with
  | nil => simpa using h
  | cons c rest ih => simpa using ih (hstep past s c h)

/-! ### Simulation -/

/-- **A machine that another one follows through some of its calls.** What relates the two and the
calls to come, and survives a call that is followed and one that is passed over, relates the ends of
every run. -/
theorem run_followed {State' Call' Answer' : Type*} {a : StateMachine State' Call' Answer'}
    {f : Call → Option Call'} {R : List Call → State → State' → Prop}
    (hseen : ∀ c c' rest s t, f c = some c' → R (c :: rest) s t →
      R rest (m.next s c) (a.next t c'))
    (hpassed : ∀ c rest s t, f c = none → R (c :: rest) s t → R rest (m.next s c) t)
    {t : State'} (h : R calls s t) : R [] (m.run s calls) (a.run t (calls.filterMap f)) := by
  induction calls generalizing s t with
  | nil => exact h
  | cons c rest ih =>
    cases hc : f c with
    | none =>
      rw [List.filterMap_cons_none hc]
      exact ih (hpassed c rest s t hc h)
    | some c' =>
      rw [List.filterMap_cons_some hc]
      exact ih (hseen c c' rest s t hc h)

/-! ### How many calls of a run are of a kind -/

@[simp] theorem tally_nil (C : State → Call → Bool) (s : State) : m.tally C s [] = 0 := rfl

@[simp] theorem tally_cons (C : State → Call → Bool) (s : State) (c : Call) (rest : List Call) :
    m.tally C s (c :: rest) = (if C s c then 1 else 0) + m.tally C (m.next s c) rest := rfl

section

variable (hgone : ∀ s c, ¬ P s → ¬ P (m.next s c))

include hgone

theorem tally_eq_zero {C : State → Call → Bool} (hneeds : ∀ s c, C s c = true → P s) (hs : ¬ P s)
    (calls : List Call) : m.tally C s calls = 0 := by
  induction calls generalizing s with
  | nil => rfl
  | cons c rest ih => rw [tally_cons, ih (hgone s c hs), if_neg fun hc => hs (hneeds s c hc)]

/-- **What a call needs and uses up, and no call gives back, is used up once.** -/
theorem tally_le_one {C : State → Call → Bool}
    (huses : ∀ s c, C s c = true → P s ∧ ¬ P (m.next s c)) (s : State) (calls : List Call) :
    m.tally C s calls ≤ 1 := by
  induction calls generalizing s with
  | nil => exact Nat.zero_le 1
  | cons c rest ih =>
    rw [tally_cons]
    by_cases hc : C s c = true
    · have hrest : m.tally C (m.next s c) rest = 0 :=
        tally_eq_zero hgone (fun s c hc => (huses s c hc).1) (huses s c hc).2 rest
      rw [if_pos hc]
      omega
    · rw [if_neg hc]
      have hrest := ih (m.next s c)
      omega

/-- **A measure that a kind of calls raises by one, and the others leave, counts them.** -/
theorem tally_measure {C : State → Call → Bool}
    (hstep : ∀ s c, P s → P (m.next s c) → f (m.next s c) = f s + if C s c then 1 else 0)
    (hs : P s) (hend : P (m.run s calls)) : f (m.run s calls) = f s + m.tally C s calls := by
  induction calls generalizing s with
  | nil => rfl
  | cons c rest ih =>
    have hnext : P (m.next s c) :=
      Classical.byContradiction fun hnot => run_keeps hgone hnot rest hend
    rw [run_cons, ih hnext hend, hstep s c hs hnext, tally_cons]
    omega

end

/-! ### Runs whose calls meet a condition -/

theorem along_append {xs ys : List Call} :
    m.Along C s (xs ++ ys) ↔ m.Along C s xs ∧ m.Along C (m.run s xs) ys := by
  induction xs generalizing s with
  | nil => simp
  | cons x rest ih => simp only [List.cons_append, along_cons, run_cons, ih, and_assoc]

theorem Along.mono (h : m.Along C s calls) (hCD : ∀ s c, C s c → D s c) : m.Along D s calls := by
  induction calls generalizing s with
  | nil => trivial
  | cons c rest ih => exact ⟨hCD s c h.1, ih h.2⟩

/-- **Conditions that agree in every state an invariant allows agree along every run.** -/
theorem along_congr (hinv : m.Invariant P) (hCD : ∀ s c, P s → (C s c ↔ D s c)) (hs : P s)
    (calls : List Call) :
    m.Along C s calls ↔ m.Along D s calls := by
  induction calls generalizing s with
  | nil => exact Iff.rfl
  | cons c rest ih => rw [along_cons, along_cons, hCD s c hs, ih (hinv.step s c hs)]

/-- **What the calls of a kind keep, a run of such calls keeps.** -/
theorem Along.invariant (hstep : ∀ s c, C s c → P s → P (m.next s c)) (h : m.Along C s calls)
    (hs : P s) : P (m.run s calls) := by
  induction calls generalizing s with
  | nil => exact hs
  | cons c rest ih => exact ih h.2 (hstep s c h.1 hs)

/-- **What holds of a state and the calls before it, and survives one more call of a kind, holds
of every run of such calls.** -/
theorem Along.history {P : List Call → State → Prop}
    (hstep : ∀ past s c, C s c → P past s → P (past ++ [c]) (m.next s c)) {past : List Call}
    (h : m.Along C s calls) (hs : P past s) :
    P (past ++ calls) (m.run s calls) := by
  induction calls generalizing past s with
  | nil => simpa using hs
  | cons c rest ih => simpa using ih h.2 (hstep past s c h.1 hs)

/-- **What holds of every answer given in a state the run keeps, holds of its log.** -/
theorem Along.log_forall {Q : Call → Answer → Prop}
    (hstep : ∀ s c, C s c → P s → P (m.next s c) ∧ Q c (m.answer s c)) (h : m.Along C s calls)
    (hs : P s) :
    ∀ e ∈ m.log s calls, Q e.1 e.2 := by
  induction calls generalizing s with
  | nil => simp
  | cons c rest ih =>
    obtain ⟨hnext, hanswer⟩ := hstep s c h.1 hs
    intro e he
    rcases List.mem_cons.mp he with rfl | hrest
    · exact hanswer
    · exact ih h.2 hnext e hrest

/-- **A condition on the calls, with what it keeps, gives another along the run.** -/
theorem Along.gives (hstep : ∀ s c, C s c → P s → P (m.next s c) ∧ D s c) (h : m.Along C s calls)
    (hs : P s) : m.Along D s calls := by
  induction calls generalizing s with
  | nil => trivial
  | cons c rest ih =>
    obtain ⟨hnext, hcall⟩ := hstep s c h.1 hs
    exact ⟨hcall, ih h.2 hnext⟩

/-- **What every call of a kind uses up of a stock is bounded by the stock.** -/
theorem Along.tally_le {D : State → Call → Bool}
    (hstep : ∀ s c, C s c → P s → P (m.next s c) ∧ f (m.next s c) + (if D s c then 1 else 0) ≤ f s)
    (h : m.Along C s calls) (hs : P s) :
    m.tally D s calls ≤ f s := by
  induction calls generalizing s with
  | nil => exact Nat.zero_le _
  | cons c rest ih =>
    obtain ⟨hnext, huses⟩ := hstep s c h.1 hs
    have hrest := ih h.2 hnext
    rw [tally_cons]
    omega

end StateMachine
