/-
Computations that change a state and may end early.

A step of a workflow runs commands and writes files one after the other.  It may end with an
error at each of them, or be cut off, and what it has changed by then stays changed.  So the
error does not take the state with it: a computation ends with an answer or an error, and with
a state in both cases.

What is wanted of such a computation is said of its end, from one state: `Meets` is that
statement, and it goes backwards through the computation one command at a time.
-/
import Mathlib.Logic.Basic
import Mathlib.Order.Defs.Unbundled

/-- A computation over a state that may end with an error. -/
abbrev Effect (State α : Type) : Type := ExceptT String (StateM State) α

namespace Effect

variable {State α β : Type}

/-- The computation that a function from states to ends is. -/
def of (f : State → Except String α × State) : Effect State α := fun s => f s

def state : Effect State State := of fun s => (.ok s, s)

def ends (m : Effect State α) (s : State) : Except String α × State := m s

/-- From the state, the computation ends as the condition says. -/
def Meets (m : Effect State α) (s : State) (post : Except String α → State → Prop) : Prop :=
  post (m.ends s).1 (m.ends s).2

def onPart {Part : Type} (part : State → Part) (restore : Part → State → State)
    (m : Effect Part α) : Effect State α :=
  of fun s => ((m.ends (part s)).1, restore (m.ends (part s)).2 s)

def attempt (m : Effect State α) : Effect State (Except String α) :=
  of fun s => (.ok (m.ends s).1, (m.ends s).2)

@[simp] theorem ends_of (f : State → Except String α × State) (s : State) :
    (of f).ends s = f s := rfl

@[simp] theorem ends_pure (a : α) (s : State) :
    (pure a : Effect State α).ends s = (.ok a, s) := rfl

@[simp] theorem ends_throw (error : String) (s : State) :
    (throw error : Effect State α).ends s = (.error error, s) := rfl

@[simp] theorem ends_state (s : State) : (state : Effect State State).ends s = (.ok s, s) := rfl

theorem ends_bind (m : Effect State α) (f : α → Effect State β) (s : State) :
    (m >>= f).ends s =
      match m.ends s with
      | (.ok a, s') => (f a).ends s'
      | (.error error, s') => (.error error, s') := by
  show (ExceptT.bindCont f (m s).1) (m s).2 = _
  unfold ends
  cases hm : m s with
  | mk answer s' => cases answer <;> rfl

variable {m : Effect State α} {s : State} {post post' : Except String α → State → Prop}

theorem Meets.mono (h : m.Meets s post) (himp : ∀ answer s', post answer s' → post' answer s') :
    m.Meets s post' :=
  himp _ _ h

theorem meets_pure {a : α} (h : post (.ok a) s) : (pure a : Effect State α).Meets s post := h

theorem meets_throw {error : String} (h : post (.error error) s) :
    (throw error : Effect State α).Meets s post := h

/-- **A computation is followed by another.** -/
theorem meets_bind {f : α → Effect State β} {post : Except String β → State → Prop}
    (h : m.Meets s fun answer s' =>
      match answer with
      | .ok a => (f a).Meets s' post
      | .error error => post (.error error) s') :
    (m >>= f).Meets s post := by
  unfold Meets at *
  rw [ends_bind]
  cases hm : m.ends s with
  | mk answer s' =>
    rw [hm] at h
    cases answer with
    | ok a => exact h
    | error error => exact h

theorem meets_attempt {f : Except String α → Effect State β} {post : Except String β → State → Prop}
    (h : m.Meets s fun answer s' => (f answer).Meets s' post) :
    (attempt m >>= f).Meets s post :=
  meets_bind h

theorem meets_onPart {Part : Type} {part : State → Part} {restore : Part → State → State}
    {m : Effect Part α} (h : m.Meets (part s) fun answer p => post answer (restore p s)) :
    (onPart part restore m).Meets s post := h

theorem meets_state {f : State → Effect State β} {post : Except String β → State → Prop}
    (h : (f s).Meets s post) : (state >>= f).Meets s post :=
  meets_bind h

theorem meets_ite {c : Prop} [Decidable c] {yes no : Effect State α}
    (hyes : c → yes.Meets s post) (hno : ¬c → no.Meets s post) :
    (if c then yes else no).Meets s post := by
  by_cases hc : c
  · rw [if_pos hc]
    exact hyes hc
  · rw [if_neg hc]
    exact hno hc

/-! ### Effects that only move forward -/

/-- However the computation ends, its state is related to the one it began with. -/
def Keeps (m : Effect State α) (R : State → State → Prop) : Prop := ∀ s, R s (m.ends s).2

variable {R : State → State → Prop}

theorem keeps_of {f : State → Except String α × State} (h : ∀ s, R s (f s).2) :
    (of f).Keeps R := h

theorem keeps_pure [Std.Refl R] (a : α) : (pure a : Effect State α).Keeps R :=
  fun s => Std.Refl.refl s

theorem keeps_throw [Std.Refl R] (error : String) : (throw error : Effect State α).Keeps R :=
  fun s => Std.Refl.refl s

theorem keeps_state [Std.Refl R] : (state : Effect State State).Keeps R :=
  fun s => Std.Refl.refl s

/-- **What two computations keep, they keep one after the other.** -/
theorem keeps_bind [IsTrans State R] {f : α → Effect State β} (hm : m.Keeps R)
    (hf : ∀ a, (f a).Keeps R) : (m >>= f).Keeps R := by
  intro s
  have hfirst := hm s
  rw [ends_bind]
  cases hends : m.ends s with
  | mk answer s' =>
    rw [hends] at hfirst
    cases answer with
    | ok a => exact IsTrans.trans _ _ _ hfirst (hf a s')
    | error error => exact hfirst

theorem keeps_ite {c : Prop} [Decidable c] {yes no : Effect State α} (hyes : yes.Keeps R)
    (hno : no.Keeps R) : (if c then yes else no).Keeps R := by
  by_cases hc : c
  · rw [if_pos hc]
    exact hyes
  · rw [if_neg hc]
    exact hno

end Effect
