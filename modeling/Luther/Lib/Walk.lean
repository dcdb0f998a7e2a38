/-
A walk over a graph that is given by its edges.

The walk takes a node off a stack, and where it is not marked yet, marks it and puts the
ends of its edges on the stack.  A node is marked once, so an edge is put on the stack at
most once: as many passes as there are edges, and one for the start, empty the stack.  What
is marked then is closed under the edges.
-/
import Mathlib.Data.List.Count

namespace Walk

variable {Node : Type*} [DecidableEq Node]

section

variable (edges : List (Node × Node))

def ends (x : Node) : List Node :=
  (edges.filter fun e => e.1 = x).map Prod.snd

/-- A number of passes: what is marked after them, from a stack and what is marked before. -/
def explore (edges : List (Node × Node)) : Nat → List Node → List Node → List Node
  | 0, _, seen => seen
  | _ + 1, [], seen => seen
  | fuel + 1, x :: stack, seen =>
    if x ∈ seen then explore edges fuel stack seen
    else explore edges fuel ((ends edges x).reverse ++ stack) (x :: seen)

def reachable (start : Node) : List Node :=
  explore edges (edges.length + 1) [start] []

/-- The edges that have not been put on the stack. -/
def unwalked (seen : List Node) : Nat :=
  edges.countP fun e => e.1 ∉ seen

end

variable {edges : List (Node × Node)}

theorem mem_ends {x y : Node} : y ∈ ends edges x ↔ (x, y) ∈ edges := by
  unfold ends
  constructor
  · intro h
    obtain ⟨⟨a, b⟩, hmem, rfl⟩ := List.mem_map.mp h
    obtain ⟨hedge, hfrom⟩ := List.mem_filter.mp hmem
    have hax : a = x := by simpa using hfrom
    exact hax ▸ hedge
  · intro h
    exact List.mem_map.mpr ⟨(x, y), List.mem_filter.mpr ⟨h, by simp⟩, rfl⟩

theorem unwalked_cons {x : Node} {seen : List Node} (h : x ∉ seen) :
    unwalked edges (x :: seen) + (ends edges x).length = unwalked edges seen := by
  unfold unwalked ends
  rw [List.length_map]
  induction edges with
  | nil => rfl
  | cons e rest ih =>
    simp only [List.mem_cons] at ih
    by_cases hx : e.1 = x
    · simp only [List.countP_cons, List.filter_cons, hx, List.mem_cons, true_or, not_true,
        decide_false, decide_true, if_true, h, not_false_eq_true]
      simp only [Bool.false_eq_true, if_false, List.length_cons]
      omega
    · simp only [List.countP_cons, List.filter_cons, hx, List.mem_cons, false_or,
        decide_false, Bool.false_eq_true, if_false]
      omega

/-- What is known of a walk under way: the edges of a marked node lead to what is marked or on
the stack. -/
def Open (edges : List (Node × Node)) (stack seen : List Node) : Prop :=
  ∀ e ∈ edges, e.1 ∈ seen → e.2 ∈ seen ∨ e.2 ∈ stack

/-- A walk that has passes enough keeps what is marked, marks what is on the stack, and is
closed under the edges. -/
theorem explore_closed (fuel : Nat) {stack seen : List Node} (hopen : Open edges stack seen)
    (hfuel : unwalked edges seen + stack.length ≤ fuel) :
    (∀ x, x ∈ seen ∨ x ∈ stack → x ∈ explore edges fuel stack seen)
      ∧ ∀ e ∈ edges, e.1 ∈ explore edges fuel stack seen → e.2 ∈ explore edges fuel stack seen := by
  induction fuel generalizing stack seen with
  | zero =>
    have hempty : stack = [] := List.length_eq_zero_iff.mp (by omega)
    subst hempty
    refine ⟨fun x hx => by simpa [explore] using hx, fun e he hfrom => ?_⟩
    have hto := hopen e he (by simpa [explore] using hfrom)
    simpa [explore] using hto
  | succ fuel ih =>
    cases stack with
    | nil =>
      refine ⟨fun x hx => by simpa [explore] using hx, fun e he hfrom => ?_⟩
      have hto := hopen e he (by simpa [explore] using hfrom)
      simpa [explore] using hto
    | cons x stack =>
      rw [List.length_cons] at hfuel
      unfold explore
      by_cases hx : x ∈ seen
      · rw [if_pos hx]
        have hopen' : Open edges stack seen := by
          intro e he hfrom
          rcases hopen e he hfrom with hto | hto
          · exact Or.inl hto
          · rcases List.mem_cons.mp hto with heq | hto
            · exact Or.inl (heq ▸ hx)
            · exact Or.inr hto
        obtain ⟨hkept, hclosed⟩ := ih hopen' (by omega)
        refine ⟨fun y hy => hkept y ?_, hclosed⟩
        rcases hy with hy | hy
        · exact Or.inl hy
        · rcases List.mem_cons.mp hy with rfl | hy
          · exact Or.inl hx
          · exact Or.inr hy
      · rw [if_neg hx]
        have hopen' : Open edges ((ends edges x).reverse ++ stack) (x :: seen) := by
          intro e he hfrom
          rcases List.mem_cons.mp hfrom with heq | hfrom
          · have hend : e.2 ∈ ends edges x := mem_ends.mpr (by rw [← heq]; exact he)
            exact Or.inr (List.mem_append_left _ (List.mem_reverse.mpr hend))
          · rcases hopen e he hfrom with hto | hto
            · exact Or.inl (List.mem_cons_of_mem _ hto)
            · rcases List.mem_cons.mp hto with heq | hto
              · exact Or.inl (List.mem_cons.mpr (Or.inl heq))
              · exact Or.inr (List.mem_append_right _ hto)
        have hleft : unwalked edges (x :: seen) + (ends edges x).length = unwalked edges seen :=
          unwalked_cons hx
        obtain ⟨hkept, hclosed⟩ := ih hopen' (by
          rw [List.length_append, List.length_reverse]
          omega)
        refine ⟨fun y hy => hkept y ?_, hclosed⟩
        rcases hy with hy | hy
        · exact Or.inl (List.mem_cons_of_mem _ hy)
        · rcases List.mem_cons.mp hy with rfl | hy
          · exact Or.inl List.mem_cons_self
          · exact Or.inr (List.mem_append_right _ hy)

theorem start_reachable (edges : List (Node × Node)) (start : Node) :
    start ∈ reachable edges start ∧
      ∀ e ∈ edges, e.1 ∈ reachable edges start → e.2 ∈ reachable edges start := by
  have hopen : Open edges [start] [] := fun e _ h => absurd h (by simp)
  have hfuel : unwalked edges [] + [start].length ≤ edges.length + 1 :=
    Nat.succ_le_succ List.countP_le_length
  obtain ⟨hkept, hclosed⟩ := explore_closed (edges.length + 1) hopen hfuel
  exact ⟨hkept start (Or.inr List.mem_cons_self), hclosed⟩

theorem mem_reachable (edges : List (Node × Node)) (start : Node) :
    start ∈ reachable edges start :=
  (start_reachable edges start).1

/-- **What the walk marks is closed under the edges.** -/
theorem reachable_step {start x y : Node} (hedge : (x, y) ∈ edges)
    (hx : x ∈ reachable edges start) : y ∈ reachable edges start :=
  (start_reachable edges start).2 (x, y) hedge hx

end Walk
