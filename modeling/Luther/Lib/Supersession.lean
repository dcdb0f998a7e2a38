/-
Merging elements by their keys, where some supersede others.

Elements are added one after the other.  One that wins first removes the others that are about the
same thing, and one whose key is held already is dropped.  What becomes of the elements of one key
does not depend on those of another, so the merge is a fold over each key by itself: its slot holds
an element or none.  Merging the same elements again then changes nothing, as long as an element
that is superseded does not keep the key of another subject's.
-/
import Mathlib.Data.List.Sort

/-- How elements are merged. -/
structure Supersession (α K I : Type*) where
  /-- The key of an element. -/
  key : α → Option K
  /-- Whether it supersedes others. -/
  wins : α → Bool
  /-- What it is about. -/
  subject : α → I

namespace Supersession

variable {α K I : Type*} (d : Supersession α K I)

def keys (s : List α) : List K := s.filterMap d.key

/-- The second is removed when the first is added. -/
def Supersedes (f b : α) : Prop := d.wins f = true ∧ d.wins b = false ∧ d.subject b = d.subject f

/-- No two elements have one key. -/
def Distinct (s : List α) : Prop := (d.keys s).Nodup

section Keys

variable {d} {s : List α} {a : α} {k : K}

theorem mem_keys : k ∈ d.keys s ↔ ∃ b ∈ s, d.key b = some k := List.mem_filterMap

theorem distinct_cons :
    d.Distinct (a :: s) ↔ (∀ k, d.key a = some k → k ∉ d.keys s) ∧ d.Distinct s := by
  unfold Distinct keys
  cases hkey : d.key a with
  | none => simp [List.filterMap_cons_none hkey]
  | some k => simp [List.filterMap_cons_some hkey]

theorem Distinct.filter (h : d.Distinct s) (p : α → Bool) : d.Distinct (s.filter p) :=
  List.Nodup.sublist (List.filter_sublist.filterMap d.key) h

theorem Distinct.perm {s' : List α} (h : d.Distinct s) (hperm : s'.Perm s) : d.Distinct s' :=
  (hperm.filterMap d.key).nodup_iff.mpr h

theorem Distinct.eq_of_key (h : d.Distinct s) {b : α} (ha : a ∈ s) (hb : b ∈ s)
    (hak : d.key a = some k) (hbk : d.key b = some k) : a = b := by
  induction s with
  | nil => simp at ha
  | cons x rest ih =>
    obtain ⟨hx, hrest⟩ := distinct_cons.mp h
    rcases List.mem_cons.mp ha with rfl | ha'
    · rcases List.mem_cons.mp hb with rfl | hb'
      · rfl
      · exact absurd (mem_keys.mpr ⟨b, hb', hbk⟩) (hx k hak)
    · rcases List.mem_cons.mp hb with rfl | hb'
      · exact absurd (mem_keys.mpr ⟨a, ha', hak⟩) (hx k hbk)
      · exact ih hrest ha' hb'

end Keys

section Merge

variable [DecidableEq K] [DecidableEq I]

instance (f b : α) : Decidable (d.Supersedes f b) :=
  inferInstanceAs (Decidable (_ ∧ _ ∧ _))

def add (s : List α) (a : α) : List α :=
  match d.key a with
  | none => s
  | some k =>
    let kept := s.filter fun b => !decide (d.Supersedes a b)
    if k ∈ d.keys kept then kept else kept ++ [a]

def merge (s n : List α) : List α := n.foldl d.add s

variable {d} {s n : List α} {a b c f : α} {k : K}

@[simp] theorem merge_nil (s : List α) : d.merge s [] = s := rfl

@[simp] theorem merge_cons (s : List α) (a : α) (n : List α) :
    d.merge s (a :: n) = d.merge (d.add s a) n := rfl

theorem merge_append (s n m : List α) : d.merge s (n ++ m) = d.merge (d.merge s n) m :=
  List.foldl_append

/-! ### What is kept -/

theorem mem_of_mem_add (h : b ∈ d.add s a) : b ∈ s ∨ b = a ∧ d.key a ≠ none := by
  unfold add at h
  cases hkey : d.key a with
  | none =>
    rw [hkey] at h
    exact Or.inl h
  | some k =>
    rw [hkey] at h
    dsimp only at h
    split_ifs at h
    · exact Or.inl (List.mem_of_mem_filter h)
    · rcases List.mem_append.mp h with hkept | hadded
      · exact Or.inl (List.mem_of_mem_filter hkept)
      · exact Or.inr ⟨List.mem_singleton.mp hadded, by simp⟩

theorem mem_add_of_mem (h : b ∈ s) (hkept : ¬ d.Supersedes a b) : b ∈ d.add s a := by
  unfold add
  cases d.key a with
  | none => exact h
  | some k =>
    have hfilter : b ∈ s.filter fun b => !decide (d.Supersedes a b) :=
      List.mem_filter.mpr ⟨h, by simp [hkept]⟩
    dsimp only
    split_ifs
    · exact hfilter
    · exact List.mem_append_left _ hfilter

theorem not_supersedes_of_mem_add (hkey : d.key a ≠ none) (h : b ∈ d.add s a) :
    ¬ d.Supersedes a b := by
  have hself : ¬ d.Supersedes a a := fun hself => by
    have hwins : true = false := hself.1.symm.trans hself.2.1
    simp at hwins
  unfold add at h
  cases hk : d.key a with
  | none => exact absurd hk hkey
  | some k =>
    rw [hk] at h
    dsimp only at h
    split_ifs at h
    · simpa using (List.mem_filter.mp h).2
    · rcases List.mem_append.mp h with hkept | hadded
      · simpa using (List.mem_filter.mp hkept).2
      · exact List.mem_singleton.mp hadded ▸ hself

theorem mem_of_mem_merge (h : b ∈ d.merge s n) : b ∈ s ∨ b ∈ n ∧ d.key b ≠ none := by
  induction n generalizing s with
  | nil => exact Or.inl h
  | cons a rest ih =>
    rcases ih h with hadd | ⟨hrest, hkey⟩
    · rcases mem_of_mem_add hadd with hs | ⟨rfl, hkey⟩
      · exact Or.inl hs
      · exact Or.inr ⟨by simp, hkey⟩
    · exact Or.inr ⟨by simp [hrest], hkey⟩

/-- **What nothing supersedes stays.** -/
theorem mem_merge_of_mem (h : b ∈ s) (hkept : ∀ f ∈ n, ¬ d.Supersedes f b) :
    b ∈ d.merge s n := by
  induction n generalizing s with
  | nil => exact h
  | cons a rest ih =>
    exact ih (mem_add_of_mem h (hkept a (by simp))) fun f hf => hkept f (by simp [hf])

/-- **What is superseded is there only where it was added again later.** -/
theorem mem_after_of_supersedes {before after : List α} (hkey : d.key f ≠ none)
    (h : b ∈ d.merge s (before ++ f :: after)) (hsuperseded : d.Supersedes f b) : b ∈ after := by
  rw [merge_append, merge_cons] at h
  rcases mem_of_mem_merge h with hadd | hafter
  · exact absurd hsuperseded (not_supersedes_of_mem_add hkey hadd)
  · exact hafter.1

/-! ### One element of a key -/

theorem Distinct.add (h : d.Distinct s) (a : α) : d.Distinct (d.add s a) := by
  unfold Supersession.add
  cases hkey : d.key a with
  | none => exact h
  | some k =>
    dsimp only
    split_ifs with hheld
    · exact h.filter _
    · unfold Distinct keys
      rw [List.filterMap_append, List.nodup_append]
      refine ⟨h.filter _, ?_, ?_⟩
      · simp [hkey]
      · intro x hx y hy hxy
        have hyk : y = k := by simpa [hkey] using hy
        exact hheld (hyk ▸ hxy ▸ hx)

/-- **Keys stay distinct.** -/
theorem Distinct.merge (h : d.Distinct s) (n : List α) : d.Distinct (d.merge s n) := by
  induction n generalizing s with
  | nil => exact h
  | cons a rest ih => exact ih (h.add a)

/-! ### The slot of a key -/

variable (d) in
def slot (k : K) (s : List α) : Option α := s.find? fun b => decide (d.key b = some k)

variable (d) in
def slotAdd (k : K) (held : Option α) (a : α) : Option α :=
  if d.key a = none then held
  else
    (held.filter fun b => !decide (d.Supersedes a b)).or (if d.key a = some k then some a else none)

omit [DecidableEq I] in
theorem slot_eq_none : d.slot k s = none ↔ k ∉ d.keys s := by
  unfold slot
  rw [List.find?_eq_none, mem_keys]
  simp

omit [DecidableEq I] in
theorem mem_slot (h : b ∈ d.slot k s) : b ∈ s ∧ d.key b = some k := by
  have hfound : s.find? (fun b => decide (d.key b = some k)) = some b := h
  exact ⟨List.mem_of_find?_eq_some hfound, by simpa using List.find?_some hfound⟩

omit [DecidableEq I] in
theorem Distinct.slot_filter (h : d.Distinct s) (p : α → Bool) :
    d.slot k (s.filter p) = (d.slot k s).filter p := by
  induction s with
  | nil => rfl
  | cons b rest ih =>
    obtain ⟨hb, hrest⟩ := distinct_cons.mp h
    by_cases hkey : d.key b = some k
    · have hslot : d.slot k (b :: rest) = some b := by
        unfold slot
        rw [List.find?_cons_of_pos (by simp [hkey])]
      have hnone : d.slot k (rest.filter p) = none := by
        rw [ih hrest, slot_eq_none.mpr (hb k hkey)]
        rfl
      rw [hslot]
      cases hp : p b with
      | true =>
        rw [List.filter_cons_of_pos hp]
        unfold slot
        rw [List.find?_cons_of_pos (by simp [hkey]), Option.filter_some, if_pos hp]
      | false => rw [List.filter_cons_of_neg (by simp [hp]), hnone, Option.filter_some,
          if_neg (by simp [hp])]
    · have hslot : d.slot k (b :: rest) = d.slot k rest := by
        unfold slot
        rw [List.find?_cons_of_neg (by simp [hkey])]
      rw [hslot, ← ih hrest]
      cases hp : p b with
      | true =>
        rw [List.filter_cons_of_pos hp]
        unfold slot
        rw [List.find?_cons_of_neg (by simp [hkey])]
      | false => rw [List.filter_cons_of_neg (by simp [hp])]

theorem Distinct.slot_add (h : d.Distinct s) (a : α) :
    d.slot k (d.add s a) = d.slotAdd k (d.slot k s) a := by
  unfold Supersession.add slotAdd
  cases hkey : d.key a with
  | none => rw [if_pos rfl]
  | some j =>
    rw [if_neg (by simp), ← h.slot_filter]
    dsimp only
    by_cases hj : j = k
    · subst hj
      rw [if_pos rfl]
      split_ifs with hheld
      · obtain ⟨b, hb⟩ := Option.ne_none_iff_exists'.mp
          (fun hnone => (slot_eq_none.mp hnone) hheld)
        rw [hb, Option.some_or]
      · rw [slot_eq_none.mpr hheld, Option.none_or]
        have hnone := slot_eq_none.mpr hheld
        unfold slot at hnone ⊢
        rw [List.find?_append, hnone, Option.none_or,
          List.find?_cons_of_pos (by simp [hkey])]
    · have hne : ¬ some j = some k := fun heq => hj (Option.some.inj heq)
      rw [if_neg hne, Option.or_none]
      split_ifs
      · rfl
      · unfold slot
        rw [List.find?_append, List.find?_cons_of_neg (by simp [hkey, hj]), List.find?_nil,
          Option.or_none]

/-- **The merge is a fold over each slot.** -/
theorem Distinct.slot_merge (h : d.Distinct s) (n : List α) :
    d.slot k (d.merge s n) = n.foldl (d.slotAdd k) (d.slot k s) := by
  induction n generalizing s with
  | nil => rfl
  | cons a rest ih => rw [merge_cons, ih (h.add a), h.slot_add, List.foldl_cons]

variable {held : Option α}

theorem mem_slotAdd (h : b ∈ d.slotAdd k held a) :
    b ∈ held ∨ b = a ∧ d.key a = some k := by
  unfold slotAdd at h
  by_cases hkey : d.key a = none
  · rw [if_pos hkey] at h
    exact Or.inl h
  · rw [if_neg hkey] at h
    cases hkept : held.filter fun b => !decide (d.Supersedes a b) with
    | some c =>
      rw [hkept, Option.some_or] at h
      obtain rfl : c = b := Option.some.inj h
      exact Or.inl (Option.filter_eq_some_iff.mp hkept).1
    | none =>
      rw [hkept, Option.none_or] at h
      by_cases hk : d.key a = some k
      · rw [if_pos hk] at h
        exact Or.inr ⟨(Option.some.inj h).symm, hk⟩
      · rw [if_neg hk] at h
        simp at h

theorem slot_of_not_supersedes
    (hkept : ∀ f ∈ n, ∀ b, b ∈ held ∨ b ∈ n ∧ d.key b = some k → ¬ d.Supersedes f b) :
    n.foldl (d.slotAdd k) held = held.or (d.slot k n) := by
  induction n generalizing held with
  | nil => simp [slot]
  | cons a rest ih =>
    have hfilter : held.filter (fun b => !decide (d.Supersedes a b)) = held := by
      cases held with
      | none => rfl
      | some b =>
        have hnot := hkept a (by simp) b (Or.inl rfl)
        rw [Option.filter_some, if_pos (by simp [hnot])]
    rw [List.foldl_cons, ih]
    · unfold slotAdd
      rw [hfilter]
      by_cases hkey : d.key a = some k
      · rw [if_neg (by simp [hkey]), if_pos hkey]
        unfold slot
        rw [List.find?_cons_of_pos (by simp [hkey]), Option.or_assoc, Option.some_or]
      · have hslot : d.slot k (a :: rest) = d.slot k rest := by
          unfold slot
          rw [List.find?_cons_of_neg (by simp [hkey])]
        rw [if_neg hkey, Option.or_none, ite_self, hslot]
    · intro f hf b hb
      refine hkept f (by simp [hf]) b ?_
      rcases hb with hheld | ⟨hrest, hkey⟩
      · rcases mem_slotAdd hheld with hbefore | ⟨rfl, hkey⟩
        · exact Or.inl hbefore
        · exact Or.inr ⟨by simp, hkey⟩
      · exact Or.inr ⟨by simp [hrest], hkey⟩

/-- Where one element supersedes everything of a key, what was held before it is forgotten. -/
theorem slot_forgets {held' : Option α} (hf : f ∈ n) (hkey : d.key f ≠ none)
    (hsuperseded : ∀ b, b ∈ held ∨ b ∈ held' ∨ b ∈ n ∧ d.key b = some k → d.Supersedes f b) :
    n.foldl (d.slotAdd k) held = n.foldl (d.slotAdd k) held' := by
  induction n generalizing held held' with
  | nil => simp at hf
  | cons a rest ih =>
    rw [List.foldl_cons, List.foldl_cons]
    by_cases ha : f = a
    · subst ha
      have hgone : ∀ held : Option α, (∀ b ∈ held, d.Supersedes f b) →
          held.filter (fun b => !decide (d.Supersedes f b)) = none := by
        intro held hheld
        cases held with
        | none => rfl
        | some b => rw [Option.filter_some, if_neg (by simp [hheld b rfl])]
      unfold slotAdd
      rw [hgone held fun b hb => hsuperseded b (Or.inl hb),
        hgone held' fun b hb => hsuperseded b (Or.inr (Or.inl hb)), if_neg hkey, if_neg hkey]
    · refine ih ((List.mem_cons.mp hf).resolve_left ha) ?_
      rintro b (hb | hb | ⟨hrest, hbk⟩)
      · rcases mem_slotAdd hb with hheld | ⟨rfl, hbk⟩
        · exact hsuperseded b (Or.inl hheld)
        · exact hsuperseded b (Or.inr (Or.inr ⟨by simp, hbk⟩))
      · rcases mem_slotAdd hb with hheld | ⟨rfl, hbk⟩
        · exact hsuperseded b (Or.inr (Or.inl hheld))
        · exact hsuperseded b (Or.inr (Or.inr ⟨by simp, hbk⟩))
      · exact hsuperseded b (Or.inr (Or.inr ⟨by simp [hrest], hbk⟩))

theorem mem_slotMerge (h : b ∈ n.foldl (d.slotAdd k) held) :
    b ∈ held ∨ b ∈ n ∧ d.key b = some k := by
  induction n generalizing held with
  | nil => exact Or.inl h
  | cons a rest ih =>
    rcases ih h with hheld | ⟨hrest, hkey⟩
    · rcases mem_slotAdd hheld with hbefore | ⟨rfl, hkey⟩
      · exact Or.inl hbefore
      · exact Or.inr ⟨by simp, hkey⟩
    · exact Or.inr ⟨by simp [hrest], hkey⟩

theorem slot_stays (hkept : ∀ f ∈ n, ¬ d.Supersedes f b) :
    n.foldl (d.slotAdd k) (some b) = some b := by
  induction n with
  | nil => rfl
  | cons a rest ih =>
    have hstays : d.slotAdd k (some b) a = some b := by
      have hfilter : (some b).filter (fun b => !decide (d.Supersedes a b)) = some b := by
        rw [Option.filter_some, if_pos (by simp [hkept a (by simp)])]
      unfold slotAdd
      rw [hfilter, Option.some_or, ite_self]
    rw [List.foldl_cons, hstays]
    exact ih fun f hf => hkept f (by simp [hf])

/-! ### Merging twice -/

variable (d) in
/-- Elements with the key of a new one win just when it does, and where one of them is superseded
it is about the same thing. -/
structure Consistent (s n : List α) : Prop where
  keyed : ∀ a ∈ n, d.key a ≠ none
  distinct : d.Distinct s
  wins : ∀ a ∈ s ++ n, ∀ c ∈ n, d.key a = d.key c → d.wins a = d.wins c
  subjects : ∀ c ∈ n, ∀ a ∈ s ++ n, d.key a = d.key c →
    ∀ f ∈ n, d.Supersedes f a → d.subject a = d.subject c

omit [DecidableEq K] [DecidableEq I] in
theorem Consistent.supersedes (h : d.Consistent s n) (ha : a ∈ s ++ n) (hc : c ∈ n)
    (hkey : d.key a = d.key c) (hf : f ∈ n) (hsuperseded : d.Supersedes f a) :
    d.Supersedes f c :=
  ⟨hsuperseded.1, h.wins a ha c hc hkey ▸ hsuperseded.2.1,
    h.subjects c hc a ha hkey f hf hsuperseded ▸ hsuperseded.2.2⟩

/-- **The slot of a new key is held by what nothing new supersedes, or one new element supersedes
everything of the key.** -/
theorem Consistent.slot_cases (h : d.Consistent s n) (hc : c ∈ n) (hkey : d.key c = some k) :
    (∃ b, n.foldl (d.slotAdd k) (d.slot k s) = some b ∧ (∀ f ∈ n, ¬ d.Supersedes f b) ∧
        (b ∈ s ∨ n.foldl (d.slotAdd k) none = some b)) ∨
      ∃ f ∈ n, ∀ b, b ∈ d.slot k s ∨ b ∈ n ∧ d.key b = some k → d.Supersedes f b := by
  by_cases hnew : ∃ f ∈ n, d.Supersedes f c
  · obtain ⟨f, hf, hsuperseded⟩ := hnew
    have hall : ∀ b ∈ n, d.key b = some k → d.Supersedes f b := fun b hb hbk =>
      h.supersedes (List.mem_append_right s hc) hb (hkey.trans hbk.symm) hf hsuperseded
    cases hheld : d.slot k s with
    | none =>
      refine Or.inr ⟨f, hf, fun b hb => ?_⟩
      rcases hb with hb | ⟨hb, hbk⟩
      · simp at hb
      · exact hall b hb hbk
    | some e =>
      obtain ⟨he, hek⟩ := mem_slot hheld
      have hes : e ∈ s ++ n := List.mem_append_left n he
      by_cases hgone : ∃ g ∈ n, d.Supersedes g e
      · obtain ⟨g, hg, hge⟩ := hgone
        have hsubject := h.subjects c hc e hes (hek.trans hkey.symm) g hg hge
        refine Or.inr ⟨f, hf, fun b hb => ?_⟩
        rcases hb with hb | ⟨hb, hbk⟩
        · obtain rfl : e = b := Option.some.inj hb
          exact ⟨hsuperseded.1, hge.2.1, hsubject.trans hsuperseded.2.2⟩
        · exact hall b hb hbk
      · have hkept : ∀ g ∈ n, ¬ d.Supersedes g e := fun g hg hge => hgone ⟨g, hg, hge⟩
        exact Or.inl ⟨e, slot_stays hkept, hkept, Or.inl he⟩
  · have hkept : ∀ f ∈ n, ∀ b, b ∈ d.slot k s ∨ b ∈ n ∧ d.key b = some k →
        ¬ d.Supersedes f b := by
      intro f hf b hb hsuperseded
      have hbs : b ∈ s ++ n ∧ d.key b = some k := by
        rcases hb with hb | ⟨hb, hbk⟩
        · exact ⟨List.mem_append_left n (mem_slot hb).1, (mem_slot hb).2⟩
        · exact ⟨List.mem_append_right s hb, hbk⟩
      exact hnew ⟨f, hf, h.supersedes hbs.1 hc (hbs.2.trans hkey.symm) hf hsuperseded⟩
    have hfound : ((d.slot k s).or (d.slot k n)).isSome := by
      rw [Option.isSome_or]
      have hsome : (d.slot k n).isSome := Option.isSome_iff_ne_none.mpr fun hnone =>
        slot_eq_none.mp hnone (mem_keys.mpr ⟨c, hc, hkey⟩)
      simp [hsome]
    obtain ⟨b, hb⟩ := Option.isSome_iff_exists.mp hfound
    refine Or.inl ⟨b, (slot_of_not_supersedes hkept).trans hb, fun f hf => hkept f hf b ?_, ?_⟩
    · exact (Option.or_eq_some_iff.mp hb).imp id fun hn => mem_slot hn.2
    · refine (Option.or_eq_some_iff.mp hb).imp (fun hs => (mem_slot hs).1) fun hn => ?_
      have hnone : ∀ f ∈ n, ∀ b, b ∈ (none : Option α) ∨ b ∈ n ∧ d.key b = some k →
          ¬ d.Supersedes f b := fun f hf b hb =>
        hkept f hf b (Or.inr (hb.resolve_left (by simp)))
      rw [slot_of_not_supersedes hnone, Option.none_or]
      exact hn.2

/-- **A new key is held, unless a new element supersedes the one that brings it.** -/
theorem Consistent.mem_keys_merge (h : d.Consistent s n) (hc : c ∈ n) (hkey : d.key c = some k) :
    k ∈ d.keys (d.merge s n) ∨ ∃ f ∈ n, d.Supersedes f c := by
  rcases h.slot_cases hc hkey with ⟨b, hb, -, -⟩ | ⟨f, hf, hall⟩
  · rw [← h.distinct.slot_merge] at hb
    exact Or.inl (mem_keys.mpr ⟨b, mem_slot hb⟩)
  · exact Or.inr ⟨f, hf, hall c (Or.inr ⟨hc, hkey⟩)⟩

/-- Merging again leaves the slot of a new key, also where new elements have been dropped. -/
theorem Consistent.slot_again (h : d.Consistent s n) (hk : k ∈ d.keys n) {p : α → Bool}
    (hp : ∀ b ∈ s, p b = true) :
    n.foldl (d.slotAdd k) ((n.foldl (d.slotAdd k) (d.slot k s)).filter p) =
      n.foldl (d.slotAdd k) (d.slot k s) := by
  obtain ⟨c, hc, hkey⟩ := mem_keys.mp hk
  rcases h.slot_cases hc hkey with ⟨b, hb, hkept, horigin⟩ | ⟨f, hf, hall⟩
  · rw [hb, Option.filter_some]
    by_cases hpb : p b = true
    · rw [if_pos hpb]
      exact slot_stays hkept
    · rw [if_neg hpb]
      exact horigin.resolve_left fun hs => hpb (hp b hs)
  · refine slot_forgets hf (h.keyed f hf) ?_
    rintro b (hb | hb | hb)
    · exact hall b (mem_slotMerge (Option.filter_eq_some_iff.mp hb).1)
    · exact hall b (Or.inl hb)
    · exact hall b (Or.inr hb)

end Merge

/-! ### Sorting by the keys -/

section Sorting

variable [LinearOrder K] {d : Supersession α K I} {s n : List α} {a b : α} {k : K}

variable (d) in
/-- What an element is sorted by: its key, or what stands for none. -/
def rank (bot : K) (a : α) : K := (d.key a).getD bot

variable (d) in
/-- The elements, sorted by their keys; elements without one keep their order. -/
def sorted (bot : K) (s : List α) : List α :=
  s.insertionSort fun a b => d.rank bot a ≤ d.rank bot b

variable {bot : K}

theorem sorted_perm (bot : K) (s : List α) : (d.sorted bot s).Perm s :=
  List.perm_insertionSort _ _

theorem mem_sorted : a ∈ d.sorted bot s ↔ a ∈ s := (sorted_perm bot s).mem_iff

instance : Std.Total fun a b : α => d.rank bot a ≤ d.rank bot b :=
  ⟨fun a b => le_total (d.rank bot a) (d.rank bot b)⟩

instance : IsTrans α fun a b => d.rank bot a ≤ d.rank bot b := ⟨fun _ _ _ => le_trans⟩

theorem sorted_pairwise (bot : K) (s : List α) :
    (d.sorted bot s).Pairwise fun a b => d.rank bot a ≤ d.rank bot b :=
  List.pairwise_insertionSort _ _

theorem filter_sorted (s : List α) (r : K) :
    (d.sorted bot s).filter (fun a => decide (d.rank bot a = r)) =
      s.filter fun a => decide (d.rank bot a = r) := by
  have hequal : (s.filter fun a => decide (d.rank bot a = r)).Pairwise
      fun a b => d.rank bot a ≤ d.rank bot b := by
    refine List.pairwise_of_forall_mem_list fun a ha b hb => ?_
    have har : d.rank bot a = r := by simpa using (List.mem_filter.mp ha).2
    have hbr : d.rank bot b = r := by simpa using (List.mem_filter.mp hb).2
    exact (har.trans hbr.symm).le
  have hsublist := (List.sublist_insertionSort hequal List.filter_sublist).filter
    fun a => decide (d.rank bot a = r)
  rw [List.filter_filter] at hsublist
  simp only [Bool.and_self] at hsublist
  exact (hsublist.eq_of_length ((sorted_perm bot s).filter _).length_eq.symm).symm

theorem eq_of_filter {l l' : List α} (hl : l.Pairwise fun a b => d.rank bot a ≤ d.rank bot b)
    (hl' : l'.Pairwise fun a b => d.rank bot a ≤ d.rank bot b)
    (h : ∀ r, l.filter (fun a => decide (d.rank bot a = r)) =
      l'.filter fun a => decide (d.rank bot a = r)) : l = l' := by
  induction l generalizing l' with
  | nil =>
    cases l' with
    | nil => rfl
    | cons b rest' =>
      have hb := h (d.rank bot b)
      rw [List.filter_cons_of_pos (by simp)] at hb
      simp at hb
  | cons a rest ih =>
    cases l' with
    | nil =>
      have ha := h (d.rank bot a)
      rw [List.filter_cons_of_pos (by simp)] at ha
      simp at ha
    | cons b rest' =>
      obtain ⟨ha, hrest⟩ := List.pairwise_cons.mp hl
      obtain ⟨hb, hrest'⟩ := List.pairwise_cons.mp hl'
      -- Each of the two heads is in the other list, so neither has the greater key.
      have hmem : ∀ x, x ∈ a :: rest ↔ x ∈ b :: rest' := by
        intro x
        have hx := congrArg (x ∈ ·) (h (d.rank bot x))
        simpa [List.mem_filter] using hx
      have hab : d.rank bot a ≤ d.rank bot b := by
        rcases List.mem_cons.mp ((hmem b).mpr (by simp)) with rfl | hin
        · exact le_refl _
        · exact ha b hin
      have hba : d.rank bot b ≤ d.rank bot a := by
        rcases List.mem_cons.mp ((hmem a).mp (by simp)) with rfl | hin
        · exact le_refl _
        · exact hb a hin
      have hheads := h (d.rank bot a)
      rw [List.filter_cons_of_pos (by simp),
        List.filter_cons_of_pos (by simp [le_antisymm hba hab])] at hheads
      obtain ⟨rfl, -⟩ := List.cons.inj hheads
      refine congrArg (a :: ·) (ih hrest hrest' fun r => ?_)
      have hr := h r
      by_cases har : d.rank bot a = r
      · rw [List.filter_cons_of_pos (by simp [har]),
          List.filter_cons_of_pos (by simp [har])] at hr
        exact (List.cons.inj hr).2
      · rwa [List.filter_cons_of_neg (by simp [har]),
          List.filter_cons_of_neg (by simp [har])] at hr

theorem Distinct.filter_rank (h : d.Distinct s) (hk : k ≠ bot) :
    s.filter (fun a => decide (d.rank bot a = k)) = (d.slot k s).toList := by
  have hrank : ∀ a, d.rank bot a = k ↔ d.key a = some k := by
    intro a
    unfold rank
    cases d.key a with
    | none => simp [hk.symm]
    | some j => simp
  simp only [hrank]
  induction s with
  | nil => rfl
  | cons b rest ih =>
    obtain ⟨hb, hrest⟩ := distinct_cons.mp h
    by_cases hkey : d.key b = some k
    · have hnone := slot_eq_none.mpr (hb k hkey)
      rw [List.filter_cons_of_pos (by simp [hkey]), ih hrest, hnone]
      unfold slot
      rw [List.find?_cons_of_pos (by simp [hkey])]
      rfl
    · rw [List.filter_cons_of_neg (by simp [hkey]), ih hrest]
      unfold slot
      rw [List.find?_cons_of_neg (by simp [hkey])]

theorem Distinct.slot_perm {s' : List α} (h : d.Distinct s) (hperm : s'.Perm s) :
    d.slot k s' = d.slot k s := by
  cases hslot : d.slot k s with
  | none =>
    rw [slot_eq_none] at hslot ⊢
    exact fun hk => hslot ((hperm.filterMap d.key).mem_iff.mp hk)
  | some b =>
    obtain ⟨hb, hkey⟩ := mem_slot hslot
    have hk : k ∈ d.keys s' := mem_keys.mpr ⟨b, hperm.mem_iff.mpr hb, hkey⟩
    obtain ⟨b', hb'⟩ := Option.ne_none_iff_exists'.mp fun hnone => slot_eq_none.mp hnone hk
    obtain ⟨hmem', hkey'⟩ := mem_slot hb'
    rw [hb', h.eq_of_key (hperm.mem_iff.mp hmem') hb hkey' hkey]

variable [DecidableEq I]

theorem filter_rank_merge {r : K} (hnew : ∀ a ∈ n, d.key a ≠ none ∧ d.rank bot a ≠ r)
    (hkept : ∀ b ∈ s, d.rank bot b = r → ∀ f ∈ n, ¬ d.Supersedes f b) :
    (d.merge s n).filter (fun a => decide (d.rank bot a = r)) =
      s.filter fun a => decide (d.rank bot a = r) := by
  induction n generalizing s with
  | nil => rfl
  | cons a rest ih =>
    obtain ⟨hkey, hrank⟩ := hnew a (by simp)
    have hadd : (d.add s a).filter (fun a => decide (d.rank bot a = r)) =
        s.filter fun a => decide (d.rank bot a = r) := by
      have hfilter : (s.filter fun b => !decide (d.Supersedes a b)).filter
          (fun a => decide (d.rank bot a = r)) = s.filter fun a => decide (d.rank bot a = r) := by
        rw [List.filter_filter]
        refine List.filter_congr fun b hb => ?_
        by_cases hr : d.rank bot b = r
        · simp [hr, hkept b hb hr a (by simp)]
        · simp [hr]
      unfold add
      obtain ⟨k, hk⟩ := Option.ne_none_iff_exists'.mp hkey
      rw [hk]
      dsimp only
      split_ifs
      · exact hfilter
      · rw [List.filter_append, hfilter, List.filter_cons_of_neg (by simp [hrank])]
        simp
    rw [merge_cons, ih (fun b hb => hnew b (by simp [hb])), hadd]
    intro b hb hr f hf
    rcases mem_of_mem_add hb with hs | ⟨rfl, -⟩
    · exact hkept b hs hr f (by simp [hf])
    · exact absurd hr hrank

/-- **Merging the same elements again changes nothing, also where some of them have been
dropped.** -/
theorem Consistent.merge_again (h : d.Consistent s n) (hbot : bot ∉ d.keys n) {p : α → Bool}
    (hp : ∀ b ∈ s, p b = true) :
    d.sorted bot (d.merge ((d.sorted bot (d.merge s n)).filter p) n) =
      d.sorted bot (d.merge s n) := by
  have hdistinct := h.distinct.merge n
  have hsorted : d.Distinct (d.sorted bot (d.merge s n)) := hdistinct.perm (sorted_perm bot _)
  have hagain := hsorted.filter p
  refine eq_of_filter (sorted_pairwise bot _) (sorted_pairwise bot _) fun r => ?_
  rw [filter_sorted]
  by_cases hr : r ∈ d.keys n
  · have hne : r ≠ bot := fun heq => hbot (heq ▸ hr)
    rw [(hagain.merge n).filter_rank hne, hsorted.filter_rank hne, hagain.slot_merge,
      hsorted.slot_filter, hdistinct.slot_perm (sorted_perm bot _), h.distinct.slot_merge,
      h.slot_again hr hp]
  · have hrank : ∀ a ∈ n, d.key a ≠ none ∧ d.rank bot a ≠ r := by
      intro a ha
      refine ⟨h.keyed a ha, fun heq => hr (mem_keys.mpr ⟨a, ha, ?_⟩)⟩
      obtain ⟨k, hk⟩ := Option.ne_none_iff_exists'.mp (h.keyed a ha)
      unfold rank at heq
      rw [hk] at heq
      exact hk.trans (congrArg some heq)
    have hold : ∀ b ∈ d.sorted bot (d.merge s n), d.rank bot b = r →
        b ∈ s ∧ ∀ f ∈ n, ¬ d.Supersedes f b := by
      intro b hb hbr
      refine ⟨?_, fun f hf hsuperseded => ?_⟩
      · exact (mem_of_mem_merge (mem_sorted.mp hb)).resolve_right fun hn =>
          (hrank b hn.1).2 hbr
      · obtain ⟨before, after, rfl⟩ := List.append_of_mem hf
        have hafter := mem_after_of_supersedes (h.keyed f hf) (mem_sorted.mp hb) hsuperseded
        exact (hrank b (by simp [hafter])).2 hbr
    rw [filter_rank_merge hrank fun b hb hbr => (hold b (List.mem_of_mem_filter hb) hbr).2,
      List.filter_filter]
    refine List.filter_congr fun b hb => ?_
    by_cases hbr : d.rank bot b = r
    · simp [hbr, hp b (hold b hb hbr).1]
    · simp [hbr]

end Sorting

end Supersession
