/-
Letters that stand for words.

A rule puts a word for a letter.  Wherever two rules apply they apply to different letters, so it
does not matter which one is applied first, and a word has at most one settled form.  A pass puts
the word of each rule for its letter, rule after rule; where no letter leads back to itself, as
many passes as there are rules settle a word, and one pass does if the rules are taken in the
right order.
-/
import Mathlib.Data.Finset.Card
import Mathlib.Data.List.Sort

namespace Rewriting

variable {α : Type*} {rules order : List (α × List α)} {text : List α}

/-! ### Rewriting -/

def letters (rules : List (α × List α)) : List α := rules.map Prod.fst

/-- A word is put for one letter. -/
inductive Step (rules : List (α × List α)) : List α → List α → Prop
  | mk {a : α} {word : List α} (h : (a, word) ∈ rules) (before after : List α) :
      Step rules (before ++ a :: after) (before ++ word ++ after)

/-- Words are put for letters, one after the other. -/
def Rewrites (rules : List (α × List α)) : List α → List α → Prop :=
  Relation.ReflTransGen (Step rules)

/-- No letter has a rule. -/
def Settled (rules : List (α × List α)) (text : List α) : Prop := ∀ a ∈ text, a ∉ letters rules

variable {a b : α} {next left right : List α}

theorem mem_letters : a ∈ letters rules ↔ ∃ word, (a, word) ∈ rules := by
  simp [letters]

theorem letters_perm (h : order.Perm rules) (a : α) : a ∈ letters order ↔ a ∈ letters rules :=
  (h.map Prod.fst).mem_iff

theorem Step.append_left (before : List α) (h : Step rules text next) :
    Step rules (before ++ text) (before ++ next) := by
  obtain ⟨hrule, left, right⟩ := h
  have hstep := Step.mk hrule (before ++ left) right
  simpa only [List.append_assoc] using hstep

theorem Step.append_right (after : List α) (h : Step rules text next) :
    Step rules (text ++ after) (next ++ after) := by
  obtain ⟨hrule, left, right⟩ := h
  have hstep := Step.mk hrule left (right ++ after)
  simpa only [List.append_assoc, List.cons_append] using hstep

theorem Rewrites.append {left' right' : List α} (hleft : Rewrites rules left left')
    (hright : Rewrites rules right right') : Rewrites rules (left ++ right) (left' ++ right') := by
  have hfirst : Rewrites rules (left ++ right) (left' ++ right) :=
    hleft.lift (· ++ right) fun _ _ => Step.append_right right
  have hsecond : Rewrites rules (left' ++ right) (left' ++ right') :=
    hright.lift (left' ++ ·) fun _ _ => Step.append_left left'
  exact hfirst.trans hsecond

theorem Settled.not_step (h : Settled rules text) : ¬ Step rules text next := by
  intro hstep
  obtain ⟨hrule, before, after⟩ := hstep
  exact h _ (by simp) (mem_letters.mpr ⟨_, hrule⟩)

theorem Settled.eq_of_rewrites (h : Settled rules text) (hnext : Rewrites rules text next) :
    next = text := by
  induction hnext with
  | refl => rfl
  | tail _ hstep ih =>
    subst ih
    exact absurd hstep h.not_step

/-! ### The order of rewriting -/

theorem eq_of_mem_rules (hrules : (letters rules).Nodup) {word word' : List α}
    (h : (a, word) ∈ rules) (h' : (a, word') ∈ rules) : word = word' :=
  (Prod.mk.inj (List.inj_on_of_nodup_map hrules h h' rfl)).2

theorem step_apart {word word' : List α} (h : (a, word) ∈ rules) (h' : (b, word') ∈ rules)
    (before part after : List α) :
    ∃ common, Step rules (before ++ word ++ (part ++ b :: after)) common ∧
      Step rules (before ++ a :: part ++ word' ++ after) common := by
  refine ⟨before ++ word ++ part ++ word' ++ after, ?_, ?_⟩
  · have hstep := Step.mk h' (before ++ word ++ part) after
    simpa only [List.append_assoc] using hstep
  · have hstep := Step.mk h before (part ++ word' ++ after)
    simpa only [List.append_assoc, List.cons_append] using hstep

theorem step_diamond (hrules : (letters rules).Nodup) (hleft : Step rules text left)
    (hright : Step rules text right) :
    ∃ common, Relation.ReflGen (Step rules) left common ∧ Rewrites rules right common := by
  generalize hsame : text = whole at hright
  obtain ⟨hrule, before, after⟩ := hleft
  obtain ⟨hrule', before', after'⟩ := hright
  rcases List.append_eq_append_iff.mp hsame with ⟨part, rfl, hrest⟩ | ⟨part, rfl, hrest⟩
  · rcases List.cons_eq_append_iff.mp hrest with ⟨rfl, hhere⟩ | ⟨part, rfl, rfl⟩
    · obtain ⟨rfl, rfl⟩ := List.cons.inj hhere
      rw [List.append_nil, eq_of_mem_rules hrules hrule hrule']
      exact ⟨_, .refl, .refl⟩
    · obtain ⟨common, hl, hr⟩ := step_apart hrule hrule' before part after'
      exact ⟨common, .single hl, .single hr⟩
  · rcases List.cons_eq_append_iff.mp hrest with ⟨rfl, hhere⟩ | ⟨part, rfl, rfl⟩
    · obtain ⟨rfl, rfl⟩ := List.cons.inj hhere
      rw [List.append_nil, eq_of_mem_rules hrules hrule hrule']
      exact ⟨_, .refl, .refl⟩
    · obtain ⟨common, hl, hr⟩ := step_apart hrule' hrule before' part after
      exact ⟨common, .single hr, .single hl⟩

/-- **A word has at most one settled form.** -/
theorem settled_unique (hrules : (letters rules).Nodup) (hleft : Rewrites rules text left)
    (hright : Rewrites rules text right) (hl : Settled rules left) (hr : Settled rules right) :
    left = right := by
  obtain ⟨common, hcommonLeft, hcommonRight⟩ :=
    Relation.church_rosser (fun _ _ _ => step_diamond hrules) hleft hright
  rw [← hl.eq_of_rewrites hcommonLeft, hr.eq_of_rewrites hcommonRight]

/-! ### Letters that lead back to themselves -/

/-- The word of a letter has another letter in it. -/
def Refers (rules : List (α × List α)) (a b : α) : Prop := ∃ word, (a, word) ∈ rules ∧ b ∈ word

/-- No letter leads back to itself. -/
def Acyclic (rules : List (α × List α)) : Prop := ∀ a, ¬ Relation.TransGen (Refers rules) a a

theorem leads_mono (h : ∀ rule ∈ order, rule ∈ rules)
    (hleads : Relation.TransGen (Refers order) a b) : Relation.TransGen (Refers rules) a b := by
  refine Relation.TransGen.mono ?_ a b hleads
  intro c d ⟨word, hrule, hd⟩
  exact ⟨word, h _ hrule, hd⟩

theorem mem_letters_of_leads (h : Relation.TransGen (Refers rules) a b) :
    a ∈ letters rules := by
  obtain ⟨c, hac, -⟩ := Relation.TransGen.head'_iff.mp h
  obtain ⟨word, hrule, -⟩ := hac
  exact mem_letters.mpr ⟨word, hrule⟩

/-- How many letters with a rule a letter leads to. -/
noncomputable def rank (rules : List (α × List α)) (a : α) : Nat := by
  classical
  exact ((letters rules).toFinset.filter fun b => Relation.TransGen (Refers rules) a b).card

theorem rank_lt (hacyclic : Acyclic rules) (h : Relation.TransGen (Refers rules) a b)
    (hb : b ∈ letters rules) :
    rank rules b < rank rules a := by
  classical
  unfold rank
  refine Finset.card_lt_card (Finset.ssubset_iff_of_subset ?_ |>.mpr ⟨b, ?_, ?_⟩)
  · intro c hc
    rw [Finset.mem_filter] at hc ⊢
    exact ⟨hc.1, h.trans hc.2⟩
  · rw [Finset.mem_filter]
    exact ⟨List.mem_toFinset.mpr hb, h⟩
  · rw [Finset.mem_filter]
    exact fun hcycle => hacyclic b hcycle.2

theorem rank_lt_length (hacyclic : Acyclic rules) (ha : a ∈ letters rules) :
    rank rules a < rules.length := by
  classical
  have hlt : rank rules a < (letters rules).toFinset.card := by
    unfold rank
    refine Finset.card_lt_card (Finset.ssubset_iff_of_subset (Finset.filter_subset _ _) |>.mpr
      ⟨a, List.mem_toFinset.mpr ha, ?_⟩)
    rw [Finset.mem_filter]
    exact fun hcycle => hacyclic a hcycle.2
  refine hlt.trans_le ((List.toFinset_card_le _).trans ?_)
  unfold letters
  rw [List.length_map]

/-! ### Passes -/

section Pass

variable [DecidableEq α]

/-- A rule is applied at all places of its letter. -/
def substitute (rule : α × List α) (text : List α) : List α :=
  text.flatMap fun x => if x = rule.1 then rule.2 else [x]

def pass (order : List (α × List α)) (text : List α) : List α :=
  order.foldl (fun text rule => substitute rule text) text

@[simp] theorem pass_nil (text : List α) : pass [] text = text := rfl

@[simp] theorem pass_cons (rule : α × List α) (order : List (α × List α)) (text : List α) :
    pass (rule :: order) text = pass order (substitute rule text) := rfl

variable {b : α} {rule : α × List α}

theorem mem_substitute :
    b ∈ substitute rule text ↔ (b ∈ text ∧ b ≠ rule.1) ∨ (rule.1 ∈ text ∧ b ∈ rule.2) := by
  unfold substitute
  rw [List.mem_flatMap]
  constructor
  · intro ⟨x, hx, hb⟩
    by_cases hrule : x = rule.1
    · rw [if_pos hrule] at hb
      exact Or.inr ⟨hrule ▸ hx, hb⟩
    · rw [if_neg hrule, List.mem_singleton] at hb
      exact Or.inl ⟨hb ▸ hx, hb ▸ hrule⟩
  · intro h
    rcases h with ⟨hb, hne⟩ | ⟨hrule, hb⟩
    · exact ⟨b, hb, by rw [if_neg hne]; exact List.mem_singleton_self b⟩
    · exact ⟨rule.1, hrule, by rwa [if_pos rfl]⟩

theorem rewrites_substitute (h : rule ∈ rules) (text : List α) :
    Rewrites rules text (substitute rule text) := by
  induction text with
  | nil => exact .refl
  | cons x text ih =>
    have hhead : Rewrites rules [x] (if x = rule.1 then rule.2 else [x]) := by
      by_cases hx : x = rule.1
      · rw [if_pos hx, hx]
        have hstep : Step rules ([] ++ rule.1 :: []) ([] ++ rule.2 ++ []) := Step.mk h [] []
        rw [List.nil_append, List.nil_append, List.append_nil] at hstep
        exact .single hstep
      · rw [if_neg hx]
        exact .refl
    exact hhead.append ih

theorem rewrites_pass (h : ∀ rule ∈ order, rule ∈ rules) (text : List α) :
    Rewrites rules text (pass order text) := by
  induction order generalizing text with
  | nil => exact .refl
  | cons rule order ih =>
    rw [List.forall_mem_cons] at h
    exact (rewrites_substitute h.1 text).trans (ih h.2 _)

theorem rewrites_iterate (h : ∀ rule ∈ order, rule ∈ rules) (n : Nat) (text : List α) :
    Rewrites rules text ((pass order)^[n] text) := by
  induction n with
  | zero => exact .refl
  | succ n ih =>
    rw [Function.iterate_succ_apply']
    exact ih.trans (rewrites_pass h _)

theorem substitute_of_notMem (h : rule.1 ∉ text) :
    substitute rule text = text := by
  induction text with
  | nil => rfl
  | cons x text ih =>
    rw [List.mem_cons, not_or] at h
    show (if x = rule.1 then rule.2 else [x]) ++ substitute rule text = x :: text
    rw [if_neg (Ne.symm h.1), ih h.2]
    rfl

theorem Settled.pass (hsettled : Settled rules text) (h : ∀ rule ∈ order, rule ∈ rules) :
    pass order text = text := by
  induction order with
  | nil => rfl
  | cons rule order ih =>
    rw [List.forall_mem_cons] at h
    have hnot : rule.1 ∉ text := fun hmem =>
      hsettled _ hmem (mem_letters.mpr ⟨rule.2, h.1⟩)
    rw [pass_cons, substitute_of_notMem hnot, ih h.2]

theorem mem_pass (h : b ∈ pass order text) :
    (b ∈ text ∧ b ∉ letters order) ∨ ∃ a ∈ text, Relation.TransGen (Refers order) a b := by
  induction order generalizing text with
  | nil => exact Or.inl ⟨h, List.not_mem_nil⟩
  | cons rule order ih =>
    have hwider : ∀ {c d}, Relation.TransGen (Refers order) c d →
        Relation.TransGen (Refers (rule :: order)) c d :=
      leads_mono fun _ => List.mem_cons_of_mem _
    have hrule : ∀ {c}, c ∈ rule.2 → Refers (rule :: order) rule.1 c :=
      fun hc => ⟨rule.2, List.mem_cons_self, hc⟩
    rcases ih h with ⟨hb, hlater⟩ | ⟨a, ha, hleads⟩
    · rcases mem_substitute.mp hb with ⟨hmem, hne⟩ | ⟨hmem, hin⟩
      · refine Or.inl ⟨hmem, ?_⟩
        show b ∉ rule.1 :: letters order
        rw [List.mem_cons, not_or]
        exact ⟨hne, hlater⟩
      · exact Or.inr ⟨rule.1, hmem, .single (hrule hin)⟩
    · rcases mem_substitute.mp ha with ⟨hmem, -⟩ | ⟨hmem, hin⟩
      · exact Or.inr ⟨a, hmem, hwider hleads⟩
      · exact Or.inr ⟨rule.1, hmem, .head (hrule hin) (hwider hleads)⟩

section

variable (hacyclic : Acyclic rules)

include hacyclic

theorem rank_of_mem_iterate (horder : order.Perm rules) {n : Nat}
    (hb : b ∈ letters rules) (h : b ∈ (pass order)^[n] text) :
    ∃ a ∈ text, a ∈ letters rules ∧ rank rules b + n ≤ rank rules a := by
  induction n generalizing b with
  | zero => exact ⟨b, h, hb, Nat.le_refl _⟩
  | succ n ih =>
    rw [Function.iterate_succ_apply'] at h
    rcases mem_pass h with ⟨-, hnot⟩ | ⟨c, hc, hleads⟩
    · exact absurd ((letters_perm horder b).mpr hb) hnot
    · have hcb : Relation.TransGen (Refers rules) c b :=
        leads_mono (fun _ => horder.mem_iff.mp) hleads
      have hlt := rank_lt hacyclic hcb hb
      obtain ⟨a, ha, hletter, hle⟩ := ih (mem_letters_of_leads hcb) hc
      exact ⟨a, ha, hletter, by omega⟩

/-- **As many passes as there are rules settle a word.** -/
theorem settled_iterate (horder : order.Perm rules) {n : Nat}
    (hn : rules.length ≤ n) (text : List α) : Settled rules ((pass order)^[n] text) := by
  intro b hb hletter
  obtain ⟨a, -, ha, hle⟩ := rank_of_mem_iterate hacyclic horder hletter hb
  have hlt := rank_lt_length hacyclic ha
  omega

theorem settled_of_pass_eq (horder : order.Perm rules)
    (h : pass order text = text) : Settled rules text := by
  have hsettled := settled_iterate hacyclic horder (Nat.le_refl _) text
  rwa [Function.iterate_fixed h] at hsettled

/-- **Rules taken in the right order settle every word in one pass.** -/
theorem exists_settling :
    ∃ order : List (α × List α), order.Perm rules ∧ ∀ text, Settled rules (pass order text) := by
  have hsorted : ∀ {order : List (α × List α)}, (∀ rule ∈ order, rule ∈ rules) →
      order.Pairwise (fun first later => rank rules later.1 ≤ rank rules first.1) →
      ∀ text, ∀ b ∈ letters order, b ∉ pass order text := by
    intro order
    induction order with
    | nil => exact fun _ _ _ b hb => absurd hb List.not_mem_nil
    | cons rule order ih =>
      intro hrules hranks text b hb hmem
      rw [List.forall_mem_cons] at hrules
      rw [List.pairwise_cons] at hranks
      rcases List.mem_cons.mp hb with rfl | hlater
      · have hself : rule.1 ∉ rule.2 := fun hin =>
          hacyclic rule.1 (.single ⟨rule.2, hrules.1, hin⟩)
        rw [pass_cons] at hmem
        rcases mem_pass hmem with ⟨hstays, -⟩ | ⟨a, -, hleads⟩
        · rcases mem_substitute.mp hstays with ⟨-, hne⟩ | ⟨-, hin⟩
          · exact hne rfl
          · exact hself hin
        · -- The last rule on the way to the letter is a later one, and ranks above it.
          obtain ⟨c, -, word, hrule, hin⟩ := Relation.TransGen.tail'_iff.mp hleads
          have hle : rank rules c ≤ rank rules rule.1 := hranks.1 _ hrule
          have hlt := rank_lt hacyclic (.single ⟨word, hrules.2 _ hrule, hin⟩)
            (mem_letters.mpr ⟨rule.2, hrules.1⟩)
          omega
      · exact ih hrules.2 hranks.2 _ b hlater hmem
  let above (first later : α × List α) : Prop := rank rules later.1 ≤ rank rules first.1
  have hdecide : DecidableRel above := fun _ _ => Nat.decLe _ _
  have htotal : Std.Total above := ⟨fun _ _ => Nat.le_total _ _⟩
  have htrans : IsTrans (α × List α) above := ⟨fun _ _ _ h h' => Nat.le_trans h' h⟩
  have hperm : (rules.insertionSort above).Perm rules := List.perm_insertionSort above rules
  refine ⟨rules.insertionSort above, hperm, ?_⟩
  intro text b hb hletter
  refine hsorted (fun _ => hperm.mem_iff.mp) (List.pairwise_insertionSort above rules) text b ?_ hb
  exact (letters_perm hperm b).mpr hletter

end

end Pass

end Rewriting
