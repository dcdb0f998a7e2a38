/-
Letters that lead back to themselves.

Such a letter never goes away for good: whatever word is put for it has a letter that leads to it
again.  A pass leaves a text as it is only if no letter on a cycle brings anything along that lasts;
and if none does, rules taken in the right order reach such a text with the first pass.
-/
import Luther.Lib.Rewriting
import Mathlib.Order.Antisymmetrization

namespace Rewriting

open Relation

variable {α : Type*} {rules order : List (α × List α)} {text word : List α} {a b c : α}

abbrev Leads (rules : List (α × List α)) : α → α → Prop := ReflTransGen (Refers rules)

/-- The letter leads back to itself. -/
abbrev OnCycle (rules : List (α × List α)) (a : α) : Prop := TransGen (Refers rules) a a

/-! ### Letters that vanish -/

/-- Nothing is left of the letter once everything is rewritten. -/
inductive Vanishes (rules : List (α × List α)) : α → Prop
  | mk {a : α} {word : List α} (h : (a, word) ∈ rules) (hword : ∀ b ∈ word, Vanishes rules b) :
      Vanishes rules a

theorem Vanishes.rewrites (h : Vanishes rules a) : Rewrites rules [a] [] := by
  induction h with
  | @mk a word hrule _ ih =>
    have hword : ∀ {text : List α}, (∀ b ∈ text, Rewrites rules [b] []) →
        Rewrites rules text [] := by
      intro text
      induction text with
      | nil => exact fun _ => .refl
      | cons x text ihtext =>
        intro hall
        rw [List.forall_mem_cons] at hall
        exact hall.1.append (ihtext hall.2)
    have hstep : Step rules ([] ++ a :: []) ([] ++ word ++ []) := .mk hrule [] []
    rw [List.nil_append, List.nil_append, List.append_nil] at hstep
    exact .head hstep (hword ih)

theorem rewrites_nil_iff : Rewrites rules text [] ↔ ∀ a ∈ text, Vanishes rules a := by
  constructor
  · intro h
    induction h using ReflTransGen.head_induction_on with
    | refl => exact fun a ha => absurd ha List.not_mem_nil
    | head hstep _ ih =>
      obtain ⟨hrule, before, after⟩ := hstep
      rw [List.forall_mem_append, List.forall_mem_append] at ih
      rw [List.forall_mem_append, List.forall_mem_cons]
      exact ⟨ih.1.1, ⟨hrule, ih.1.2⟩, ih.2⟩
  · intro h
    induction text with
    | nil => exact .refl
    | cons x text ih =>
      rw [List.forall_mem_cons] at h
      exact h.1.rewrites.append (ih h.2)

theorem exists_lasting (hrule : (a, word) ∈ rules) (h : ¬ Vanishes rules a) :
    ∃ b ∈ word, ¬ Vanishes rules b := by
  by_contra hnone
  push Not at hnone
  exact h ⟨hrule, hnone⟩

section Lasting

variable (hrules : (letters rules).Nodup)

include hrules

theorem mem_word_of_refers (hrule : (a, word) ∈ rules) (h : Refers rules a b) : b ∈ word := by
  obtain ⟨other, hother, hb⟩ := h
  rwa [eq_of_mem_rules hrules hrule hother]

theorem Vanishes.not_onCycle (h : Vanishes rules a) (hleads : Leads rules a b) :
    ¬ OnCycle rules b := by
  induction h with
  | @mk a word hrule _ ih =>
    intro hcycle
    rcases hleads.cases_head with rfl | ⟨c, hac, hcb⟩
    · obtain ⟨c, hac, hca⟩ := TransGen.head'_iff.mp hcycle
      exact ih c (mem_word_of_refers hrules hrule hac) hca hcycle
    · exact ih c (mem_word_of_refers hrules hrule hac) hcb hcycle

end Lasting

open Classical in
/-- The letters of a text that do not vanish. -/
noncomputable def lasting (rules : List (α × List α)) (text : List α) : List α :=
  text.filter fun a => ¬ Vanishes rules a

theorem mem_lasting : a ∈ lasting rules text ↔ a ∈ text ∧ ¬ Vanishes rules a := by
  simp [lasting]

theorem lasting_append (left right : List α) :
    lasting rules (left ++ right) = lasting rules left ++ lasting rules right :=
  List.filter_append ..

theorem lasting_singleton (h : ¬ Vanishes rules a) : lasting rules [a] = [a] := by
  simp [lasting, h]

theorem lasting_eq_nil (h : ∀ a ∈ text, Vanishes rules a) : lasting rules text = [] := by
  simpa [lasting] using h

theorem lasting_eq_self (h : ∀ a ∈ text, ¬ Vanishes rules a) : lasting rules text = text := by
  simpa [lasting] using h

/-- At most one letter of the word lasts. -/
def Single (rules : List (α × List α)) (word : List α) : Prop := (lasting rules word).length ≤ 1

variable {left right : List α}

theorem single_of_vanish (hleft : ∀ b ∈ left, Vanishes rules b)
    (hright : ∀ b ∈ right, Vanishes rules b) (a : α) : Single rules (left ++ a :: right) := by
  unfold Single
  rw [← List.singleton_append, lasting_append, lasting_append, lasting_eq_nil hleft,
    lasting_eq_nil hright, List.nil_append, List.append_nil]
  exact List.length_filter_le _ _

theorem Single.vanish (h : Single rules (left ++ a :: right)) (ha : ¬ Vanishes rules a) :
    (∀ b ∈ left, Vanishes rules b) ∧ ∀ b ∈ right, Vanishes rules b := by
  unfold Single at h
  rw [← List.singleton_append, lasting_append, lasting_append, lasting_singleton ha,
    List.length_append, List.length_append, List.length_singleton] at h
  have hnone : ∀ {part : List α}, (lasting rules part).length = 0 →
      ∀ b ∈ part, Vanishes rules b := by
    intro part hzero b hb
    by_contra hlasts
    exact absurd (List.length_pos_of_mem (mem_lasting.mpr ⟨hb, hlasts⟩)) (by omega)
  exact ⟨hnone (by omega), hnone (by omega)⟩

theorem Single.lasting_eq (h : Single rules word) (ha : a ∈ word) (hlasts : ¬ Vanishes rules a) :
    lasting rules word = [a] := by
  have hmem := mem_lasting.mpr ⟨ha, hlasts⟩
  obtain ⟨only, honly⟩ := List.length_eq_one_iff.mp
    (Nat.le_antisymm h (List.length_pos_of_mem hmem))
  rw [honly, List.mem_singleton] at hmem
  rw [honly, hmem]

/-! ### Letters that lead to each other -/

section

variable (rules : List (α × List α))

/-- Each of the two letters leads to the other. -/
abbrev Mutual : α → α → Prop := AntisymmRel (Leads rules)

/-- One letter for all that lead to each other. -/
noncomputable def chosen (a : α) : α :=
  ofAntisymmetrization (Leads rules) (toAntisymmetrization (Leads rules) a)

theorem mutual_chosen (a : α) : Mutual rules (chosen rules a) a :=
  Quotient.exact (toAntisymmetrization_ofAntisymmetrization (Leads rules) _)

end

theorem Mutual.chosen_eq (h : Mutual rules a b) : chosen rules a = chosen rules b :=
  congrArg (ofAntisymmetrization (Leads rules)) (Quotient.sound h)

theorem Mutual.onCycle (h : Mutual rules a b) (ha : OnCycle rules a) : OnCycle rules b :=
  (TransGen.trans_right h.2 ha).trans_left h.1

theorem mem_letters_of_refers (h : Refers rules a b) : a ∈ letters rules :=
  mem_letters_of_leads (.single h)

theorem Leads.eq_or_mem (h : Leads rules a b) : a = b ∨ a ∈ letters rules := by
  rcases h.cases_head with hsame | ⟨c, hac, -⟩
  · exact .inl hsame
  · exact .inr (mem_letters_of_refers hac)

/-- If the letter has a rule, it is the chosen one of those on its cycle. -/
def Remains (rules : List (α × List α)) (a : α) : Prop :=
  a ∈ letters rules → OnCycle rules a ∧ chosen rules a = a

theorem Mutual.eq_of_remains (h : Mutual rules a b) (ha : Remains rules a)
    (hb : Remains rules b) : a = b := by
  rcases Leads.eq_or_mem h.1 with hsame | haletter
  · exact hsame
  rcases Leads.eq_or_mem h.2 with hsame | hbletter
  · exact hsame.symm
  rw [← (ha haletter).2, ← (hb hbletter).2, h.chosen_eq]

theorem eq_of_mutual (h : List.Forall₂ (Mutual rules) left right)
    (hleft : ∀ a ∈ left, Remains rules a) (hright : ∀ a ∈ right, Remains rules a) :
    left = right := by
  induction h with
  | nil => rfl
  | cons hab _ ih =>
    rw [List.forall_mem_cons] at hleft hright
    rw [Mutual.eq_of_remains hab hleft.1 hright.1, ih hleft.2 hright.2]

/-! ### A pass that changes nothing -/

variable [DecidableEq α] {rule : α × List α}

theorem substitute_cons (rule : α × List α) (x : α) (text : List α) :
    substitute rule (x :: text) =
      (if x = rule.1 then rule.2 else [x]) ++ substitute rule text := rfl

theorem pass_append (before after : List (α × List α)) (text : List α) :
    pass (before ++ after) text = pass after (pass before text) :=
  List.foldl_append ..

section Growth

theorem length_lasting_singleton (h : rule ∈ rules) (x : α) : (lasting rules [x]).length ≤
    (lasting rules (if x = rule.1 then rule.2 else [x])).length := by
  by_cases hx : x = rule.1
  · rw [if_pos hx]
    by_cases hvanishes : Vanishes rules x
    · rw [lasting_eq_nil (List.forall_mem_singleton.mpr hvanishes)]
      exact Nat.zero_le _
    · obtain ⟨b, hb, hlasts⟩ := exists_lasting (hx ▸ h : (x, rule.2) ∈ rules) hvanishes
      rw [lasting_singleton hvanishes]
      exact List.length_pos_of_mem (mem_lasting.mpr ⟨hb, hlasts⟩)
  · rw [if_neg hx]

theorem length_lasting_substitute (h : rule ∈ rules) (text : List α) :
    (lasting rules text).length ≤ (lasting rules (substitute rule text)).length := by
  induction text with
  | nil => exact Nat.le_refl _
  | cons x text ih =>
    have hhead := length_lasting_singleton h x
    rw [substitute_cons, ← List.singleton_append, lasting_append, lasting_append,
      List.length_append, List.length_append]
    omega

theorem length_lasting_pass (h : ∀ rule ∈ order, rule ∈ rules) (text : List α) :
    (lasting rules text).length ≤ (lasting rules (pass order text)).length := by
  induction order generalizing text with
  | nil => exact Nat.le_refl _
  | cons rule order ih =>
    rw [List.forall_mem_cons] at h
    exact (length_lasting_substitute h.1 text).trans (ih h.2 _)

theorem lasting_grows (h : rule ∈ rules) (hgrows : ¬ Single rules rule.2) (hmem : rule.1 ∈ text) :
    (lasting rules text).length < (lasting rules (substitute rule text)).length := by
  unfold Single at hgrows
  induction text with
  | nil => exact absurd hmem List.not_mem_nil
  | cons x text ih =>
    have hhead := length_lasting_singleton h x
    have hrest := length_lasting_substitute h text
    rw [substitute_cons, ← List.singleton_append, lasting_append, lasting_append,
      List.length_append, List.length_append]
    by_cases hx : x = rule.1
    · have hone : (lasting rules [x]).length ≤ 1 := List.length_filter_le _ _
      rw [if_pos hx]
      omega
    · have hlater := ih ((List.mem_cons.mp hmem).resolve_left (Ne.symm hx))
      omega

/-- The letter stands in the text when the turn of its rule comes. -/
def Turn (order : List (α × List α)) (text : List α) (b : α) : Prop :=
  ∃ before word after, order = before ++ (b, word) :: after ∧ b ∈ pass before text

theorem turn_of_mem (hb : b ∈ letters order) (h : b ∈ text) : Turn order text b := by
  induction order generalizing text with
  | nil => exact absurd hb List.not_mem_nil
  | cons rule order ih =>
    by_cases hrule : b = rule.1
    · exact ⟨[], rule.2, order, by rw [hrule]; rfl, h⟩
    · obtain ⟨before, word, after, rfl, hturn⟩ :=
        ih ((List.mem_cons.mp hb).resolve_left hrule) (mem_substitute.mpr (.inl ⟨h, hrule⟩))
      exact ⟨rule :: before, word, after, rfl, hturn⟩

theorem mem_pass_of_mem (hb : b ∉ letters order) (h : b ∈ text) : b ∈ pass order text := by
  induction order generalizing text with
  | nil => exact h
  | cons rule order ih =>
    obtain ⟨hne, hlater⟩ := not_or.mp (mt List.mem_cons.mpr hb)
    exact ih hlater (mem_substitute.mpr (.inl ⟨h, hne⟩))

variable (hrules : (letters rules).Nodup) (horder : order.Perm rules)

include hrules horder

/-- In a pass that changes nothing, the turn comes of every letter that is led to. -/
theorem turn_of_leads (hsame : pass order text = text) (ha : a ∈ text) (h : Leads rules a b)
    (hb : b ∈ letters rules) : Turn order text b := by
  induction h with
  | refl => exact turn_of_mem ((letters_perm horder a).mpr hb) ha
  | @tail c b _ hcb ih =>
    obtain ⟨word, hrule, -⟩ := id hcb
    obtain ⟨before, word', after, hsplit, hturn⟩ := ih (mem_letters.mpr ⟨word, hrule⟩)
    have hrule' : (c, word') ∈ rules := horder.mem_iff.mp (by rw [hsplit]; simp)
    have hnext : b ∈ substitute (c, word') (pass before text) :=
      mem_substitute.mpr (.inr ⟨hturn, mem_word_of_refers hrules hrule' hcb⟩)
    by_cases hlater : b ∈ letters after
    · obtain ⟨between, word, rest, rfl, hbturn⟩ := turn_of_mem hlater hnext
      refine ⟨before ++ (c, word') :: between, word, rest, by rw [hsplit]; simp, ?_⟩
      rwa [pass_append]
    · have hend := mem_pass_of_mem hlater hnext
      rw [← pass_cons, ← pass_append, ← hsplit, hsame] at hend
      exact turn_of_mem ((letters_perm horder b).mpr hb) hend

/-- **A pass changes a text that leads to a letter with more than one that lasts.** -/
theorem pass_ne (ha : a ∈ text) (h : Leads rules a b) (hrule : (b, word) ∈ rules)
    (hgrows : ¬ Single rules word) : pass order text ≠ text := by
  intro hsame
  obtain ⟨before, word', after, hsplit, hturn⟩ :=
    turn_of_leads hrules horder hsame ha h (mem_letters.mpr ⟨word, hrule⟩)
  have hin : ∀ rule ∈ before ++ (b, word') :: after, rule ∈ rules :=
    fun rule hmem => horder.mem_iff.mp (hsplit ▸ hmem)
  rw [List.forall_mem_append, List.forall_mem_cons] at hin
  rw [eq_of_mem_rules hrules hrule hin.2.1] at hgrows
  have hfront := length_lasting_pass hin.1 text
  have hgrown := lasting_grows hin.2.1 hgrows hturn
  have hback := length_lasting_pass hin.2.2 (substitute (b, word') (pass before text))
  rw [← pass_cons, ← pass_append, ← hsplit, hsame] at hback
  omega

/-- **What leads to a letter on a cycle goes on doing so.** -/
theorem leads_iterate (hcycle : OnCycle rules b) (h : ∃ a ∈ text, Leads rules a b) (n : Nat) :
    ∃ a ∈ (pass order)^[n] text, Leads rules a b := by
  have hpass : ∀ {order : List (α × List α)}, (∀ rule ∈ order, rule ∈ rules) →
      ∀ {text : List α}, (∃ a ∈ text, Leads rules a b) →
        ∃ a ∈ pass order text, Leads rules a b := by
    intro order
    induction order with
    | nil => exact fun _ _ h => h
    | cons rule order ih =>
      intro hin text ⟨a, ha, hleads⟩
      rw [List.forall_mem_cons] at hin
      refine ih hin.2 ?_
      by_cases hrule : a = rule.1
      · obtain ⟨c, hac, hcb⟩ : ∃ c, Refers rules a c ∧ Leads rules c b := by
          rcases hleads.cases_head with rfl | hhead
          · exact TransGen.head'_iff.mp hcycle
          · exact hhead
        refine ⟨c, mem_substitute.mpr (.inr ⟨hrule ▸ ha, ?_⟩), hcb⟩
        exact mem_word_of_refers hrules (hrule ▸ hin.1) hac
      · exact ⟨a, mem_substitute.mpr (.inl ⟨ha, hrule⟩), hleads⟩
  induction n with
  | zero => exact h
  | succ n ih =>
    rw [Function.iterate_succ_apply']
    exact hpass (fun rule => horder.mem_iff.mp) ih

end Growth

theorem pass_of_alone (hcycle : OnCycle [(a, word)] a) (hword : Single [(a, word)] word)
    (text : List α) : pass [(a, word)] text = text := by
  have hlasts : ∀ b, ¬ Vanishes [(a, word)] b := by
    intro b hvanishes
    obtain ⟨hrule, -⟩ := id hvanishes
    obtain ⟨rfl, -⟩ := Prod.mk.inj (List.mem_singleton.mp hrule)
    exact hvanishes.not_onCycle (by simp [letters]) .refl hcycle
  obtain ⟨c, ⟨_, hrule, hc⟩, hca⟩ := TransGen.head'_iff.mp hcycle
  obtain ⟨-, rfl⟩ := Prod.mk.inj (List.mem_singleton.mp hrule)
  have honly := hword.lasting_eq hc (hlasts c)
  rw [lasting_eq_self fun b _ => hlasts b] at honly
  have hsame : c = a := by
    rcases Leads.eq_or_mem hca with hsame | hletter
    · exact hsame
    · exact List.mem_singleton.mp hletter
  subst hsame
  have hkept : (fun x => if x = c then [c] else [x]) = fun x => [x] := by
    funext x
    split
    · rename_i hx
      rw [hx]
    · rfl
  rw [honly]
  show text.flatMap (fun x => if x = c then [c] else [x]) = text
  rw [hkept, List.flatMap_singleton']

/-! ### An order that comes to a stand -/

/-- The text leads to the letter. -/
def Reached (rules : List (α × List α)) (text : List α) (b : α) : Prop :=
  ∃ a ∈ text, Leads rules a b

omit [DecidableEq α] in
theorem Reached.leads (h : Reached rules text a) (hleads : Leads rules a b) :
    Reached rules text b := by
  obtain ⟨x, hx, hxa⟩ := h
  exact ⟨x, hx, hxa.trans hleads⟩

theorem reached_of_mem_pass (hin : ∀ rule ∈ order, rule ∈ rules) {start : List α}
    (h : ∀ a ∈ text, Reached rules start a) : ∀ a ∈ pass order text, Reached rules start a := by
  intro b hb
  rcases mem_pass hb with ⟨hmem, -⟩ | ⟨a, ha, hleads⟩
  · exact h b hmem
  · exact (h a ha).leads (leads_mono hin hleads).to_reflTransGen

open Classical in
/-- The rules of the letters that are led to and do not remain. -/
noncomputable def passing (rules : List (α × List α)) (text : List α) : List (α × List α) :=
  rules.filter fun rule => !decide (Reached rules text rule.1 → Remains rules rule.1)

omit [DecidableEq α] in
theorem mem_passing : rule ∈ passing rules text ↔
    rule ∈ rules ∧ Reached rules text rule.1 ∧ ¬ Remains rules rule.1 := by
  simp [passing]

section Standing

variable (hrules : (letters rules).Nodup)
  (hsingle : ∀ a word, Reached rules text a → OnCycle rules a → (a, word) ∈ rules →
    Single rules word)

include hrules hsingle

omit [DecidableEq α] in
/-- Cycles run through letters that remain: along a cycle one letter follows another, and from any
of them the chosen one is come to. -/
theorem acyclic_passing : Acyclic (passing rules text) := by
  have hmono : ∀ {a b}, TransGen (Refers (passing rules text)) a b → TransGen (Refers rules) a b :=
    leads_mono fun _ hmem => (mem_passing.mp hmem).1
  have hwalk : ∀ {a b}, OnCycle rules b → Leads rules a b → OnCycle (passing rules text) a →
      OnCycle (passing rules text) b := by
    intro a b hb hleads
    induction hleads using ReflTransGen.head_induction_on with
    | refl => exact id
    | @head a c hac hcb ih =>
      intro hcycle
      obtain ⟨d, ⟨word, hrule, hd⟩, hda⟩ := TransGen.head'_iff.mp hcycle
      obtain ⟨hin, hreached, -⟩ := mem_passing.mp hrule
      have hword := hsingle a word hreached (hmono hcycle) hin
      have hdcycle : OnCycle (passing rules text) d := TransGen.tail' hda ⟨word, hrule, hd⟩
      have hdlasts : ¬ Vanishes rules d := fun hvanishes =>
        hvanishes.not_onCycle hrules .refl (hmono hdcycle)
      have hclasts : ¬ Vanishes rules c := fun hvanishes =>
        hvanishes.not_onCycle hrules hcb hb
      have hsame := (hword.lasting_eq (mem_word_of_refers hrules hin hac) hclasts).symm.trans
        (hword.lasting_eq hd hdlasts)
      obtain rfl := (List.cons.inj hsame).1
      exact ih hdcycle
  intro a hcycle
  have hchosen := mutual_chosen rules a
  have hon := hwalk (Mutual.onCycle hchosen.symm (hmono hcycle)) hchosen.2 hcycle
  obtain ⟨word, hrule⟩ := mem_letters.mp (mem_letters_of_leads hon)
  exact (mem_passing.mp hrule).2.2 fun _ => ⟨hmono hon, Mutual.chosen_eq hchosen⟩

/-- Where each letter of a text stands one that leads to it and is led to by it, between letters
that vanish. -/
theorem mutual_substitute (h : rule ∈ rules) {stood text' : List α}
    (hstood : ∀ a ∈ stood, Reached rules text a ∧ Remains rules a)
    (hnow : List.Forall₂ (Mutual rules) stood (lasting rules text')) :
    List.Forall₂ (Mutual rules) stood (lasting rules (substitute rule text')) := by
  induction text' generalizing stood with
  | nil => exact hnow
  | cons x text' ih =>
    rw [← List.singleton_append, lasting_append] at hnow
    rw [substitute_cons, lasting_append]
    by_cases hvanishes : Vanishes rules x
    · rw [lasting_eq_nil (List.forall_mem_singleton.mpr hvanishes)] at hnow
      have hput : lasting rules (if x = rule.1 then rule.2 else [x]) = [] := by
        by_cases hx : x = rule.1
        · obtain ⟨hrule, hword⟩ := hvanishes
          rw [if_pos hx, ← eq_of_mem_rules hrules hrule (hx ▸ h : (x, rule.2) ∈ rules)]
          exact lasting_eq_nil hword
        · rw [if_neg hx]
          exact lasting_eq_nil (List.forall_mem_singleton.mpr hvanishes)
      rw [hput]
      exact ih hstood hnow
    · rw [lasting_singleton hvanishes] at hnow
      obtain ⟨p, rest, hpx, hrest, rfl⟩ := List.forall₂_cons_right_iff.mp hnow
      rw [List.forall_mem_cons] at hstood
      by_cases hx : x = rule.1
      · have hrule : (x, rule.2) ∈ rules := hx ▸ h
        have hpletter : p ∈ letters rules := by
          rcases Leads.eq_or_mem hpx.1 with rfl | hletter
          · exact mem_letters.mpr ⟨rule.2, hrule⟩
          · exact hletter
        have hcycle := Mutual.onCycle hpx (hstood.1.2 hpletter).1
        obtain ⟨c, hxc, hcx⟩ := TransGen.head'_iff.mp hcycle
        have hlasts : ¬ Vanishes rules c := fun hvanishes =>
          hvanishes.not_onCycle hrules hcx hcycle
        rw [if_pos hx, (hsingle x rule.2 (hstood.1.1.leads hpx.1) hcycle hrule).lasting_eq
          (mem_word_of_refers hrules hrule hxc) hlasts]
        exact .cons ⟨hpx.1.tail hxc, hcx.trans hpx.2⟩ (ih hstood.2 hrest)
      · rw [if_neg hx, lasting_singleton hvanishes]
        exact .cons hpx (ih hstood.2 hrest)

/-- **Where only one letter lasts of every word along the cycles, rules taken in the right order
come to a stand after one pass.** -/
theorem exists_standing :
    ∃ order : List (α × List α), order.Perm rules ∧
      pass order (pass order text) = pass order text := by
  classical
  obtain ⟨last, hlast, hsettles⟩ := exists_settling (acyclic_passing hrules hsingle)
  let first := rules.filter fun rule => decide (Reached rules text rule.1 → Remains rules rule.1)
  have hperm : (first ++ last).Perm rules :=
    (hlast.append_left first).trans (List.filter_append_perm _ _)
  have hin : ∀ rule ∈ first ++ last, rule ∈ rules := fun _ => hperm.mem_iff.mp
  have hends : ∀ text', (∀ a ∈ text', Reached rules text a) →
      ∀ a ∈ pass (first ++ last) text', Reached rules text a ∧ Remains rules a := by
    intro text' hreached a ha
    have hnow := reached_of_mem_pass hin hreached a ha
    refine ⟨hnow, ?_⟩
    by_contra hremains
    obtain ⟨hletter, -⟩ := Classical.not_imp.mp hremains
    obtain ⟨word, hrule⟩ := mem_letters.mp hletter
    rw [pass_append] at ha
    exact hsettles _ a ha (mem_letters.mpr ⟨word, mem_passing.mpr ⟨hrule, hnow, hremains⟩⟩)
  have hlasts : ∀ {text'}, (∀ a ∈ text', Reached rules text a ∧ Remains rules a) →
      lasting rules text' = text' := by
    intro text' hstands
    refine lasting_eq_self fun a ha hvanishes => ?_
    obtain ⟨hrule, -⟩ := id hvanishes
    exact hvanishes.not_onCycle hrules .refl ((hstands a ha).2 (mem_letters.mpr ⟨_, hrule⟩)).1
  have hfirst := hends text fun a ha => ⟨a, ha, .refl⟩
  have hsecond := hends _ fun a ha => (hfirst a ha).1
  have hmutual : ∀ {order}, (∀ rule ∈ order, rule ∈ rules) → ∀ {text'},
      List.Forall₂ (Mutual rules) (pass (first ++ last) text) (lasting rules text') →
        List.Forall₂ (Mutual rules) (pass (first ++ last) text)
          (lasting rules (pass order text')) := by
    intro order
    induction order with
    | nil => exact fun _ _ hnow => hnow
    | cons rule order ih =>
      intro hin text' hnow
      rw [List.forall_mem_cons] at hin
      exact ih hin.2 (mutual_substitute hrules hsingle hin.1 hfirst hnow)
  have hstart : List.Forall₂ (Mutual rules) (pass (first ++ last) text)
      (lasting rules (pass (first ++ last) text)) := by
    rw [hlasts hfirst]
    exact List.forall₂_same.mpr fun _ _ => ⟨.refl, .refl⟩
  have hboth := hmutual hin hstart
  rw [hlasts hsecond] at hboth
  exact ⟨first ++ last, hperm, (eq_of_mutual hboth (fun a ha => (hfirst a ha).2)
    fun a ha => (hsecond a ha).2).symm⟩

end Standing

end Rewriting
