/-
The text of a JSON value tells what the value is.

Every value begins with a character that tells its kind and ends where the text of no other value
goes on.  A number alone does not say where it ends; what may stand behind a value does, since it
is no part of a number.
-/
import Luther.Lib.Json
import Luther.Lib.Text

namespace Json

open Luther (isDigit_of_mem_repr)

/-! ### String literals -/

/-- A character that a literal does not escape. -/
def Plain (c : Char) : Prop := 32 ≤ c.toNat ∧ c.toNat ≠ 34 ∧ c.toNat ≠ 92

instance (c : Char) : Decidable (Plain c) := inferInstanceAs (Decidable (_ ∧ _))

variable {c : Char} {r s : List Char} {n : Int}

theorem escapeChar_plain (h : Plain c) : (escapeChar c).toList = [c] := by
  obtain ⟨hlow, hquote, hslash⟩ := h
  unfold escapeChar
  split
  all_goals first
    | omega
    | skip
  rw [if_neg (by omega)]
  simp

theorem toNat_of_not_plain (h : ¬ Plain c) :
    c.toNat ∈ 34 :: 92 :: List.range 32 := by
  unfold Plain at h
  simp only [List.mem_cons, List.mem_range]
  omega

theorem escapes_apart : ∀ m ∈ 34 :: 92 :: List.range 32, ∀ n ∈ 34 :: 92 :: List.range 32,
    (escapeChar (Char.ofNat m)).toList <+: (escapeChar (Char.ofNat n)).toList → m = n := by
  decide +kernel

theorem head_escape : ∀ m ∈ 34 :: 92 :: List.range 32,
    (escapeChar (Char.ofNat m)).toList.head? = some '\\' := by
  decide +kernel

theorem escapeChar_not_plain (h : ¬ Plain c) :
    ∃ rest, (escapeChar c).toList = '\\' :: rest := by
  have hhead := head_escape c.toNat (toNat_of_not_plain h)
  rw [Char.ofNat_toNat] at hhead
  obtain ⟨rest, hrest⟩ := List.head?_eq_some_iff.mp hhead
  exact ⟨rest, hrest⟩

theorem escapeChar_append_inj {d : Char}
    (h : (escapeChar c).toList ++ r = (escapeChar d).toList ++ s) : c = d ∧ r = s := by
  have hsame : c = d := by
    by_cases hc : Plain c
    · by_cases hd : Plain d
      · rw [escapeChar_plain hc, escapeChar_plain hd] at h
        exact (List.cons.inj h).1
      · obtain ⟨rest, hrest⟩ := escapeChar_not_plain hd
        rw [escapeChar_plain hc, hrest] at h
        exact absurd ((List.cons.inj h).1 ▸ hc) (by decide)
    · by_cases hd : Plain d
      · obtain ⟨rest, hrest⟩ := escapeChar_not_plain hc
        rw [escapeChar_plain hd, hrest] at h
        exact absurd ((List.cons.inj h).1 ▸ hd) (by decide)
      · have hc' := toNat_of_not_plain hc
        have hd' := toNat_of_not_plain hd
        have hleft : (escapeChar c).toList <+: (escapeChar d).toList ++ s :=
          h ▸ List.prefix_append _ _
        rcases List.prefix_or_prefix_of_prefix hleft (List.prefix_append _ _) with hpre | hpre
        · have happart := escapes_apart _ hc' _ hd'
          rw [Char.ofNat_toNat, Char.ofNat_toNat] at happart
          exact Char.toNat_inj.mp (happart hpre)
        · have happart := escapes_apart _ hd' _ hc'
          rw [Char.ofNat_toNat, Char.ofNat_toNat] at happart
          exact (Char.toNat_inj.mp (happart hpre)).symm
  obtain rfl := hsame
  exact ⟨rfl, List.append_cancel_left h⟩

theorem head_escapeChar_ne_quote (c : Char) (r : List Char) (s : List Char) :
    '"' :: r ≠ (escapeChar c).toList ++ s := by
  intro h
  by_cases hc : Plain c
  · rw [escapeChar_plain hc] at h
    exact absurd ((List.cons.inj h).1 ▸ hc) (by decide)
  · obtain ⟨rest, hrest⟩ := escapeChar_not_plain hc
    rw [hrest] at h
    exact absurd (List.cons.inj h).1 (by decide)

theorem escapes_append_inj {xs ys : List Char}
    (h : xs.flatMap (fun c => (escapeChar c).toList) ++ '"' :: r =
      ys.flatMap (fun c => (escapeChar c).toList) ++ '"' :: s) : xs = ys ∧ r = s := by
  induction xs generalizing ys with
  | nil =>
    cases ys with
    | nil => exact ⟨rfl, (List.cons.inj h).2⟩
    | cons d ys =>
      rw [List.flatMap_cons, List.append_assoc] at h
      exact absurd h (head_escapeChar_ne_quote d r _)
  | cons c xs ih =>
    cases ys with
    | nil =>
      rw [List.flatMap_cons, List.append_assoc] at h
      exact absurd h.symm (head_escapeChar_ne_quote c s _)
    | cons d ys =>
      rw [List.flatMap_cons, List.flatMap_cons, List.append_assoc, List.append_assoc] at h
      obtain ⟨rfl, hrest⟩ := escapeChar_append_inj h
      obtain ⟨rfl, rfl⟩ := ih hrest
      exact ⟨rfl, rfl⟩

theorem toList_quote (text : String) :
    (quote text).toList =
      '"' :: (text.toList.flatMap (fun c => (escapeChar c).toList) ++ ['"']) := by
  have hmark : "\"".toList = ['"'] := rfl
  unfold quote
  rw [String.toList_append, String.toList_append, String.toList_join, List.flatMap_map, hmark]
  rfl

theorem quote_append_inj {a b : String} (h : (quote a).toList ++ r = (quote b).toList ++ s) :
    a = b ∧ r = s := by
  rw [toList_quote, toList_quote, List.cons_append, List.cons_append, List.append_assoc,
    List.append_assoc] at h
  obtain ⟨hchars, hrest⟩ := escapes_append_inj (List.cons.inj h).2
  exact ⟨String.toList_inj.mp hchars, hrest⟩

/-! ### Numbers -/

def numeral (c : Char) : Bool := c.isDigit || c == '-'

theorem toList_num :
    (toString n).toList =
      if 0 ≤ n then n.toNat.repr.toList else '-' :: (-n).toNat.repr.toList := by
  rw [Int.toString_eq_repr, Int.repr_eq_if]
  split
  · rfl
  · rw [String.toList_append]
    rfl

theorem repr_inj {m n : Nat} (h : m.repr.toList = n.repr.toList) : m = n := by
  rw [Nat.toList_repr, Nat.toList_repr] at h
  rw [← @Nat.ofDigitChars_ten_toDigits m, h, Nat.ofDigitChars_ten_toDigits]

theorem repr_ne_cons_dash (n : Nat) (rest : List Char) : n.repr.toList ≠ '-' :: rest := by
  intro h
  have hmem : '-' ∈ n.repr.toList := h ▸ List.mem_cons_self
  exact absurd (isDigit_of_mem_repr hmem) (by decide)

theorem toList_num_inj {m : Int} (h : (toString m).toList = (toString n).toList) : m = n := by
  rw [toList_num, toList_num] at h
  by_cases hm : 0 ≤ m
  · by_cases hn : 0 ≤ n
    · rw [if_pos hm, if_pos hn] at h
      have := repr_inj h
      omega
    · rw [if_pos hm, if_neg hn] at h
      exact absurd h (repr_ne_cons_dash _ _)
  · by_cases hn : 0 ≤ n
    · rw [if_neg hm, if_pos hn] at h
      exact absurd h.symm (repr_ne_cons_dash _ _)
    · rw [if_neg hm, if_neg hn] at h
      have := repr_inj (List.cons.inj h).2
      omega

theorem numeral_of_mem (h : c ∈ (toString n).toList) :
    numeral c = true := by
  unfold numeral
  rw [toList_num] at h
  split at h
  · rw [isDigit_of_mem_repr h, Bool.true_or]
  · rcases List.mem_cons.mp h with rfl | h
    · decide
    · rw [isDigit_of_mem_repr h, Bool.true_or]

/-- What may stand behind a value. -/
def Follows (rest : List Char) : Prop :=
  ∀ c ∈ rest.head?, c = ',' ∨ c = ']' ∨ c = '\x7d'

theorem takeWhile_numeral (hr : Follows r) :
    ((toString n).toList ++ r).takeWhile numeral = (toString n).toList := by
  rw [List.takeWhile_append_of_pos fun c hc => numeral_of_mem hc]
  have hnil : r.takeWhile numeral = [] := by
    cases r with
    | nil => rfl
    | cons c rest => rcases hr c rfl with rfl | rfl | rfl <;> rfl
  rw [hnil, List.append_nil]

theorem num_append_inj {m : Int} (hr : Follows r) (hs : Follows s)
    (h : (toString m).toList ++ r = (toString n).toList ++ s) : m = n ∧ r = s := by
  have htake := congrArg (List.takeWhile numeral) h
  rw [takeWhile_numeral hr, takeWhile_numeral hs] at htake
  obtain rfl := toList_num_inj htake
  exact ⟨rfl, List.append_cancel_left h⟩

/-! ### Values -/

/-- The characters of the elements of an array, up to and with what closes it. -/
def elementsText (close : Char) (r : List Char) : List String → List Char
  | [] => close :: r
  | [element] => element.toList ++ close :: r
  | element :: rest => element.toList ++ ',' :: elementsText close r rest

theorem intercalate_append (close : Char) (r : List Char) (elements : List String) :
    (",".intercalate elements).toList ++ close :: r = elementsText close r elements := by
  induction elements with
  | nil => rfl
  | cons element rest ih =>
    cases rest with
    | nil => rw [String.intercalate_singleton]; rfl
    | cons other rest =>
      rw [String.intercalate_cons_cons, String.toList_append, String.toList_append,
        List.append_assoc, List.append_assoc, ih]
      rfl

theorem render_arr_append (elements : List Json) (r : List Char) :
    (render (arr elements)).toList ++ r = '[' :: elementsText ']' r (renderList elements) := by
  rw [render, String.toList_append, String.toList_append, List.append_assoc, List.append_assoc]
  exact congrArg (List.cons '[') (intercalate_append ']' r (renderList elements))

theorem render_obj_append (entries : List (String × Json)) (r : List Char) :
    (render (obj entries)).toList ++ r =
      '\x7b' :: elementsText '\x7d' r (renderEntries entries) := by
  rw [render, String.toList_append, String.toList_append, List.append_assoc, List.append_assoc]
  exact congrArg (List.cons '\x7b') (intercalate_append '\x7d' r (renderEntries entries))

def kind : Json → Nat
  | null => 0
  | bool _ => 1
  | num _ => 2
  | str _ => 3
  | arr _ => 4
  | obj _ => 5

/-- The kind that the first character of a text tells. -/
def leadKind (c : Char) : Nat :=
  if c = 'n' then 0
  else if c = 't' ∨ c = 'f' then 1
  else if numeral c then 2
  else if c = '"' then 3
  else if c = '[' then 4
  else if c = '\x7b' then 5
  else 6

theorem leadKind_numeral (h : numeral c) : leadKind c = 2 := by
  unfold leadKind
  rw [if_neg, if_neg, if_pos h]
  · rintro (rfl | rfl)
    · exact absurd h (by decide)
    · exact absurd h (by decide)
  · rintro rfl
    exact absurd h (by decide)

theorem render_lead (a : Json) : ∃ c rest, (render a).toList = c :: rest ∧ leadKind c = kind a := by
  cases a with
  | null => exact ⟨'n', _, rfl, rfl⟩
  | bool b => cases b <;> exact ⟨_, _, rfl, rfl⟩
  | num n =>
    have hne : (toString n).toList ≠ [] := by
      rw [toList_num]
      split
      · simp
      · exact List.cons_ne_nil _ _
    obtain ⟨c, rest, hcons⟩ := List.exists_cons_of_ne_nil hne
    exact ⟨c, rest, hcons, leadKind_numeral (numeral_of_mem (hcons ▸ List.mem_cons_self))⟩
  | str text => exact ⟨'"', _, toList_quote text, rfl⟩
  | arr elements =>
    have htext := render_arr_append elements []
    rw [List.append_nil] at htext
    exact ⟨'[', _, htext, rfl⟩
  | obj entries =>
    have htext := render_obj_append entries []
    rw [List.append_nil] at htext
    exact ⟨'\x7b', _, htext, rfl⟩

theorem kind_eq {a b : Json} (h : (render a).toList ++ r = (render b).toList ++ s) :
    kind a = kind b := by
  obtain ⟨c, rest, hc, hkind⟩ := render_lead a
  obtain ⟨d, rest', hd, hkind'⟩ := render_lead b
  rw [hc, hd] at h
  rw [← hkind, ← hkind', (List.cons.inj h).1]

theorem render_ne_close {a : Json} (hc : leadKind c = 6) :
    (render a).toList ++ r ≠ c :: s := by
  intro h
  obtain ⟨d, rest, hd, hkind⟩ := render_lead a
  rw [hd] at h
  obtain rfl := (List.cons.inj h).1
  rw [hc] at hkind
  cases a <;> simp [kind] at hkind

theorem quote_ne_close {key : String} (hc : leadKind c = 6) :
    (quote key).toList ++ r ≠ c :: s := by
  intro h
  rw [toList_quote] at h
  obtain rfl := (List.cons.inj h).1
  exact absurd hc (by decide)

/-- What stands behind an element of an array or an entry of an object. -/
def afterElement (close : Char) (r : List Char) : List String → List Char
  | [] => close :: r
  | rest => ',' :: elementsText close r rest

theorem elementsText_cons (close : Char) (r : List Char) (element : String) (rest : List String) :
    elementsText close r (element :: rest) = element.toList ++ afterElement close r rest := by
  cases rest <;> rfl

theorem follows_afterElement {close : Char} (hclose : close = ']' ∨ close = '\x7d')
    (r : List Char) (rest : List String) : Follows (afterElement close r rest) := by
  intro c hc
  cases rest with
  | nil =>
    obtain rfl := Option.some.inj hc
    exact Or.inr hclose
  | cons other rest =>
    obtain rfl := Option.some.inj hc
    exact Or.inl rfl

theorem elementsText_of_after {close : Char} (hclose : close ≠ ',') {xs ys : List String}
    (h : afterElement close r xs = afterElement close s ys) :
    elementsText close r xs = elementsText close s ys := by
  cases xs with
  | nil =>
    cases ys with
    | nil => exact h
    | cons y ys => exact absurd (List.cons.inj h).1 hclose
  | cons x xs =>
    cases ys with
    | nil => exact absurd (List.cons.inj h).1.symm hclose
    | cons y ys => exact (List.cons.inj h).2

mutual

/-- **The text of a value, wherever it stands, is the text of no other.** -/
theorem render_append_inj : (a b : Json) → {r s : List Char} → Follows r → Follows s →
    (render a).toList ++ r = (render b).toList ++ s → a = b ∧ r = s
  | null, null, _, _, _, _, h => ⟨rfl, List.append_cancel_left h⟩
  | bool x, bool y, _, _, _, _, h => by
    cases x <;> cases y
    all_goals first
      | exact ⟨rfl, List.append_cancel_left h⟩
      | exact absurd (List.cons.inj h).1 (by decide)
  | num m, num n, _, _, hr, hs, h => by
    obtain ⟨rfl, rfl⟩ := num_append_inj hr hs h
    exact ⟨rfl, rfl⟩
  | str x, str y, _, _, _, _, h => by
    obtain ⟨rfl, rfl⟩ := quote_append_inj h
    exact ⟨rfl, rfl⟩
  | arr xs, arr ys, r, s, _, _, h => by
    rw [render_arr_append, render_arr_append] at h
    obtain ⟨rfl, rfl⟩ := renderList_inj xs ys (List.cons.inj h).2
    exact ⟨rfl, rfl⟩
  | obj xs, obj ys, r, s, _, _, h => by
    rw [render_obj_append, render_obj_append] at h
    obtain ⟨rfl, rfl⟩ := renderEntries_inj xs ys (List.cons.inj h).2
    exact ⟨rfl, rfl⟩
  | null, bool _, _, _, _, _, h | null, num _, _, _, _, _, h | null, str _, _, _, _, _, h
  | null, arr _, _, _, _, _, h | null, obj _, _, _, _, _, h
  | bool _, null, _, _, _, _, h | bool _, num _, _, _, _, _, h | bool _, str _, _, _, _, _, h
  | bool _, arr _, _, _, _, _, h | bool _, obj _, _, _, _, _, h
  | num _, null, _, _, _, _, h | num _, bool _, _, _, _, _, h | num _, str _, _, _, _, _, h
  | num _, arr _, _, _, _, _, h | num _, obj _, _, _, _, _, h
  | str _, null, _, _, _, _, h | str _, bool _, _, _, _, _, h | str _, num _, _, _, _, _, h
  | str _, arr _, _, _, _, _, h | str _, obj _, _, _, _, _, h
  | arr _, null, _, _, _, _, h | arr _, bool _, _, _, _, _, h | arr _, num _, _, _, _, _, h
  | arr _, str _, _, _, _, _, h | arr _, obj _, _, _, _, _, h
  | obj _, null, _, _, _, _, h | obj _, bool _, _, _, _, _, h | obj _, num _, _, _, _, _, h
  | obj _, str _, _, _, _, _, h | obj _, arr _, _, _, _, _, h => absurd (kind_eq h) (by simp [kind])

theorem renderList_inj : (xs ys : List Json) → {r s : List Char} →
    elementsText ']' r (renderList xs) = elementsText ']' s (renderList ys) → xs = ys ∧ r = s
  | [], [], _, _, h => ⟨rfl, (List.cons.inj h).2⟩
  | [], y :: ys, _, _, h => by
    rw [renderList, renderList, elementsText_cons] at h
    exact absurd h.symm (render_ne_close (by decide))
  | x :: xs, [], _, _, h => by
    rw [renderList, renderList, elementsText_cons] at h
    exact absurd h (render_ne_close (by decide))
  | x :: xs, y :: ys, r, s, h => by
    rw [renderList, renderList, elementsText_cons, elementsText_cons] at h
    obtain ⟨rfl, hrest⟩ := render_append_inj x y
      (follows_afterElement (Or.inl rfl) _ _) (follows_afterElement (Or.inl rfl) _ _) h
    obtain ⟨rfl, rfl⟩ := renderList_inj xs ys (elementsText_of_after (by decide) hrest)
    exact ⟨rfl, rfl⟩

theorem renderEntries_inj : (xs ys : List (String × Json)) → {r s : List Char} →
    elementsText '\x7d' r (renderEntries xs) = elementsText '\x7d' s (renderEntries ys) →
      xs = ys ∧ r = s
  | [], [], _, _, h => ⟨rfl, (List.cons.inj h).2⟩
  | [], (k, y) :: ys, _, _, h => by
    rw [renderEntries, renderEntries, elementsText_cons, String.toList_append,
      String.toList_append,
      List.append_assoc, List.append_assoc] at h
    exact absurd h.symm (quote_ne_close (by decide))
  | (k, x) :: xs, [], _, _, h => by
    rw [renderEntries, renderEntries, elementsText_cons, String.toList_append,
      String.toList_append,
      List.append_assoc, List.append_assoc] at h
    exact absurd h (quote_ne_close (by decide))
  | (k, x) :: xs, (l, y) :: ys, r, s, h => by
    rw [renderEntries, renderEntries, elementsText_cons, elementsText_cons,
      String.toList_append, String.toList_append, String.toList_append, String.toList_append,
      List.append_assoc, List.append_assoc, List.append_assoc, List.append_assoc] at h
    obtain ⟨rfl, hvalue⟩ := quote_append_inj h
    obtain ⟨rfl, hrest⟩ := render_append_inj x y
      (follows_afterElement (Or.inr rfl) _ _) (follows_afterElement (Or.inr rfl) _ _)
      (List.append_cancel_left hvalue)
    obtain ⟨rfl, rfl⟩ := renderEntries_inj xs ys (elementsText_of_after (by decide) hrest)
    exact ⟨rfl, rfl⟩

end

/-- **Two values never share a text.** -/
theorem render_injective : Function.Injective render := by
  intro a b h
  have hends : Follows [] := fun c hc => by cases hc
  refine (render_append_inj a b hends hends ?_).1
  rw [h]

end Json
