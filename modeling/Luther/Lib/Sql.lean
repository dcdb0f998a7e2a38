/-
Tables whose uniqueness constraints cannot be broken.

A table is the list of its rows, and carries the proof that no two of them clash.
Two rows clash when they agree on a column, or a group of columns, that the schema
declares unique; the relation is a parameter, so a table with a primary key and a
second unique index is a table like any other.

A statement that would make two rows clash fails and leaves the table alone.  So
whatever a program does with a table, at most one row answers to a key, and that
is a fact about the type and not about the program.

A transaction is a computation that may fail.  What it did is kept when it
returns and dropped when it does not.
-/
import Mathlib.Data.List.Forall2
import Mathlib.Data.List.MinMax
import Mathlib.Data.List.Pairwise

universe u

namespace Sql

/-- Why a statement fails. -/
inductive Error where
  /-- A uniqueness constraint would be broken. -/
  | constraintViolation
  /-- A value has no representation in its column. -/
  | toSqlConversionFailure (text : String)
  /-- A column's value has no representation in the program. -/
  | fromSqlConversionFailure (index : Nat) (type text : String)
  /-- A column holds a value of another type than the one asked for. -/
  | invalidColumnType (index : Nat) (name type : String)
  /-- A query that must find a row found none. -/
  | queryReturnedNoRows
  /-- A guarded statement did not change the one row it must, or its row is malformed. -/
  | sqliteFailure (text : String)
  /-- There is no identifier left to give out. -/
  | databaseFull
  deriving DecidableEq

def Error.text : Error → String
  | constraintViolation => "UNIQUE constraint failed"
  | toSqlConversionFailure text => text
  | fromSqlConversionFailure index type text =>
    s!"Conversion error from type {type} at index: {index}, {text}"
  | invalidColumnType index name type =>
    s!"Invalid column type {type} at index: {index}, name: {name}"
  | queryReturnedNoRows => "Query returned no rows"
  | sqliteFailure text => text
  | databaseFull => "database or disk is full"

/-- Rows no two of which clash. -/
structure Table (Row : Type*) (Clash : Row → Row → Prop) where
  rows : List Row
  distinct : rows.Pairwise fun a b => ¬ Clash a b

namespace Table

variable {Row : Type*} {Clash : Row → Row → Prop}

instance : Membership Row (Table Row Clash) := ⟨fun t r => r ∈ t.rows⟩

variable {r : Row} {t t' : Table Row Clash} {p q : Row → Bool} {f : Row → Row}

theorem mem_def : r ∈ t ↔ r ∈ t.rows := Iff.rfl

def empty : Table Row Clash := ⟨[], List.Pairwise.nil⟩

section

variable (t : Table Row Clash)

/-- The rows that satisfy a condition, in the table's order. -/
def select (p : Row → Bool) : List Row := t.rows.filter p

def find? (t : Table Row Clash) (p : Row → Bool) : Option Row := t.rows.find? p

def count (p : Row → Bool) : Nat := (t.select p).length

/-- `ORDER BY key DESC LIMIT 1`; among equals, the first in the table's order. -/
def latest? {Key : Type*} [LinearOrder Key] (p : Row → Bool)
    (key : Row → Key) : Option Row := (t.select p).argmax key

/-- `INSERT`: fails when the new row clashes with one that is there. -/
def insert [DecidableRel Clash] (r : Row) : Option (Table Row Clash) :=
  if h : ∀ a ∈ t.rows, ¬ Clash a r then
    some ⟨t.rows ++ [r], by
      refine List.pairwise_append.mpr ⟨t.distinct, List.pairwise_singleton _ _, ?_⟩
      intro a ha b hb
      rw [List.mem_singleton.mp hb]
      exact h a ha⟩
  else none

/-- The row an `UPDATE … SET f WHERE p` leaves in place of a row. -/
def set (p : Row → Bool) (f : Row → Row) (r : Row) : Row := if p r then f r else r

/-- `UPDATE` of columns that no uniqueness constraint reads: it cannot fail. -/
def update [Std.Symm Clash] (p : Row → Bool) (f : Row → Row)
    (hf : ∀ a b, Clash (f a) b → Clash a b) : Table Row Clash :=
  ⟨t.rows.map (set p f), by
    have keep : ∀ a b, Clash (set p f a) b → Clash a b := by
      intro a b h
      unfold set at h
      split at h
      · exact hf a b h
      · exact h
    refine t.distinct.map _ fun a b hab hclash => hab ?_
    exact Std.Symm.symm _ _ (keep b a (Std.Symm.symm _ _ (keep a _ hclash)))⟩

/-- `INSERT … ON CONFLICT DO UPDATE`: the rows that clash with the new one are updated instead. -/
def upsert [DecidableRel Clash] [Std.Symm Clash] (r : Row) (p : Row → Bool) (f : Row → Row)
    (hf : ∀ a b, Clash (f a) b → Clash a b) : Table Row Clash :=
  match t.insert r with
  | some t' => t'
  | none => t.update p f hf

/-- `UPDATE` of any columns: fails when two of the resulting rows clash. -/
def tryUpdate [DecidableRel Clash] (p : Row → Bool) (f : Row → Row) : Option (Table Row Clash) :=
  if h : (t.rows.map (set p f)).Pairwise fun a b => ¬ Clash a b then
    some ⟨t.rows.map (set p f), h⟩
  else none

def delete (p : Row → Bool) : Table Row Clash :=
  ⟨t.rows.filter fun r => !p r, t.distinct.filter _⟩

end

/-! ### What the statements do to the rows -/

@[simp] theorem not_mem_empty (r : Row) : r ∉ (empty : Table Row Clash) := by
  simp [mem_def, empty]

theorem mem_select :
    r ∈ t.select p ↔ r ∈ t ∧ p r = true := List.mem_filter

theorem mem_insert [DecidableRel Clash] (h : t.insert r = some t') (x : Row) :
    x ∈ t' ↔ x ∈ t ∨ x = r := by
  unfold insert at h
  split at h
  · rw [← Option.some.inj h, mem_def, mem_def, List.mem_append, List.mem_singleton]
  · simp at h

/-- **An insertion fails exactly on a row that clashes.** -/
theorem insert_eq_none_iff [DecidableRel Clash] :
    t.insert r = none ↔ ∃ a ∈ t, Clash a r := by
  unfold insert
  split
  · rename_i h
    simp only [reduceCtorEq, false_iff, not_exists, not_and]
    exact h
  · rename_i h
    simpa [mem_def] using h

theorem mem_delete :
    r ∈ t.delete p ↔ r ∈ t ∧ p r = false := by
  simp [mem_def, delete, List.mem_filter]

theorem not_clash_of_insert [DecidableRel Clash] (h : t.insert r = some t') {a : Row} (ha : a ∈ t) :
    ¬ Clash a r := by
  intro hclash
  rw [insert_eq_none_iff.mpr ⟨a, ha, hclash⟩] at h
  simp at h

variable {x : Row}

/-- The rows after an update, whose rows are the old ones set: for an `update` that is `rfl`. -/
theorem mem_set (h : t'.rows = t.rows.map (set p f)) : x ∈ t' ↔ ∃ a ∈ t, set p f a = x := by
  rw [mem_def, h]
  exact List.mem_map

/-- An insertion puts its row beside rows that do not clash with it. -/
theorem mem_of_insert [DecidableRel Clash] (h : t.insert r = some t') :
    x ∈ t' ↔ x = r ∨ x ∈ t ∧ ¬ Clash x r := by
  rw [mem_insert h, or_comm]
  exact or_congr_right (iff_self_and.mpr (not_clash_of_insert h))

/-- Where it fails, an update of the rows that clash puts the row in their place. -/
theorem mem_of_replace [DecidableRel Clash] (hnone : t.insert r = none)
    (h : t'.rows = t.rows.map (set p f)) (hp : ∀ a, p a = true ↔ Clash a r)
    (hf : ∀ a, Clash a r → f a = r) : x ∈ t' ↔ x = r ∨ x ∈ t ∧ ¬ Clash x r := by
  have hpos : ∀ a, Clash a r → set p f a = r := by
    intro a ha
    unfold set
    rw [if_pos ((hp a).mpr ha), hf a ha]
  have hneg : ∀ a, ¬ Clash a r → set p f a = a := by
    intro a ha
    unfold set
    rw [if_neg (mt (hp a).mp ha)]
  obtain ⟨old, hold, hclash⟩ := insert_eq_none_iff.mp hnone
  rw [mem_set h]
  constructor
  · rintro ⟨a, ha, rfl⟩
    by_cases hsel : Clash a r
    · exact Or.inl (hpos a hsel)
    · rw [hneg a hsel]
      exact Or.inr ⟨ha, hsel⟩
  · rintro (rfl | ⟨hmem, hsel⟩)
    · exact ⟨old, hold, hpos old hclash⟩
    · exact ⟨x, hmem, hneg x hsel⟩

section Upsert

variable [DecidableRel Clash] [Std.Symm Clash] {hf : ∀ a b, Clash (f a) b → Clash a b}

theorem rows_upsert : (t.upsert r p f hf).rows =
    if ∃ a ∈ t.rows, Clash a r then t.rows.map (set p f) else t.rows ++ [r] := by
  unfold upsert insert
  by_cases h : ∃ a ∈ t.rows, Clash a r
  · rw [dif_neg (by simpa using h), if_pos h]
    rfl
  · rw [dif_pos (by simpa using h), if_neg h]

/-- **An upsert puts its row in the place of the one that clashes with it.** -/
theorem mem_upsert (hp : ∀ a, p a = true ↔ Clash a r) (hset : ∀ a, Clash a r → f a = r) {x : Row} :
    x ∈ t.upsert r p f hf ↔ x = r ∨ x ∈ t ∧ ¬ Clash x r := by
  unfold upsert
  cases hinsert : t.insert r with
  | some t' => exact mem_of_insert hinsert
  | none => exact mem_of_replace hinsert rfl hp hset

/-- An upsert of images of rows leaves the images of the rows. -/
theorem rows_upsert_map {Row' : Type*} {Clash' : Row' → Row' → Prop} [DecidableRel Clash']
    [Std.Symm Clash'] {u : Table Row' Clash'} {p' : Row' → Bool} {f' : Row' → Row'}
    {hf' : ∀ a b, Clash' (f' a) b → Clash' a b} {g : Row → Row'} (hrows : u.rows = t.rows.map g)
    (hclash : ∀ a, Clash' (g a) (g r) ↔ Clash a r) (hp : ∀ a, p' (g a) = p a)
    (hg : ∀ a, f' (g a) = g (f a)) :
    (u.upsert (g r) p' f' hf').rows = (t.upsert r p f hf).rows.map g := by
  have hset : ∀ a, set p' f' (g a) = g (set p f a) := by
    intro a
    unfold set
    rw [hp, hg]
    exact (apply_ite g _ _ _).symm
  rw [rows_upsert, rows_upsert, hrows]
  by_cases h : ∃ a ∈ t.rows, Clash a r
  · rw [if_pos h, if_pos (by simpa [hclash] using h), List.map_map, List.map_map]
    exact List.map_congr_left fun a _ => hset a
  · rw [if_neg h, if_neg (by simpa [hclash] using h), List.map_append, List.map_singleton]

end Upsert

/-- An update of rows that a condition selects neither before nor after leaves the selection. -/
theorem select_set (h : t'.rows = t.rows.map (set p f))
    (hq : ∀ a ∈ t, p a = true → q a = false ∧ q (f a) = false) : t'.select q = t.select q := by
  unfold select
  rw [h]
  have hrows : ∀ a ∈ t.rows, p a = true → q a = false ∧ q (f a) = false := hq
  generalize t.rows = rows at hrows
  induction rows with
  | nil => rfl
  | cons a rest ih =>
    have hrest := ih fun b hb => hrows b (List.mem_cons_of_mem _ hb)
    rw [List.map_cons, List.filter_cons, List.filter_cons, hrest]
    by_cases hp : p a = true
    · obtain ⟨hbefore, hafter⟩ := hrows a List.mem_cons_self hp
      rw [show set p f a = f a from if_pos hp, hbefore, hafter]
      rfl
    · rw [show set p f a = a from if_neg hp]

theorem select_insert [DecidableRel Clash] (h : t.insert r = some t') (hq : q r = false) :
    t'.select q = t.select q := by
  unfold insert at h
  split at h
  · rw [← Option.some.inj h]
    unfold select
    rw [List.filter_append, List.filter_singleton, hq, cond_false, List.append_nil]
  · cases h

theorem select_upsert [DecidableRel Clash] [Std.Symm Clash]
    {hf : ∀ a b, Clash (f a) b → Clash a b} (hr : q r = false)
    (hq : ∀ a ∈ t, p a = true → q a = false ∧ q (f a) = false) :
    (t.upsert r p f hf).select q = t.select q := by
  unfold upsert
  cases hinsert : t.insert r with
  | some t' => exact select_insert hinsert hr
  | none => exact select_set rfl hq

theorem select_of_select (h : t'.select q = t.select q) (hpq : ∀ a, p a = true → q a = true) :
    t'.select p = t.select p := by
  have hnarrow : ∀ u : Table Row Clash, u.select p = (u.select q).filter p := by
    intro u
    unfold select
    rw [List.filter_filter]
    refine List.filter_congr fun a _ => ?_
    cases hp : p a with
    | false => rfl
    | true => rw [hpq a hp]; rfl
  rw [hnarrow, h, ← hnarrow]

theorem tryUpdate_rows [DecidableRel Clash] (h : t.tryUpdate p f = some t') :
    t'.rows = t.rows.map (set p f) := by
  unfold tryUpdate at h
  split at h
  · rw [← Option.some.inj h]
  · simp at h

theorem set_pos (h : p r) : set p f r = f r := by
  unfold set; rw [if_pos h]

theorem set_neg (h : p r = false) :
    set p f r = r := by
  unfold set; rw [if_neg (by simp [h])]

theorem set_column {α : Type*} (col : Row → α) (h : ∀ a, col (f a) = col a) (r : Row) :
    col (set p f r) = col r := by
  unfold set
  split
  · exact h r
  · rfl

/-! ### Lookups by a key -/

/-- **Two rows that clash are one row.** -/
theorem eq_of_clash [Std.Symm Clash] {a b : Row} (ha : a ∈ t) (hb : b ∈ t) (h : Clash a b) :
    a = b := by
  have : Std.Symm fun a b : Row => ¬ Clash a b :=
    ⟨fun _ _ hn hc => hn (Std.Symm.symm _ _ hc)⟩
  by_contra hne
  exact t.distinct.forall ha hb hne h

theorem find?_some (h : t.find? p = some r) : r ∈ t ∧ p r = true :=
  ⟨List.mem_of_find?_eq_some h, List.find?_some h⟩

theorem find?_none :
    t.find? p = none ↔ ∀ r ∈ t, p r = false := by
  unfold find?
  rw [List.find?_eq_none]
  simp [mem_def]

section

variable (hp : ∀ a b, p a = true → p b = true → Clash a b)

include hp

theorem find?_eq_some_of_key [Std.Symm Clash] (hr : r ∈ t) (h : p r) : t.find? p = some r := by
  cases hfind : t.find? p with
  | none => simp [find?_none.mp hfind r hr] at h
  | some a =>
    obtain ⟨ha, hpa⟩ := find?_some hfind
    rw [eq_of_clash ha hr (hp a r hpa h)]

theorem count_le_one_of_key : t.count p ≤ 1 := by
  unfold count select
  have hd := t.distinct.filter (p := p)
  match hl : t.rows.filter p with
  | [] => simp
  | [_] => simp
  | a :: b :: rest =>
    exfalso
    have hmem : ∀ r ∈ t.rows.filter p, p r = true := fun r hr => (List.mem_filter.mp hr).2
    rw [hl] at hd hmem
    exact (List.pairwise_cons.mp hd).1 b (by simp)
      (hp a b (hmem a (by simp)) (hmem b (by simp)))

end

theorem count_pos_iff :
    0 < t.count p ↔ ∃ r ∈ t, p r = true := by
  unfold count select
  rw [List.length_pos_iff_exists_mem]
  simp [mem_def]

theorem count_eq_countP : t.count p = t.rows.countP p :=
  List.countP_eq_length_filter.symm

theorem count_le_count (h : ∀ a ∈ t, p a = true → q a = true) : t.count p ≤ t.count q := by
  rw [count_eq_countP, count_eq_countP]
  exact List.countP_mono_left h

/-- An update makes no row meet a condition that did not meet it before: none are won. -/
theorem count_set_le {q' : Row → Bool} (h : t'.rows = t.rows.map (set p f))
    (hq : ∀ a ∈ t, q' (set p f a) = true → q a = true) : t'.count q' ≤ t.count q := by
  rw [count_eq_countP, count_eq_countP, h, List.countP_map]
  exact List.countP_mono_left hq

theorem count_insert_of_neg [DecidableRel Clash] (h : t.insert r = some t') (hr : p r = false) :
    t'.count p = t.count p := by
  unfold insert at h
  split at h
  · rw [← Option.some.inj h, count_eq_countP, count_eq_countP, List.countP_append,
      List.countP_singleton, hr]
    rfl
  · simp at h

variable {Key : Type*}

theorem latest?_some [LinearOrder Key] {key : Row → Key} (h : t.latest? p key = some r) :
    r ∈ t ∧ p r = true ∧ ∀ a ∈ t, p a = true → key a ≤ key r := by
  obtain ⟨hr, hp⟩ := mem_select.mp (List.argmax_mem h)
  exact ⟨hr, hp, fun a ha hpa => List.le_of_mem_argmax (mem_select.mpr ⟨ha, hpa⟩) h⟩

theorem latest?_none [LinearOrder Key] {key : Row → Key} (h : t.latest? p key = none)
    : ∀ a ∈ t, p a = false := by
  intro a ha
  by_contra hpa
  have hmem : a ∈ t.select p := mem_select.mpr ⟨ha, by simpa using hpa⟩
  rw [List.argmax_eq_none.mp h] at hmem
  exact List.not_mem_nil hmem

/-- The latest of images of rows is the image of the latest, where the keys are ordered alike. -/
theorem latest?_map {Row' : Type*} {Clash' : Row' → Row' → Prop} {Key Key' : Type*}
    [LinearOrder Key] [LinearOrder Key'] {u : Table Row' Clash'} {p' : Row' → Bool} {g : Row → Row'}
    {key : Row → Key} {key' : Row' → Key'} (hrows : u.rows = t.rows.map g)
    (hp : ∀ a, p' (g a) = p a)
    (hkey : ∀ a ∈ t.select p, ∀ b ∈ t.select p, key' (g a) < key' (g b) ↔ key a < key b) :
    u.latest? p' key' = (t.latest? p key).map g := by
  have hselect : u.select p' = (t.select p).map g := by
    unfold select
    rw [hrows, List.filter_map]
    congr 2
    exact funext hp
  unfold latest?
  rw [hselect]
  generalize t.select p = rows at hkey
  induction rows using List.reverseRecOn with
  | nil => rfl
  | append_singleton rest a ih =>
    have hrest := ih fun b hb c hc => hkey b (by simp [hb]) c (by simp [hc])
    rw [List.map_append, List.map_singleton, List.argmax_concat, List.argmax_concat, hrest]
    cases hmax : rest.argmax key with
    | none => rfl
    | some b =>
      have hb := List.mem_append_left [a] (List.argmax_mem hmax)
      have hlt := hkey b hb a (by simp)
      dsimp only [Option.map_some]
      by_cases h : key b < key a
      · rw [if_pos (hlt.mpr h), if_pos h]
        rfl
      · rw [if_neg (mt hlt.mp h), if_neg h]
        rfl

theorem latest?_eq_of_lt [LinearOrder Key] {key : Row → Key} (hr : r ∈ t) (hp : p r)
    (h : ∀ a ∈ t, p a = true → a ≠ r → key a < key r) : t.latest? p key = some r := by
  cases hlatest : t.latest? p key with
  | none => simp [latest?_none hlatest r hr] at hp
  | some a =>
    obtain ⟨ha, hpa, hmax⟩ := latest?_some hlatest
    by_contra hne
    have hlt := h a ha hpa fun hc => hne (by rw [hc])
    exact absurd (hmax r hr hp) (not_le.mpr hlt)

end Table

/-! ### Computations that may fail -/

variable {ε : Type*} {α β : Type u}

variable {f : α → Except ε β}

/-- A sequence returns when its first part does and its second part does on the result. -/
theorem bind_ok {x : Except ε α} {b : β} : (x >>= f) = .ok b ↔ ∃ a, x = .ok a ∧ f a = .ok b := by
  cases x with
  | error e | ok a => simp [bind, Except.bind]

theorem checked_ok {β : Type} {check : Except ε Unit} {rest : Except ε β} {b : β} :
    (check >>= fun _ => rest) = .ok b ↔ check = .ok () ∧ rest = .ok b := by
  rw [bind_ok]
  exact ⟨fun ⟨(), hcheck, hrest⟩ => ⟨hcheck, hrest⟩, fun h => ⟨(), h⟩⟩

theorem refused_ok {condition : Prop} [Decidable condition] {error : ε}
    {after : α → Except ε β} {rest : Except ε β} {b : β} :
    (if condition then Except.error error >>= after else rest) = .ok b ↔
      ¬ condition ∧ rest = .ok b := by
  by_cases hcondition : condition
  · rw [if_pos hcondition]
    simp [bind, Except.bind, hcondition]
  · rw [if_neg hcondition]
    simp [hcondition]

theorem refused_last {condition : Prop} [Decidable condition] {error : ε} :
    (if condition then Except.error error else pure ()) = Except.ok () ↔ ¬ condition := by
  by_cases hcondition : condition
  · rw [if_pos hcondition]
    simp [hcondition]
  · rw [if_neg hcondition]
    exact iff_of_true rfl hcondition

variable {xs : List α}

theorem mapM_eq_ok_map {g : α → β}
    (h : ∀ x ∈ xs, f x = .ok (g x)) : xs.mapM f = .ok (xs.map g) := by
  induction xs with
  | nil => rfl
  | cons x rest ih =>
    rw [List.mapM_cons, h x (by simp), ih fun y hy => h y (List.mem_cons_of_mem x hy)]
    rfl

theorem mapM_congr_left {f g : α → Except ε β}
    (h : ∀ x ∈ xs, f x = g x) : xs.mapM f = xs.mapM g := by
  induction xs with
  | nil => rfl
  | cons x rest ih =>
    rw [List.mapM_cons, List.mapM_cons, h x List.mem_cons_self,
      ih fun y hy => h y (List.mem_cons_of_mem x hy)]

variable {ys : List β}

theorem forall₂_of_mapM (h : xs.mapM f = .ok ys) : List.Forall₂ (fun x y => f x = .ok y) xs ys := by
  induction xs generalizing ys with
  | nil =>
    obtain rfl : [] = ys := Except.ok.inj h
    exact .nil
  | cons x rest ih =>
    rw [List.mapM_cons] at h
    obtain ⟨y, hy, hrest⟩ := bind_ok.mp h
    obtain ⟨zs, hzs, hys⟩ := bind_ok.mp hrest
    obtain rfl : y :: zs = ys := Except.ok.inj hys
    exact .cons hy (ih hzs)

theorem exists_of_forall₂ {R : α → β → Prop} (h : List.Forall₂ R xs ys) :
    ∀ x ∈ xs, ∃ y ∈ ys, R x y := by
  induction h with
  | nil => simp
  | cons hy _ ih =>
    rw [List.forall_mem_cons]
    refine ⟨⟨_, List.mem_cons_self, hy⟩, fun x hx => ?_⟩
    obtain ⟨z, hz, hxz⟩ := ih x hx
    exact ⟨z, List.mem_cons_of_mem _ hz, hxz⟩

theorem ok_of_mapM (h : xs.mapM f = .ok ys) : ∀ x ∈ xs, ∃ y ∈ ys, f x = .ok y :=
  exists_of_forall₂ (forall₂_of_mapM h)

theorem of_mem_mapM (h : xs.mapM f = .ok ys) : ∀ y ∈ ys, ∃ x ∈ xs, f x = .ok y :=
  exists_of_forall₂ (forall₂_of_mapM h).flip

/-- `Option::ok_or`: nothing is an error. -/
def okOr {ε α : Type*} (e : ε) : Option α → Except ε α
  | some a => .ok a
  | none => .error e

theorem okOr_ok {ε α : Type*} {e : ε} {x : Option α} {a : α} : okOr e x = .ok a ↔ x = some a := by
  cases x <;> simp [okOr]

theorem mapError_ok {ε ε' α : Type*} {f : ε → ε'} {x : Except ε α} {a : α} :
    x.mapError f = .ok a ↔ x = .ok a := by
  cases x <;> simp [Except.mapError]

/-! ### Transactions -/

/-- Runs a body on the state; an error drops everything the body did. -/
def atomically {State ε α : Type*} (body : State → Except ε (α × State)) (s : State) :
    Except ε α × State :=
  match body s with
  | .ok (a, s') => (.ok a, s')
  | .error e => (.error e, s)

theorem atomically_error {State ε α : Type*} {body : State → Except ε (α × State)} {s s' : State}
    {e : ε} (h : atomically body s = (.error e, s')) : s' = s := by
  unfold atomically at h
  split at h
  · simp at h
  · exact (congrArg Prod.snd h).symm

theorem atomically_ok {State ε α : Type*} {body : State → Except ε (α × State)} {s s' : State}
    {a : α} : atomically body s = (.ok a, s') ↔ body s = .ok (a, s') := by
  unfold atomically
  split
  · rename_i h; simp [h]
  · rename_i h; simp [h]

end Sql
