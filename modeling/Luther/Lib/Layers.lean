/-
Layers of names.

A value is written in the layer of whoever writes it, and read through a list of
layers: the first that has the key answers.  So a write is seen exactly where no layer
in front of its own has the key already, and what is kept of every layer is kept of
what is read.
-/
import Luther.Lib.Assoc

namespace Layers

variable {Name Key Value : Type*} [DecidableEq Name] [DecidableEq Key]
  {layers : List (Name × List (Key × Value))} {order : List Name} {name : Name} {key : Key}

def inLayer (name : Name) (key : Key) (layers : List (Name × List (Key × Value))) : Option Value :=
  (layers.lookup name).bind (List.lookup key)

/-- The value of a key in the first of the layers that has it. -/
def read (order : List Name) (key : Key) (layers : List (Name × List (Key × Value))) :
    Option Value :=
  order.findSome? fun name => inLayer name key layers

def write (name : Name) (key : Key) (value : Value) (layers : List (Name × List (Key × Value))) :
    List (Name × List (Key × Value)) :=
  Assoc.insert name (Assoc.insert key value ((layers.lookup name).getD [])) layers

/-- What is left of every layer, when only some keys are kept. -/
def keep (p : Key → Bool) (layers : List (Name × List (Key × Value))) :
    List (Name × List (Key × Value)) :=
  layers.map fun layer => (layer.1, layer.2.filter fun entry => p entry.1)

@[simp] theorem read_nil (key : Key) (layers : List (Name × List (Key × Value))) :
    read [] key layers = none := rfl

theorem read_cons (name : Name) (rest : List Name) (key : Key)
    (layers : List (Name × List (Key × Value))) :
    read (name :: rest) key layers = (inLayer name key layers).or (read rest key layers) := by
  unfold read
  rw [List.findSome?_cons]
  cases inLayer name key layers with
  | none => rfl
  | some value => rfl

theorem read_append (front back : List Name) (key : Key)
    (layers : List (Name × List (Key × Value))) :
    read (front ++ back) key layers = (read front key layers).or (read back key layers) := by
  unfold read
  rw [List.findSome?_append]

theorem exists_of_read {value : Value} (h : read order key layers = some value) :
    ∃ name ∈ order, inLayer name key layers = some value :=
  List.exists_of_findSome?_eq_some h

theorem read_congr {layers' : List (Name × List (Key × Value))} {key' : Key}
    (h : ∀ name ∈ order, inLayer name key layers = inLayer name key' layers') :
    read order key layers = read order key' layers' := by
  induction order with
  | nil => rfl
  | cons name rest ih =>
    rw [read_cons, read_cons, h name List.mem_cons_self,
      ih fun other hother => h other (List.mem_cons_of_mem _ hother)]

/-! ### Writing -/

@[simp] theorem inLayer_write_self (name : Name) (key : Key) (value : Value)
    (layers : List (Name × List (Key × Value))) :
    inLayer name key (write name key value layers) = some value := by
  unfold inLayer write
  rw [Assoc.lookup_insert_self, Option.bind_some, Assoc.lookup_insert_self]

theorem inLayer_write_ne {other : Name} {key' : Key} (h : other ≠ name ∨ key' ≠ key)
    (value : Value) :
    inLayer other key' (write name key value layers) = inLayer other key' layers := by
  unfold inLayer write
  by_cases hname : other = name
  · have hkey : key' ≠ key := h.resolve_left fun hne => hne hname
    rw [hname, Assoc.lookup_insert_self, Option.bind_some, Assoc.lookup_insert_ne hkey]
    cases layers.lookup name with
    | none => rfl
    | some layer => rfl
  · rw [Assoc.lookup_insert_ne hname]

/-- **A write is read where no layer in front of its own has the key.** -/
theorem read_write_self (value : Value) :
    read order key (write name key value layers) =
      (read (order.takeWhile fun other => decide (other ≠ name)) key layers).or
        (if name ∈ order then some value else none) := by
  induction order with
  | nil => rfl
  | cons other rest ih =>
    rw [read_cons]
    by_cases h : other = name
    · rw [h, inLayer_write_self, List.takeWhile_cons_of_neg (by simp), read_nil, Option.none_or,
        if_pos List.mem_cons_self]
      rfl
    · rw [inLayer_write_ne (Or.inl h), ih, List.takeWhile_cons_of_pos (by simp [h]), read_cons,
        Option.or_assoc]
      by_cases hmem : name ∈ rest
      · rw [if_pos hmem, if_pos (List.mem_cons_of_mem _ hmem)]
      · rw [if_neg hmem, if_neg (List.not_mem_cons_of_ne_of_not_mem (Ne.symm h) hmem)]

/-! ### Keeping some keys -/

theorem lookup_filter_fst (p : Key → Bool) (key : Key) (entries : List (Key × Value)) :
    (entries.filter fun entry => p entry.1).lookup key =
      if p key = true then entries.lookup key else none := by
  induction entries with
  | nil => simp
  | cons entry rest ih =>
    rw [List.filter_cons]
    by_cases hk : key = entry.1
    · have hself : (key == entry.1) = true := beq_iff_eq.mpr hk
      rw [← hk]
      by_cases hp : p key = true
      · rw [if_pos hp, if_pos hp, List.lookup_cons, List.lookup_cons, hself]
      · rw [if_neg hp, ih, if_neg hp, if_neg hp]
    · have hne : (key == entry.1) = false := beq_eq_false_iff_ne.mpr hk
      rw [List.lookup_cons, hne, ← ih]
      by_cases hp : p entry.1 = true
      · rw [if_pos hp, List.lookup_cons, hne]
      · rw [if_neg hp]

omit [DecidableEq Key] in
theorem lookup_keep (p : Key → Bool) (name : Name) (layers : List (Name × List (Key × Value))) :
    (keep p layers).lookup name =
      (layers.lookup name).map fun layer => layer.filter fun entry => p entry.1 := by
  unfold keep
  induction layers with
  | nil => rfl
  | cons layer rest ih =>
    rw [List.map_cons, List.lookup_cons, List.lookup_cons, ih]
    cases name == layer.1 with
    | true => rfl
    | false => rfl

/-- **What is kept of the layers is kept of what is read.** -/
theorem inLayer_keep (p : Key → Bool) (name : Name) (key : Key)
    (layers : List (Name × List (Key × Value))) :
    inLayer name key (keep p layers) =
      if p key = true then inLayer name key layers else none := by
  unfold inLayer
  rw [lookup_keep]
  cases layers.lookup name with
  | none => simp
  | some layer =>
    rw [Option.map_some, Option.bind_some, Option.bind_some]
    exact lookup_filter_fst p key layer

end Layers
