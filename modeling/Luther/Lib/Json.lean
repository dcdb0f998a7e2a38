/-
JSON values.

Objects keep their entries in a list; the programs that read them look entries up
by key and never depend on the order.  A number is an integer: serde_json's floats are left out.
-/
import Mathlib.Algebra.Group.Int.Defs
import Mathlib.Algebra.Group.Nat.Defs
import Mathlib.Logic.Basic

/-- A JSON value. -/
inductive Json where
  | null
  | bool (b : Bool)
  | num (n : Int)
  | str (s : String)
  | arr (elements : List Json)
  | obj (entries : List (String × Json))
  deriving Repr

namespace Json

/-! ### Equality -/

mutual

def decEq : (a b : Json) → Decidable (a = b)
  | null, null => isTrue rfl
  | bool x, bool y => decidable_of_iff (x = y) (by rw [bool.injEq])
  | num x, num y => decidable_of_iff (x = y) (by rw [num.injEq])
  | str x, str y => decidable_of_iff (x = y) (by rw [str.injEq])
  | arr xs, arr ys =>
    have := decEqList xs ys
    decidable_of_iff (xs = ys) (by rw [arr.injEq])
  | obj xs, obj ys =>
    have := decEqEntries xs ys
    decidable_of_iff (xs = ys) (by rw [obj.injEq])
  | null, bool _ | null, num _ | null, str _ | null, arr _ | null, obj _
  | bool _, null | bool _, num _ | bool _, str _ | bool _, arr _ | bool _, obj _
  | num _, null | num _, bool _ | num _, str _ | num _, arr _ | num _, obj _
  | str _, null | str _, bool _ | str _, num _ | str _, arr _ | str _, obj _
  | arr _, null | arr _, bool _ | arr _, num _ | arr _, str _ | arr _, obj _
  | obj _, null | obj _, bool _ | obj _, num _ | obj _, str _ | obj _, arr _ => isFalse (by simp)

def decEqList : (xs ys : List Json) → Decidable (xs = ys)
  | [], [] => isTrue rfl
  | x :: xs, y :: ys =>
    have := decEq x y
    have := decEqList xs ys
    decidable_of_iff (x = y ∧ xs = ys) (by rw [List.cons.injEq])
  | [], _ :: _ | _ :: _, [] => isFalse (by simp)

def decEqEntries : (xs ys : List (String × Json)) → Decidable (xs = ys)
  | [], [] => isTrue rfl
  | (k, x) :: xs, (l, y) :: ys =>
    have := decEq x y
    have := decEqEntries xs ys
    decidable_of_iff ((k = l ∧ x = y) ∧ xs = ys) (by rw [List.cons.injEq, Prod.mk.injEq])
  | [], _ :: _ | _ :: _, [] => isFalse (by simp)

end

instance : DecidableEq Json := decEq

/-! ### Text

`Value::to_string`: no blanks, and the entries of an object as they are listed.
-/

def escapeChar (c : Char) : String :=
  match c.toNat with
  | 8 => "\\b"
  | 9 => "\\t"
  | 10 => "\\n"
  | 12 => "\\f"
  | 13 => "\\r"
  | 34 => "\\\""
  | 92 => "\\\\"
  | n =>
    if n < 32 then "\\u00" ++ (if n < 16 then "0" else "1") ++ (Nat.digitChar (n % 16)).toString
    else c.toString

def quote (s : String) : String := "\"" ++ String.join (s.toList.map escapeChar) ++ "\""

mutual

def render : Json → String
  | null => "null"
  | bool b => toString b
  | num n => toString n
  | str s => quote s
  | arr elements => "[" ++ ",".intercalate (renderList elements) ++ "]"
  | obj entries => "\x7b" ++ ",".intercalate (renderEntries entries) ++ "\x7d"

def renderList : List Json → List String
  | [] => []
  | x :: rest => render x :: renderList rest

def renderEntries : List (String × Json) → List String
  | [] => []
  | (k, v) :: rest => (quote k ++ ":" ++ render v) :: renderEntries rest

end

/-! ### Reading values -/

def asStr? : Json → Option String
  | str s => some s
  | _ => none

def asI64? : Json → Option Int
  | num n => if -9223372036854775808 ≤ n ∧ n ≤ 9223372036854775807 then some n else none
  | _ => none

def asU64? : Json → Option Nat
  | num n => if 0 ≤ n ∧ n < 2 ^ 64 then some n.toNat else none
  | _ => none

/-- A `u32`. -/
def asU32? : Json → Option UInt32
  | num n => if 0 ≤ n ∧ n ≤ 4294967295 then some (UInt32.ofNat n.toNat) else none
  | _ => none

/-- `Value::get` of a key. -/
def get? (key : String) : Json → Option Json
  | obj entries => entries.lookup key
  | _ => none

/-- A list of strings, when every element is one. -/
def toStrings? : Json → Option (List String)
  | arr elements => elements.mapM asStr?
  | _ => none

/-- The entries of an object, each read by `f`. -/
def toMap? {α : Type} (f : Json → Option α) : Json → Option (List (String × α))
  | obj entries => entries.mapM fun (k, v) => (f v).map fun a => (k, a)
  | _ => none

/-- An object with each entry written by `f`. -/
def ofMap {α : Type} (f : α → Json) (m : List (String × α)) : Json :=
  obj (m.map fun (k, a) => (k, f a))

theorem asI64?_natCast {n : Nat} (h : n < 2 ^ 63) : asI64? (num n) = some (n : Int) := by
  unfold asI64?
  dsimp only
  rw [if_pos (by omega)]

theorem asU64?_natCast {n : Nat} (h : n < 2 ^ 64) : asU64? (num n) = some n := by
  unfold asU64?
  dsimp only
  rw [if_pos (by omega)]
  simp

theorem toStrings?_ofStrings (xs : List String) : toStrings? (arr (xs.map str)) = some xs := by
  show (xs.map str).mapM asStr? = some xs
  induction xs with
  | nil => rfl
  | cons x rest ih =>
    rw [List.map_cons, List.mapM_cons, ih]
    rfl

/-- **What is written entry by entry reads back entry by entry.** -/
theorem toMap?_ofMap {α : Type} {f : Json → Option α} {g : α → Json}
    (h : ∀ a, f (g a) = some a) (m : List (String × α)) : toMap? f (ofMap g m) = some m := by
  show (m.map fun (k, a) => (k, g a)).mapM (fun (k, v) => (f v).map fun a => (k, a)) = some m
  induction m with
  | nil => rfl
  | cons e rest ih =>
    rw [List.map_cons, List.mapM_cons, ih]
    simp only [h, Option.map_some]
    rfl

def ofStrings (texts : List String) : Json := arr (texts.map str)

/-- A `u32` as a number. -/
def ofU32 (n : UInt32) : Json := num n.toNat

theorem asU32?_ofU32 (n : UInt32) : asU32? (ofU32 n) = some n := by
  have hlt : n.toNat < 2 ^ 32 := n.toNat_lt
  unfold asU32? ofU32
  dsimp only
  rw [if_pos (by omega)]
  simp

end Json
