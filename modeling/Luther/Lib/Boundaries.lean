/-
Pieces joined at boundaries.

A text is made of pieces with a boundary between each two.  The boundaries are known and the
pieces are not, and a piece may hold any symbols, those of a boundary included.  The text alone
tells the pieces apart exactly where every boundary stands, between its two neighbours, in one
place only: it is enough to look at two pieces at a time.
-/
import Mathlib.Data.List.Infix

namespace Boundaries

variable {α : Type*}

/-- A first piece, and every further one behind its boundary. -/
def joined (piece : List α) : List (List α × List α) → List α
  | [] => piece
  | (boundary, next) :: rest => piece ++ boundary ++ joined next rest

/-- The boundary stands in one place of the text of two pieces. -/
def OnlyBetween (piece boundary next : List α) : Prop :=
  ∀ before, before ++ boundary <+: piece ++ boundary ++ next → before = piece

/-- So does every boundary between its neighbours. -/
def Unambiguous (piece : List α) : List (List α × List α) → Prop
  | [] => True
  | (boundary, next) :: rest => OnlyBetween piece boundary next ∧ Unambiguous next rest

/-! ### The first piece -/

theorem joined_append (a b : List α) (pieces : List (List α × List α)) :
    joined (a ++ b) pieces = a ++ joined b pieces := by
  cases pieces with
  | nil => rfl
  | cons entry rest => simp [joined]

theorem prefix_joined (piece : List α) (pieces : List (List α × List α)) :
    piece <+: joined piece pieces := by
  have hsplit := joined_append piece [] pieces
  rw [List.append_nil] at hsplit
  exact ⟨_, hsplit.symm⟩

variable {piece : List α} {pieces : List (List α × List α)}

/-- In a longer text the boundary stands nowhere else up to the end of the second piece. -/
theorem OnlyBetween.eq_of_occurs {boundary next before text : List α}
    (h : OnlyBetween piece boundary next) (hpieces : piece ++ boundary ++ next <+: text)
    (hbefore : before ++ boundary <+: text) (hlength : before.length ≤ piece.length + next.length) :
    before = piece := by
  refine h before (List.prefix_of_prefix_length_le hbefore hpieces ?_)
  simp only [List.length_append]
  omega

theorem prefix_joined_cons (piece boundary next : List α) (rest : List (List α × List α)) :
    piece ++ boundary ++ next <+: joined piece ((boundary, next) :: rest) := by
  show piece ++ boundary ++ next <+: piece ++ boundary ++ joined next rest
  exact (List.prefix_append_right_inj _).mpr (prefix_joined next rest)

/-- **No other first piece is longer**: behind it every boundary would have to come later, and at
the end there would be no room. -/
theorem Unambiguous.length_le {piece' : List α} {pieces' : List (List α × List α)}
    (h : Unambiguous piece pieces) (hbounds : pieces.map Prod.fst = pieces'.map Prod.fst)
    (htext : joined piece pieces = joined piece' pieces') : piece'.length ≤ piece.length := by
  induction pieces generalizing piece piece' pieces' with
  | nil =>
    obtain rfl : pieces' = [] := List.map_eq_nil_iff.mp hbounds.symm
    exact Nat.le_of_eq (congrArg List.length htext).symm
  | cons entry rest ih =>
    obtain ⟨boundary, next⟩ := entry
    obtain ⟨⟨boundary', next'⟩, rest', rfl, rfl, hrest⟩ :=
      List.map_eq_cons_iff.mp hbounds.symm
    by_cases hshort : piece'.length ≤ piece.length + next.length
    · have hbefore : piece' ++ boundary' <+: joined piece ((boundary', next) :: rest) := by
        rw [htext]
        exact List.prefix_append _ _
      rw [h.1.eq_of_occurs (prefix_joined_cons _ _ _ _) hbefore hshort]
    · -- What is left of the longer piece stands before all that follows.
      have hdrop := congrArg (List.drop (piece.length + boundary'.length)) htext
      have hleft : (joined piece ((boundary', next) :: rest)).drop
          (piece.length + boundary'.length) = joined next rest :=
        List.drop_left' (List.length_append ..)
      have hright : (joined piece' ((boundary', next') :: rest')).drop
          (piece.length + boundary'.length) =
            joined ((piece' ++ boundary').drop (piece.length + boundary'.length) ++ next')
              rest' := by
        rw [joined_append]
        refine List.drop_append_of_le_length ?_
        rw [List.length_append]
        omega
      rw [hleft, hright] at hdrop
      have hle := ih h.2 hrest.symm hdrop
      simp only [List.length_append, List.length_drop] at hle
      omega

/-! ### All pieces -/

/-- **Unambiguous boundaries give the pieces back.** -/
theorem Unambiguous.joined_inj {piece' : List α} {pieces' : List (List α × List α)}
    (h : Unambiguous piece pieces) (hbounds : pieces.map Prod.fst = pieces'.map Prod.fst)
    (htext : joined piece pieces = joined piece' pieces') : piece = piece' ∧ pieces = pieces' := by
  induction pieces generalizing piece piece' pieces' with
  | nil =>
    obtain rfl : pieces' = [] := List.map_eq_nil_iff.mp hbounds.symm
    exact ⟨htext, rfl⟩
  | cons entry rest ih =>
    have hle := h.length_le hbounds htext
    obtain ⟨boundary, next⟩ := entry
    obtain ⟨⟨boundary', next'⟩, rest', rfl, rfl, hrest⟩ :=
      List.map_eq_cons_iff.mp hbounds.symm
    have hbefore : piece' ++ boundary' <+: joined piece ((boundary', next) :: rest) := by
      rw [htext]
      exact List.prefix_append _ _
    obtain rfl := h.1.eq_of_occurs (prefix_joined_cons _ _ _ _) hbefore
      (Nat.le_trans hle (Nat.le_add_right _ _))
    obtain ⟨rfl, rfl⟩ := ih h.2 hrest.symm (List.append_cancel_left htext)
    exact ⟨rfl, rfl⟩

/-- **Only unambiguous boundaries do**: a boundary that stands in two places between its
neighbours parts the same text in two ways. -/
theorem unambiguous_iff :
    Unambiguous piece pieces ↔
      ∀ piece' pieces', pieces.map Prod.fst = pieces'.map Prod.fst →
        joined piece pieces = joined piece' pieces' → piece = piece' ∧ pieces = pieces' := by
  refine ⟨fun h _ _ hbounds htext => h.joined_inj hbounds htext, fun h => ?_⟩
  induction pieces generalizing piece with
  | nil => trivial
  | cons entry rest ih =>
    obtain ⟨boundary, next⟩ := entry
    constructor
    · intro before hbefore
      obtain ⟨after, hafter⟩ := hbefore
      have htext : joined piece ((boundary, next) :: rest) =
          joined before ((boundary, after) :: rest) := by
        have hnext := joined_append next [] rest
        have hother := joined_append after [] rest
        rw [List.append_nil] at hnext hother
        show piece ++ boundary ++ joined next rest = before ++ boundary ++ joined after rest
        rw [hnext, hother, ← List.append_assoc, ← hafter, List.append_assoc]
      exact (h before ((boundary, after) :: rest) rfl htext).1.symm
    · refine ih fun next' rest' hrest htext => ?_
      have hall := (h piece ((boundary, next') :: rest') (by simp [hrest]) (by
        show piece ++ boundary ++ _ = piece ++ boundary ++ _
        rw [htext])).2
      obtain ⟨hnext, hrest⟩ := List.cons.inj hall
      exact ⟨(Prod.mk.inj hnext).2, hrest⟩

end Boundaries
