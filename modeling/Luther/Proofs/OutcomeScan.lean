/-
Whether it matters how the output of a step comes in.

The scanner carries what is left of a line from chunk to chunk, so that lines may be cut anywhere.
Characters may not: every chunk is decoded by itself, and one that ends inside of a character has
the character replaced, more than once.  Chunks that end between characters are read as the whole
output is, and no others.
-/
import Luther.Steps.Shell
import Mathlib.Algebra.BigOperators.Group.List.Basic

namespace Luther

open Fields

open Utf8 (decodeLossy CleanlyCut)

/-! ### Lines without blanks around them -/

theorem trim_withoutReturn (line : List Char) :
    trim (String.ofList (withoutReturn line)) = trim (String.ofList line) := by
  unfold withoutReturn
  by_cases hreturn : line.getLast? = some '\r'
  · rw [if_pos hreturn]
    obtain ⟨front, rfl⟩ := List.getLast?_eq_some_iff.mp hreturn
    have hblank : isWhitespace '\r' = true := by decide
    unfold trim
    rw [String.toList_ofList, String.toList_ofList, List.dropLast_concat, List.dropWhile_append]
    by_cases hnone : (front.dropWhile isWhitespace).isEmpty = true
    · rw [if_pos hnone, List.isEmpty_iff.mp hnone, List.dropWhile_cons_of_pos hblank]
      rfl
    · rw [if_neg hnone, List.rdropWhile_concat_pos _ _ _ hblank]
  · rw [if_neg hreturn]

theorem trimmedLines_eq (text : List Char) :
    trimmedLines text =
      (Fields.fields '\n' text).map fun line => trim (String.ofList line) := by
  unfold trimmedLines
  rcases splitOn_last '\n' text with ⟨lines, hlines, -⟩ | ⟨lines, last, c, hlines, -, -⟩
  · have hsplit : (String.ofList text).toList.splitOn '\n' = lines ++ [[]] := by
      rw [String.toList_ofList, hlines]
    rw [splitLines_of_ended hsplit, fields_of_splitOn hlines, if_pos rfl, List.map_map]
    exact List.map_congr_left fun line _ => trim_withoutReturn line
  · have hopen : last ++ [c] ≠ [] := by simp
    have hsplit : (String.ofList text).toList.splitOn '\n' = lines ++ [last ++ [c]] := by
      rw [String.toList_ofList, hlines]
    rw [splitLines_of_open hsplit hopen, fields_of_splitOn hlines, if_neg hopen,
      List.map_append, List.map_append, List.map_map]
    congr 1
    exact List.map_congr_left fun line _ => trim_withoutReturn line

/-! ### What the scanner has seen -/

section

variable {patterns : List (String × StepOutcome)}

theorem matchIndex_eq_some {line : String} {i : Nat} (h : matchIndex patterns line = some i) :
    ∃ pattern, patterns[i]? = some pattern ∧ pattern.1 = trim line := by
  obtain ⟨hi, hpattern, -⟩ := List.findIdx?_eq_some_iff_getElem.mp h
  exact ⟨patterns[i], List.getElem?_eq_getElem hi, (beq_iff_eq.mp hpattern).symm⟩

/-- The flags are set of the markers that these lines are. -/
structure SeenIn (patterns : List (String × StepOutcome)) (lines : List (List Char))
    (seen : List Bool) : Prop where
  length : seen.length = patterns.length
  iff : ∀ i, seen[i]? = some true ↔
    ∃ line ∈ lines, matchIndex patterns (String.ofList line) = some i

theorem getElem?_foldl_set (indices : List Nat) (seen : List Bool) (i : Nat) :
    (indices.foldl (fun seen index => seen.set index true) seen)[i]? = some true ↔
      seen[i]? = some true ∨ i < seen.length ∧ i ∈ indices := by
  induction indices generalizing seen with
  | nil => simp
  | cons index rest ih =>
    rw [List.foldl_cons, ih, List.length_set, List.getElem?_set, List.mem_cons]
    by_cases hindex : index = i
    · subst hindex
      by_cases hlt : index < seen.length
      · simp [hlt]
      · simp [hlt]
    · simp [hindex, Ne.symm hindex]

theorem length_foldl_set (indices : List Nat) (seen : List Bool) :
    (indices.foldl (fun seen index => seen.set index true) seen).length = seen.length := by
  induction indices generalizing seen with
  | nil => rfl
  | cons index rest ih => rw [List.foldl_cons, ih, List.length_set]

variable {s : OutcomeScanner} {text : List Char}

theorem SeenIn.mark {lines more : List (List Char)} (h : SeenIn patterns lines s.seen)
    (hpatterns : s.patterns = patterns) :
    SeenIn patterns (lines ++ more) (s.mark more) where
  length := (length_foldl_set _ _).trans h.length
  iff i := by
    unfold OutcomeScanner.mark
    rw [getElem?_foldl_set, h.iff, h.length, hpatterns, List.mem_filterMap]
    constructor
    · rintro (⟨line, hline, hmatch⟩ | ⟨-, line, hline, hmatch⟩)
      · exact ⟨line, List.mem_append_left _ hline, hmatch⟩
      · exact ⟨line, List.mem_append_right _ hline, hmatch⟩
    · rintro ⟨line, hline, hmatch⟩
      rcases List.mem_append.mp hline with hline | hline
      · exact Or.inl ⟨line, hline, hmatch⟩
      · obtain ⟨pattern, hpattern, -⟩ := matchIndex_eq_some hmatch
        exact Or.inr ⟨(List.getElem?_eq_some_iff.mp hpattern).1, line, hline, hmatch⟩

/-- **The first flag that is set is that of the first marker that is one of the lines.** -/
theorem SeenIn.detected {lines : List (List Char)} (h : SeenIn patterns lines s.seen)
    (hpatterns : s.patterns = patterns) :
    s.detected = (patterns.find? fun pattern =>
      (lines.map fun line => trim (String.ofList line)).contains pattern.1).map Prod.snd := by
  let found := fun pattern : String × StepOutcome =>
    (lines.map fun line => trim (String.ofList line)).contains pattern.1
  have hfound : ∀ {i : Nat} {pattern}, patterns[i]? = some pattern → s.seen[i]? = some true →
      found pattern = true := by
    intro i pattern hpattern hseen
    obtain ⟨line, hline, hmatch⟩ := (h.iff i).mp hseen
    obtain ⟨other, hother, htrim⟩ := matchIndex_eq_some hmatch
    obtain rfl := Option.some.inj (hpattern.symm.trans hother)
    exact List.contains_iff_mem.mpr (List.mem_map.mpr ⟨line, hline, htrim.symm⟩)
  unfold OutcomeScanner.detected
  rw [hpatterns]
  show _ = (patterns.find? found).map Prod.snd
  cases hfind : patterns.findIdx? found with
  | none =>
    have hnone : ∀ pattern ∈ patterns, found pattern = false :=
      List.findIdx?_eq_none_iff.mp hfind
    have hseen : s.seen.findIdx? id = none := by
      refine List.findIdx?_eq_none_iff.mpr fun flag hflag => ?_
      by_contra htrue
      obtain ⟨i, hi, rfl⟩ := List.getElem_of_mem hflag
      have hget : s.seen[i]? = some true := by
        rw [List.getElem?_eq_getElem hi]
        simpa using htrue
      have hlt : i < patterns.length := h.length ▸ hi
      have hyes := hfound (List.getElem?_eq_getElem hlt) hget
      rw [hnone _ (List.getElem_mem hlt)] at hyes
      cases hyes
    rw [hseen, List.find?_eq_none.mpr fun pattern hpattern => by simp [hnone pattern hpattern]]
    rfl
  | some i =>
    obtain ⟨hi, hyes, hbefore⟩ := List.findIdx?_eq_some_iff_getElem.mp hfind
    obtain ⟨line, hline, htrim⟩ := List.mem_map.mp (List.contains_iff_mem.mp hyes)
    -- No marker before it is the line, so that the line is matched with it.
    have hmatch : matchIndex patterns (String.ofList line) = some i := by
      refine List.findIdx?_eq_some_iff_getElem.mpr ⟨hi, beq_iff_eq.mpr htrim, ?_⟩
      intro j hj heq
      exact hbefore j hj (List.contains_iff_mem.mpr
        (List.mem_map.mpr ⟨line, hline, beq_iff_eq.mp heq⟩))
    have hlt : i < s.seen.length := h.length.symm ▸ hi
    have hseen : s.seen.findIdx? id = some i := by
      refine List.findIdx?_eq_some_iff_getElem.mpr ⟨hlt, ?_, ?_⟩
      · have hget := (h.iff i).mpr ⟨line, hline, hmatch⟩
        rw [List.getElem?_eq_getElem hlt] at hget
        exact Option.some.inj hget
      · intro j hj htrue
        have hlt' : j < patterns.length := Nat.lt_trans hj hi
        refine hbefore j hj (hfound (List.getElem?_eq_getElem hlt') ?_)
        rw [List.getElem?_eq_getElem (Nat.lt_trans hj hlt)]
        exact congrArg some htrue
    have hfirst : patterns.find? found = some patterns[i] :=
      List.find?_eq_some_iff_getElem.mpr ⟨hyes, i, hi, rfl, fun j hj => by
        simpa using hbefore j hj⟩
    rw [hseen, hfirst]
    show (patterns[i]?).map Prod.snd = _
    rw [List.getElem?_eq_getElem hi]

/-! ### Chunks -/

/-- The scanner has read the text: its last line is kept, all others were held against the
markers. -/
structure Heard (patterns : List (String × StepOutcome)) (text : List Char)
    (s : OutcomeScanner) : Prop where
  same : s.patterns = patterns
  parted : ∃ lines, text.splitOn '\n' = lines ++ [s.unended] ∧ SeenIn patterns lines s.seen

theorem Heard.append (h : Heard patterns text s) (bytes : List UInt8) :
    Heard patterns (text ++ decodeLossy bytes) (s.append bytes) := by
  obtain ⟨lines, hlines, hseen⟩ := h.parted
  obtain ⟨front, last, hpieces⟩ :=
    (List.eq_nil_or_concat' ((s.unended ++ decodeLossy bytes).splitOn '\n')).resolve_left
      (List.splitOn_ne_nil '\n' _)
  have hstep : s.append bytes =
      { s with seen := s.mark front, unended := last } := by
    unfold OutcomeScanner.append
    simp only [hpieces, List.dropLast_concat, List.getLast?_concat, Option.getD_some]
  refine ⟨hstep ▸ h.same, lines ++ front, ?_, ?_⟩
  · rw [splitOn_append hlines, hpieces, hstep, List.append_assoc]
  · rw [hstep]
    exact hseen.mark h.same

/-- **After any chunks the scanner has read what they are decoded to.** -/
theorem Heard.foldl (h : Heard patterns text s) (chunks : List (List UInt8)) :
    Heard patterns (text ++ chunks.flatMap decodeLossy)
      (chunks.foldl OutcomeScanner.append s) := by
  induction chunks generalizing text s with
  | nil => rwa [List.flatMap_nil, List.append_nil]
  | cons chunk rest ih =>
    rw [List.flatMap_cons, ← List.append_assoc]
    exact ih (h.append chunk)

theorem Heard.finish (h : Heard patterns text s) :
    SeenIn patterns (Fields.fields '\n' text) s.finish.seen ∧ s.finish.patterns = patterns := by
  obtain ⟨lines, hlines, hseen⟩ := h.parted
  rw [fields_of_splitOn hlines]
  unfold OutcomeScanner.finish
  by_cases hunended : s.unended = []
  · rw [if_pos hunended, if_pos hunended]
    exact ⟨hseen, h.same⟩
  · rw [if_neg hunended, if_neg hunended]
    exact ⟨hseen.mark h.same, h.same⟩

end

/-- **The outcome is that of the lines of the chunks, each decoded by itself.** -/
theorem scanOutcome_eq (params : Json) (chunks : List (List UInt8)) :
    scanOutcome params chunks = outcomeOf params (trimmedLines (chunks.flatMap decodeLossy)) := by
  unfold scanOutcome outcomeOf OutcomeScanner.fromParams
  cases hpatterns : outcomePatterns params with
  | none => rfl
  | some patterns =>
    rw [Option.bind_some]
    by_cases hnone : patterns = []
    · rw [if_pos hnone, hnone]
      rfl
    · rw [if_neg hnone, Option.bind_some]
      have hstart : Heard patterns [] ⟨patterns, List.replicate patterns.length false, []⟩ := by
        refine ⟨rfl, [], List.splitOn_nil _, List.length_replicate, fun i => ?_⟩
        rw [List.getElem?_replicate]
        simp
      obtain ⟨hseen, hsame⟩ := (hstart.foldl chunks).finish
      rw [hseen.detected hsame, trimmedLines_eq]
      rfl

/-! ### Cuts -/

def inked (c : Char) : Bool := !isWhitespace c

section

variable (text : List Char)

theorem countP_dropWhile_blank :
    (text.dropWhile isWhitespace).countP inked = text.countP inked := by
  induction text with
  | nil => rfl
  | cons c rest ih =>
    by_cases hc : isWhitespace c = true
    · rw [List.dropWhile_cons_of_pos hc, ih,
        List.countP_cons_of_neg (by unfold inked; simp [hc])]
    · rw [List.dropWhile_cons_of_neg hc]

theorem countP_trim : (trim (String.ofList text)).toList.countP inked = text.countP inked := by
  rw [toList_trim, String.toList_ofList]
  unfold List.rdropWhile
  rw [List.countP_reverse, countP_dropWhile_blank, List.countP_reverse, countP_dropWhile_blank]

theorem sum_countP_splitOn :
    ((text.splitOn '\n').map (List.countP inked)).sum = text.countP inked := by
  induction text with
  | nil => rfl
  | cons c rest ih =>
    by_cases hc : c = '\n'
    · subst hc
      rw [splitOn_cons_self, List.map_cons, List.sum_cons, ih,
        List.countP_cons_of_neg (by decide)]
      simp
    · obtain ⟨first, others, hparts⟩ :=
        List.exists_cons_of_ne_nil (List.splitOn_ne_nil '\n' rest)
      rw [hparts, List.map_cons, List.sum_cons] at ih
      rw [splitOn_cons_ne hc, hparts, List.modifyHead_cons, List.map_cons, List.sum_cons,
        List.countP_cons, List.countP_cons, ← ih]
      omega

theorem sum_countP_trimmedLines :
    ((trimmedLines text).map fun line => line.toList.countP inked).sum = text.countP inked := by
  have hfields : ((Fields.fields '\n' text).map (List.countP inked)).sum = text.countP inked := by
    rw [← sum_countP_splitOn]
    rcases splitOn_last '\n' text with ⟨lines, hlines, -⟩ | ⟨lines, last, c, hlines, -, -⟩
    · rw [fields_of_splitOn hlines, if_pos rfl, hlines, List.map_append, List.sum_append]
      rfl
    · rw [fields_of_splitOn hlines, if_neg (by simp), hlines]
  have hlines : ((Fields.fields '\n' text).map fun line => trim (String.ofList line)).map
      (fun line => line.toList.countP inked) = (Fields.fields '\n' text).map (List.countP inked) := by
    simp only [List.map_map, Function.comp_def, countP_trim]
  rw [trimmedLines_eq, hlines, hfields]

end

/-- **The lines of the chunks are those of the output exactly where the chunks are cut cleanly.** -/
theorem trimmedLines_flatMap_iff (chunks : List (List UInt8)) :
    trimmedLines (chunks.flatMap decodeLossy) = trimmedLines (decodeLossy chunks.flatten) ↔
      CleanlyCut chunks := by
  constructor
  · intro h
    refine Utf8.cleanlyCut_of_countP_eq (by decide : inked Utf8.replacement = true) ?_
    rw [← sum_countP_trimmedLines, ← sum_countP_trimmedLines, h]
  · intro h
    rw [h.decodeLossy_flatten]

def oneMarker (marker : String) : Json :=
  .obj [("outcome_on_stdout", .obj [(marker, .str "success")])]

theorem outcomeOf_oneMarker (marker : String) (lines : List String) :
    outcomeOf (oneMarker marker) lines = if marker ∈ lines then some .success else none := by
  show (List.find? _ [(marker, StepOutcome.success)]).map Prod.snd = _
  by_cases hmem : marker ∈ lines
  · rw [List.find?_cons_of_pos (by simpa using hmem), if_pos hmem]
    rfl
  · rw [List.find?_cons_of_neg (by simpa using hmem), if_neg hmem]
    rfl

theorem trimmedLines_of_notMem {text : List Char} (h : '\n' ∉ text) :
    trimmedLines text = if text = [] then [] else [trim (String.ofList text)] := by
  have hsplit : text.splitOn '\n' = [] ++ [text] := splitOn_of_notMem h
  rw [trimmedLines_eq, fields_of_splitOn hsplit]
  split <;> rfl

/-- **The outcome does not depend on how the output comes in where no chunk ends inside of a
character; where one does, other lines are read, and a line that is the whole output has another
outcome for some marker.** -/
theorem scanOutcome_iff (chunks : List (List UInt8)) :
    (trimmedLines (chunks.flatMap decodeLossy) = trimmedLines (decodeLossy chunks.flatten) ↔
        CleanlyCut chunks) ∧
      (CleanlyCut chunks →
        ∀ params, scanOutcome params chunks = wholeOutcome params chunks.flatten) ∧
      (10 ∉ chunks.flatten →
        ((∀ params, scanOutcome params chunks = wholeOutcome params chunks.flatten) ↔
          CleanlyCut chunks)) := by
  have hclean : CleanlyCut chunks →
      ∀ params, scanOutcome params chunks = wholeOutcome params chunks.flatten := by
    intro h params
    rw [scanOutcome_eq]
    unfold wholeOutcome
    rw [h.decodeLossy_flatten]
  refine ⟨trimmedLines_flatMap_iff chunks, hclean, fun hline => ⟨fun h => ?_, hclean⟩⟩
  have hwhole : '\n' ∉ decodeLossy chunks.flatten :=
    fun hmem => hline ((Utf8.newline_mem_decodeLossy _).mp hmem)
  have hpieces : '\n' ∉ chunks.flatMap decodeLossy := by
    intro hmem
    obtain ⟨chunk, hchunk, hmem⟩ := List.mem_flatMap.mp hmem
    exact hline (List.mem_flatten.mpr
      ⟨chunk, hchunk, (Utf8.newline_mem_decodeLossy _).mp hmem⟩)
  refine (trimmedLines_flatMap_iff chunks).mp ?_
  have hsame : ∀ marker, (marker ∈ trimmedLines (chunks.flatMap decodeLossy) ↔
      marker ∈ trimmedLines (decodeLossy chunks.flatten)) := by
    intro marker
    have hmarker := h (oneMarker marker)
    rw [scanOutcome_eq] at hmarker
    unfold wholeOutcome at hmarker
    rw [outcomeOf_oneMarker, outcomeOf_oneMarker] at hmarker
    by_cases hleft : marker ∈ trimmedLines (chunks.flatMap decodeLossy)
    · by_cases hright : marker ∈ trimmedLines (decodeLossy chunks.flatten)
      · exact iff_of_true hleft hright
      · rw [if_pos hleft, if_neg hright] at hmarker
        cases hmarker
    · by_cases hright : marker ∈ trimmedLines (decodeLossy chunks.flatten)
      · rw [if_neg hleft, if_pos hright] at hmarker
        cases hmarker
      · exact iff_of_false hleft hright
  rw [trimmedLines_of_notMem hpieces, trimmedLines_of_notMem hwhole] at hsame ⊢
  by_cases hleft : chunks.flatMap decodeLossy = []
  · by_cases hright : decodeLossy chunks.flatten = []
    · rw [if_pos hleft, if_pos hright]
    · rw [if_pos hleft, if_neg hright] at hsame
      exact absurd ((hsame _).mpr (List.mem_singleton_self _)) List.not_mem_nil
  · by_cases hright : decodeLossy chunks.flatten = []
    · rw [if_neg hleft, if_pos hright] at hsame
      exact absurd ((hsame _).mp (List.mem_singleton_self _)) List.not_mem_nil
    · rw [if_neg hleft, if_neg hright] at hsame ⊢
      exact congrArg (fun line => [line])
        (List.mem_singleton.mp ((hsame _).mp (List.mem_singleton_self _)))

/-- Chunks that are cut inside of a line, and not inside of a character. -/
theorem scanOutcome_clean :
    scanOutcome (oneMarker "ab") [[97], [98]] = wholeOutcome (oneMarker "ab") [97, 98] :=
  (scanOutcome_iff [[97], [98]]).2.1 (by decide) (oneMarker "ab")

/-- A marker of one character is not found when the character comes in two chunks. -/
theorem marker_cut :
    scanOutcome (oneMarker "é") [[195], [169]] = none ∧
      wholeOutcome (oneMarker "é") [195, 169] = some .success := by
  decide +kernel

end Luther
