/-
Whether it matters that a new file is added to Git.

An untracked file is read and its lines are counted and looked through; the lines of one that was
added are taken from Git's listing and from its diff.  The two agree on every file that Git and the
program both take for text and that is valid UTF-8, unless one of its lines looks like a header of
the diff or its last line ends with a carriage return alone.
-/
import Luther.Proofs.ContentDigest
import Luther.Proofs.GitDiff

namespace Luther

open Sql Fields

/-! ### Lines of a file and lines of its diff -/

theorem startsWith_ofList (line : List Char) (opening : String) :
    startsWith (String.ofList line) opening = opening.toList.isPrefixOf line := by
  unfold startsWith
  rw [String.toList_ofList]

theorem isAddedLine_plus (line : List Char) :
    isAddedLine (String.ofList ('+' :: line)) = !startsWith (String.ofList line) "++" := by
  unfold isAddedLine
  rw [startsWith_ofList, startsWith_ofList, startsWith_ofList]
  show (true && !"++".toList.isPrefixOf line) = !"++".toList.isPrefixOf line
  rw [Bool.true_and]

/-- The lines of a text, ended or not, each without the carriage return at its end. -/
def plainLines (text : String) : List String :=
  (Fields.fields '\n' text.toList).map fun line => String.ofList (withoutReturn line)

variable {text : String}

theorem fields_of_fromUtf8 {content : List UInt8} (h : Utf8.fromUtf8 content = some text) :
    Fields.fields 10 content = (Fields.fields '\n' text.toList).map Utf8.encode := by
  rw [Utf8.fromUtf8_eq_some.mp h]
  exact @Utf8.fields_encode '\n' (by decide) text.toList

theorem length_plainLines {content : List UInt8} (h : Utf8.fromUtf8 content = some text) :
    (plainLines text).length = (Fields.fields 10 content).length := by
  unfold plainLines
  rw [fields_of_fromUtf8 h, List.length_map, List.length_map]

variable {files : List NewFile} {w : Worktree} {git : GitView}

/-- **The lines that are read of the diff of a text**: all that do not look like a header. -/
theorem collectAddedDiffLines_staged {file : NewFile} {mergeBase : String}
    (hfile : (files.find? fun other => other.path = file.path) = some file)
    (htext : Utf8.fromUtf8 file.content = some text) :
    collectAddedDiffLines (w.staged git files) mergeBase file.path =
      .ok ((plainLines text).filter fun line => !startsWith line "++") := by
  let lines := git.header file.path ++ (Fields.fields '\n' text.toList).map ('+' :: ·)
    ++ GitView.unended file.content
  have hplus : Utf8.encode ['+'] = [43] := by decide
  have hdiff : git.diff file = Utf8.encode (Fields.terminated '\n' lines) := by
    rw [@Utf8.encode_terminated '\n' (by decide)]
    show Fields.terminated 10 _ = Fields.terminated 10 (lines.map Utf8.encode)
    congr 1
    show _ ++ file.lines.map (43 :: ·) ++ _ = _
    unfold NewFile.lines
    rw [fields_of_fromUtf8 htext, List.map_append, List.map_append, List.map_map, List.map_map]
    rfl
  have hread : utf8Or s!"non-UTF-8 diff output for '{file.path}'" (git.diff file) =
      .ok (String.ofList (Fields.terminated '\n' lines)) := by
    unfold utf8Or
    rw [Utf8.fromUtf8_eq_some.mpr (by rw [String.toList_ofList]; exact hdiff)]
  have hended : ∀ line ∈ lines, '\n' ∉ line := by
    intro line hline
    rcases List.mem_append.mp hline with hline | hline
    · rcases List.mem_append.mp hline with hline | hline
      · exact (git.skipped file.path line hline).1
      · obtain ⟨body, hbody, rfl⟩ := List.mem_map.mp hline
        intro hmem
        rcases List.mem_cons.mp hmem with heq | hmem
        · exact absurd heq (by decide)
        · exact notMem_of_mem_fields hbody hmem
    · unfold GitView.unended at hline
      split at hline
      · cases hline
      · rw [List.mem_singleton.mp hline]
        decide
  have hheader : ((git.header file.path).map fun line => String.ofList (withoutReturn line)).filter
      isAddedLine = [] := by
    refine List.filter_eq_nil_iff.mpr fun line hline => ?_
    obtain ⟨body, hbody, rfl⟩ := List.mem_map.mp hline
    rw [(git.skipped file.path body hbody).2]
    exact Bool.false_ne_true
  have hunended : ((GitView.unended file.content).map fun line =>
      String.ofList (withoutReturn line)).filter isAddedLine = [] := by
    unfold GitView.unended
    split <;> decide
  have hbody : (((Fields.fields '\n' text.toList).map ('+' :: ·)).map fun line =>
      String.ofList (withoutReturn line)) =
        (Fields.fields '\n' text.toList).map fun line =>
          String.ofList ('+' :: withoutReturn line) := by
    rw [List.map_map]
    refine List.map_congr_left fun line _ => ?_
    show String.ofList (withoutReturn ('+' :: line)) = _
    rw [withoutReturn_cons (by decide)]
  unfold collectAddedDiffLines
  have hstaged : (w.staged git files).gitDiff mergeBase file.path = .ok (git.diff file) := by
    unfold Worktree.staged
    dsimp only
    rw [hfile]
  rw [hstaged]
  show (utf8Or _ _ >>= _) = _
  rw [hread]
  show Except.ok (((splitLines _).filter isAddedLine).map _) = _
  rw [splitLines_terminated hended, List.map_append, List.map_append, List.filter_append,
    List.filter_append, hheader, hunended, hbody, List.nil_append, List.append_nil, List.filter_map,
    List.map_map]
  unfold plainLines
  rw [List.filter_map]
  congr 1
  have hfilter : (isAddedLine ∘ fun line => String.ofList ('+' :: withoutReturn line)) =
      ((fun line => !startsWith line "++") ∘ fun line => String.ofList (withoutReturn line)) := by
    funext line
    exact isAddedLine_plus (withoutReturn line)
  rw [hfilter]
  refine List.map_congr_left fun line _ => ?_
  show String.ofList ((String.ofList ('+' :: withoutReturn line)).toList.drop 1) = _
  rw [String.toList_ofList]
  rfl

theorem splitLines_eq_plainLines (h : text.toList.getLast? ≠ some '\r') :
    splitLines text = plainLines text := by
  unfold plainLines
  rcases splitOn_last '\n' text.toList with ⟨lines, hlines, -⟩ |
    ⟨lines, last, c, hlines, hc, -⟩
  · rw [splitLines_of_ended hlines, fields_of_splitOn hlines, if_pos rfl]
  · have hopen : last ++ [c] ≠ [] := by simp
    have hend : (last ++ [c]).getLast? ≠ some '\r' := by
      rw [List.getLast?_concat, ← hc]
      exact h
    rw [splitLines_of_open hlines hopen, fields_of_splitOn hlines, if_neg hopen,
      List.map_append, List.map_singleton]
    unfold withoutReturn
    rw [if_neg hend]

theorem length_splitLines (text : String) :
    (splitLines text).length = (plainLines text).length := by
  unfold plainLines
  rcases splitOn_last '\n' text.toList with ⟨lines, hlines, -⟩ |
    ⟨lines, last, c, hlines, -, -⟩
  · rw [splitLines_of_ended hlines, fields_of_splitOn hlines, if_pos rfl]
  · have hopen : last ++ [c] ≠ [] := by simp
    rw [splitLines_of_open hlines hopen, fields_of_splitOn hlines, if_neg hopen]
    simp

/-! ### One file -/

/-- Changes that count the same. -/
structure CountsAlike (a b : FileChange) : Prop where
  path : a.path = b.path
  addedLines : a.addedLines = b.addedLines
  isBinary : a.isBinary = b.isBinary
  isNewFile : a.status.isNewFile = b.status.isNewFile

section

variable {git : GitView} {w : Worktree} {files : List NewFile} {file : NewFile}

section

variable (h : w.read file.path = .ok file.content)

include h

theorem isFileBinary_of_read : isFileBinary w file.path = decide (0 ∈ file.content) := by
  unfold isFileBinary
  rw [h]

theorem countLinesInFile_of_text
    (hzero : 0 ∉ file.content) (htext : Utf8.fromUtf8 file.content = some text) :
    countLinesInFile w file.path = some (UInt32.ofNat file.lines.length) := by
  unfold countLinesInFile
  rw [h]
  dsimp only
  rw [if_neg hzero, htext, Option.map_some, length_splitLines, length_plainLines htext]
  unfold u32OrMax
  rw [if_pos file.countable]
  rfl

theorem countsAlike (halike : MeasuredAlike git file) :
    CountsAlike (untrackedChange w file.path) (git.addedChange file) where
  path := rfl
  addedLines := by
    show countLinesInFile w file.path = if git.binary file then none else _
    rw [halike.binary]
    by_cases hzero : 0 ∈ file.content
    · unfold countLinesInFile
      rw [h]
      dsimp only
      rw [if_pos hzero, if_pos (decide_eq_true hzero)]
    · obtain ⟨text, htext, -⟩ := halike.text hzero
      rw [countLinesInFile_of_text h hzero htext, if_neg (by simp [hzero])]
  isBinary := by
    show isFileBinary w file.path = git.binary file
    rw [isFileBinary_of_read h, halike.binary]
  isNewFile := rfl

theorem untrackedLines_of_text (htext : Utf8.fromUtf8 file.content = some text) :
    untrackedLines w file.path = .ok (splitLines text) := by
  have hread : (w.read file.path).toOption.bind Utf8.fromUtf8 = some text := by
    rw [h]
    exact htext
  unfold untrackedLines
  rw [hread]

theorem scannedLines_alike (halike : MeasuredAlike git file)
    (hfile : (files.find? fun other => other.path = file.path) = some file)
    (config : ScopeMeasurementConfig) (mergeBase : String) :
    scannedLines config w mergeBase (untrackedChange w file.path) =
      scannedLines config (w.staged git files) mergeBase (git.addedChange file) := by
  have hbinary : (untrackedChange w file.path).isBinary = (git.addedChange file).isBinary :=
    (countsAlike h halike).isBinary
  unfold scannedLines
  rw [hbinary]
  show _ = if (git.addedChange file).isBinary = true then _ else if hasSourceExtension file.path _
    then collectAddedDiffLines (w.staged git files) mergeBase file.path else _
  show (if (git.addedChange file).isBinary = true then _ else if hasSourceExtension file.path _
    then untrackedLines w file.path else _) = _
  by_cases hzero : 0 ∈ file.content
  · have htrue : (git.addedChange file).isBinary = true := by
      show git.binary file = true
      rw [halike.binary]
      exact decide_eq_true hzero
    rw [if_pos htrue, if_pos htrue]
  · obtain ⟨text, htext, hplus, hend⟩ := halike.text hzero
    have hlines : (plainLines text).filter (fun line => !startsWith line "++") =
        splitLines text := by
      rw [← splitLines_eq_plainLines hend]
      refine List.filter_eq_self.mpr fun line hline => ?_
      rw [hplus line hline]
      rfl
    rw [untrackedLines_of_text h htext, collectAddedDiffLines_staged hfile htext, hlines]

end

end

/-! ### All changes -/

section

variable {items : List (FileChange ⊕ NewFile)} {f g : FileChange ⊕ NewFile → FileChange}

theorem countPublicApis_congr {regex : RegexEngine} {config : ScopeMeasurementConfig}
    {w w' : Worktree} {mergeBase : String}
    (h : ∀ item ∈ items, scannedLines config w mergeBase (f item) =
      scannedLines config w' mergeBase (g item)) :
    countPublicApis regex (items.map f) config w mergeBase =
      countPublicApis regex (items.map g) config w' mergeBase := by
  have hscanned : items.mapM (scannedLines config w mergeBase ∘ f) =
      items.mapM (scannedLines config w' mergeBase ∘ g) := mapM_congr_left h
  unfold countPublicApis
  rw [List.mapM_map, List.mapM_map, hscanned]

variable (halike : ∀ item ∈ items, CountsAlike (f item) (g item))

include halike

theorem map_path_alike : (items.map f).map FileChange.path = (items.map g).map FileChange.path := by
  rw [List.map_map, List.map_map]
  exact List.map_congr_left fun item hitem => (halike item hitem).path

theorem sumAddedLines_alike : sumAddedLines (items.map f) = sumAddedLines (items.map g) := by
  have hadded : items.filterMap (FileChange.addedLines ∘ f) =
      items.filterMap (FileChange.addedLines ∘ g) :=
    List.filterMap_congr fun item hitem => (halike item hitem).addedLines
  unfold sumAddedLines
  rw [List.filterMap_map, List.filterMap_map, hadded]

theorem binaryFiles_alike : ((items.map f).filter FileChange.isBinary).length =
    ((items.map g).filter FileChange.isBinary).length := by
  rw [← List.countP_eq_length_filter, ← List.countP_eq_length_filter, List.countP_map,
    List.countP_map]
  refine List.countP_congr fun item hitem => ?_
  show (f item).isBinary = true ↔ (g item).isBinary = true
  rw [(halike item hitem).isBinary]

theorem countNewModules_alike (config : ScopeMeasurementConfig) :
    countNewModules (items.map f) config = countNewModules (items.map g) config := by
  unfold countNewModules
  rw [← List.countP_eq_length_filter, ← List.countP_eq_length_filter, List.countP_map,
    List.countP_map]
  congr 1
  refine List.countP_congr fun item hitem => ?_
  show ((f item).status.isNewFile && hasSourceExtension (f item).path _) = true ↔
    ((g item).status.isNewFile && hasSourceExtension (g item).path _) = true
  rw [(halike item hitem).isNewFile, (halike item hitem).path]

theorem measurementOf_alike (data data' : GitPatchData) (hdata : data.divergence = data'.divergence)
    (charter : CanonicalTaskCharter) (config : ScopeMeasurementConfig)
    (deps : List (String × List String)) (apis : UInt32) (digest digest' : String) :
    (measurementOf data charter config deps (items.map f) apis digest).size =
        (measurementOf data' charter config deps (items.map g) apis digest').size ∧
      evaluate (measurementOf data charter config deps (items.map f) apis digest) charter =
        evaluate (measurementOf data' charter config deps (items.map g) apis digest') charter := by
  have hlength : (items.map f).length = (items.map g).length := by
    rw [List.length_map, List.length_map]
  unfold measurementOf PatchMeasurement.size evaluate collectBudgetViolations
    collectPathViolations collectSubsystemViolations
  dsimp only
  rw [map_path_alike halike, sumAddedLines_alike halike, binaryFiles_alike halike,
    countNewModules_alike halike, hlength, hdata]
  exact ⟨rfl, rfl⟩

end

def itemPath : FileChange ⊕ NewFile → String := Sum.elim FileChange.path NewFile.path

/-- Changes and new files in the order of their paths, the first of each path. -/
def sortedItems (tracked : List FileChange) (files : List NewFile) :
    List (FileChange ⊕ NewFile) :=
  ((tracked.map Sum.inl ++ files.map Sum.inr).insertionSort
    fun a b => itemPath a ≤ itemPath b).destutter fun a b => itemPath a ≠ itemPath b

theorem mem_of_mem_sortedItems {tracked : List FileChange}
    {item : FileChange ⊕ NewFile} (h : item ∈ sortedItems tracked files) :
    item ∈ tracked.map Sum.inl ∨ item ∈ files.map Sum.inr :=
  List.mem_append.mp ((List.perm_insertionSort _ _).mem_iff.mp
    ((List.destutter_sublist _ _).mem h))

theorem map_sortedItems {f : FileChange ⊕ NewFile → FileChange}
    (hpath : ∀ item, (f item).path = itemPath item) (tracked : List FileChange)
    (files : List NewFile) :
    (sortedItems tracked files).map f =
      (sortChanges (tracked.map (f ∘ Sum.inl) ++ files.map (f ∘ Sum.inr))).destutter
        fun a b => a.path ≠ b.path := by
  let all : List (FileChange ⊕ NewFile) := tracked.map Sum.inl ++ files.map Sum.inr
  have hsort : (all.insertionSort fun a b => itemPath a ≤ itemPath b).map f =
      (all.map f).insertionSort fun a b => a.path ≤ b.path :=
    List.map_insertionSort _ _ _ _ fun a _ b _ => by rw [hpath, hpath]
  have hdestutter : ((all.insertionSort fun a b => itemPath a ≤ itemPath b).destutter
      fun a b => itemPath a ≠ itemPath b).map f =
        ((all.insertionSort fun a b => itemPath a ≤ itemPath b).map f).destutter
          fun a b => a.path ≠ b.path :=
    List.map_destutter fun a _ b _ => by rw [hpath, hpath]
  unfold sortedItems sortChanges
  rw [hdestutter, hsort, List.map_append, List.map_map, List.map_map]

def untrackedItem (w : Worktree) : FileChange ⊕ NewFile → FileChange :=
  Sum.elim id fun file => untrackedChange w file.path

/-- A change, or how a new file is listed once it is added. -/
def addedItem (git : GitView) : FileChange ⊕ NewFile → FileChange := Sum.elim id git.addedChange

theorem allChanges_eq_map (w : Worktree) (tracked : List FileChange) (files : List NewFile) :
    allChanges w tracked (files.map NewFile.path) =
      (sortedItems tracked files).map (untrackedItem w) := by
  rw [map_sortedItems fun item => by cases item <;> rfl]
  unfold allChanges
  rw [List.map_map]
  congr 3
  exact (List.map_id tracked).symm

theorem allChanges_added_eq_map (w : Worktree) (git : GitView) (tracked : List FileChange)
    (files : List NewFile) :
    allChanges w (tracked ++ files.map git.addedChange) [] =
      (sortedItems tracked files).map (addedItem git) := by
  rw [map_sortedItems fun item => by cases item <;> rfl]
  unfold allChanges
  rw [List.map_nil, List.append_nil]
  congr 3
  exact (List.map_id tracked).symm

theorem patchUntrackedFiles_ok {data : GitPatchData} {run : String} {required : Bool}
    {untracked : List String} (hmarker : workspaceOwnerMarker ∉ data.untrackedFiles) :
    patchUntrackedFiles data w run required = .ok untracked ↔
      (w.verifyWorkspaceOwnership run = none ∨ required = false) ∧
        untracked = data.untrackedFiles := by
  unfold patchUntrackedFiles
  cases hverify : w.verifyWorkspaceOwnership run with
  | none =>
    have hall : data.untrackedFiles.filter (· ≠ workspaceOwnerMarker) = data.untrackedFiles := by
      refine List.filter_eq_self.mpr fun path hpath => ?_
      exact decide_eq_true fun heq => hmarker (heq ▸ hpath)
    rw [hall]
    simp [eq_comm]
  | some reason =>
    cases required with
    | true => simp
    | false =>
      dsimp only
      rw [if_neg Bool.false_ne_true, if_neg hmarker]
      simp [eq_comm]

/-! ### The patch before and after -/

theorem NewFile.eq_of_path (hread : ∀ file ∈ files, w.read file.path = .ok file.content)
    {a b : NewFile} (ha : a ∈ files) (hb : b ∈ files) (hpath : a.path = b.path) : a = b := by
  have hcontent : a.content = b.content := by
    have hsame := hread a ha
    rw [hpath, hread b hb] at hsame
    exact (Except.ok.inj hsame).symm
  cases a
  cases b
  congr

theorem find?_path (hread : ∀ file ∈ files, w.read file.path = .ok file.content) {file : NewFile}
    (hfile : file ∈ files) : (files.find? fun other => other.path = file.path) = some file := by
  cases hfind : files.find? fun other => other.path = file.path with
  | none => exact absurd (List.find?_eq_none.mp hfind file hfile) (by simp)
  | some other =>
    have hpath : other.path = file.path := by simpa using List.find?_some hfind
    rw [NewFile.eq_of_path hread (List.mem_of_find?_eq_some hfind) hfile hpath]

theorem scannedLines_staged {config : ScopeMeasurementConfig} {mergeBase : String}
    {change : FileChange} (h : ∀ file ∈ files, file.path ≠ change.path) :
    scannedLines config w mergeBase change =
      scannedLines config (w.staged git files) mergeBase change := by
  have hnone : (files.find? fun file => file.path = change.path) = none :=
    List.find?_eq_none.mpr fun file hfile => by simpa using h file hfile
  have hdiff : (w.staged git files).gitDiff mergeBase change.path =
      w.gitDiff mergeBase change.path := by
    unfold Worktree.staged
    dsimp only
    rw [hnone]
  unfold scannedLines collectAddedDiffLines
  rw [hdiff]
  rfl

/-- **Files that are measured alike count the same untracked and added.** -/
theorem stagingFree_of_alike
    (h : ∀ file ∈ files, MeasuredAlike git file) : StagingFree git files := by
  intro sha regex charter run required config w deps head divergence tracked hread hfree
  dsimp only
  let items := sortedItems tracked files
  have halike : ∀ item ∈ items, CountsAlike (untrackedItem w item) (addedItem git item) := by
    intro item hitem
    rcases mem_of_mem_sortedItems hitem with hitem | hitem
    · obtain ⟨change, -, rfl⟩ := List.mem_map.mp hitem
      exact ⟨rfl, rfl, rfl, rfl⟩
    · obtain ⟨file, hfile, rfl⟩ := List.mem_map.mp hitem
      exact countsAlike (hread file hfile) (h file hfile)
  have hscanned : ∀ item ∈ items,
      scannedLines config w charter.mergeBase (untrackedItem w item) =
        scannedLines config (w.staged git files) charter.mergeBase (addedItem git item) := by
    intro item hitem
    rcases mem_of_mem_sortedItems hitem with hitem | hitem
    · obtain ⟨change, hchange, rfl⟩ := List.mem_map.mp hitem
      refine scannedLines_staged fun file hfile heq => hfree file hfile ?_
      rw [heq]
      exact List.mem_map_of_mem hchange
    · obtain ⟨file, hfile, rfl⟩ := List.mem_map.mp hitem
      exact scannedLines_alike (hread file hfile) (h file hfile) (find?_path hread hfile) config
        charter.mergeBase
  have hmeasurable : (∀ change ∈ items.map (untrackedItem w), Measurable w change.path) ↔
      ∀ change ∈ items.map (addedItem git), Measurable (w.staged git files) change.path := by
    rw [List.forall_mem_map, List.forall_mem_map]
    refine forall₂_congr fun item hitem => ?_
    rw [(halike item hitem).path]
    rfl
  have hmarker : workspaceOwnerMarker ∉ files.map NewFile.path := by
    intro hmem
    obtain ⟨file, hfile, hpath⟩ := List.mem_map.mp hmem
    exact (h file hfile).ordinary hpath
  have hapis := @countPublicApis_congr items _ _ regex _ _ _ _ hscanned
  -- Both succeed under one condition, with one count of the public names.
  let counted := fun apis =>
    (charter.runId = run ∧ (w.verifyWorkspaceOwnership run = none ∨ required = false)) ∧
      countPublicApis regex (items.map (untrackedItem w)) config w charter.mergeBase = .ok apis ∧
        ∀ change ∈ items.map (untrackedItem w), Measurable w change.path
  have hbefore : ∀ m, computeMeasurement sha regex
      ⟨head, divergence, tracked, files.map NewFile.path⟩ charter run required config w deps =
        .ok m ↔ ∃ apis, counted apis ∧
          m = measurementOf ⟨head, divergence, tracked, files.map NewFile.path⟩ charter config deps
            (items.map (untrackedItem w)) apis
            (sha ((items.map (untrackedItem w)).flatMap (measuredPiece w))) := by
    intro m
    rw [computeMeasurement_ok]
    constructor
    · rintro ⟨hrun, untracked, apis, huntracked, hcount, hall, rfl⟩
      obtain ⟨howned, rfl⟩ := (patchUntrackedFiles_ok hmarker).mp huntracked
      rw [allChanges_eq_map] at hcount hall ⊢
      exact ⟨apis, ⟨⟨hrun, howned⟩, hcount, hall⟩, rfl⟩
    · rintro ⟨apis, ⟨⟨hrun, howned⟩, hcount, hall⟩, rfl⟩
      refine ⟨hrun, _, apis, (patchUntrackedFiles_ok hmarker).mpr ⟨howned, rfl⟩, ?_⟩
      rw [allChanges_eq_map]
      exact ⟨hcount, hall, rfl⟩
  have hafter : ∀ m, computeMeasurement sha regex
      ⟨head, divergence, tracked ++ files.map git.addedChange, []⟩ charter run required config
        (w.staged git files) deps = .ok m ↔ ∃ apis, counted apis ∧
          m = measurementOf ⟨head, divergence, tracked ++ files.map git.addedChange, []⟩ charter
            config deps (items.map (addedItem git)) apis
            (sha ((items.map (addedItem git)).flatMap (measuredPiece (w.staged git files)))) := by
    intro m
    rw [computeMeasurement_ok]
    constructor
    · rintro ⟨hrun, untracked, apis, huntracked, hcount, hall, rfl⟩
      obtain ⟨howned, rfl⟩ := (patchUntrackedFiles_ok List.not_mem_nil).mp huntracked
      rw [allChanges_added_eq_map] at hcount hall ⊢
      exact ⟨apis, ⟨⟨hrun, howned⟩, hapis.trans hcount, hmeasurable.mpr hall⟩, rfl⟩
    · rintro ⟨apis, ⟨⟨hrun, howned⟩, hcount, hall⟩, rfl⟩
      refine ⟨hrun, _, apis, (patchUntrackedFiles_ok List.not_mem_nil).mpr ⟨howned, rfl⟩, ?_⟩
      rw [allChanges_added_eq_map]
      exact ⟨hapis.symm.trans hcount, hmeasurable.mp hall, rfl⟩
  by_cases hcounted : ∃ apis, counted apis
  · obtain ⟨apis, hcounted⟩ := hcounted
    rw [(hbefore _).mpr ⟨apis, hcounted, rfl⟩, (hafter _).mpr ⟨apis, hcounted, rfl⟩]
    obtain ⟨hsize, hevaluate⟩ := measurementOf_alike halike
      ⟨head, divergence, tracked, files.map NewFile.path⟩
      ⟨head, divergence, tracked ++ files.map git.addedChange, []⟩ rfl charter config deps apis
      (sha ((items.map (untrackedItem w)).flatMap (measuredPiece w)))
      (sha ((items.map (addedItem git)).flatMap (measuredPiece (w.staged git files))))
    exact ⟨congrArg some hsize, congrArg some hevaluate⟩
  · have hnone : ∀ {result : Except MeasurementError PatchMeasurement},
        (∀ m, result = .ok m → ∃ apis, counted apis) → result.toOption = none := by
      intro result hresult
      cases result with
      | error e => rfl
      | ok m => exact absurd (hresult m rfl) hcounted
    rw [hnone fun m hm => ((hbefore m).mp hm).imp fun _ happly => happly.1,
      hnone fun m hm => ((hafter m).mp hm).imp fun _ happly => happly.1]
    exact ⟨rfl, rfl⟩

theorem noneDropped_of_alike
    (h : ∀ file ∈ files, MeasuredAlike git file) : NoneDropped git files := by
  intro file hfile hzero w hread
  obtain ⟨text, htext, hplus, hend⟩ := (h file hfile).text hzero
  have hlength : (splitLines text).length = file.lines.length := by
    rw [length_splitLines, length_plainLines htext]
    rfl
  constructor
  · show countLinesInFile w file.path ≠ none
    rw [countLinesInFile_of_text hread hzero htext]
    exact Option.some_ne_none _
  · intro mergeBase before after hbefore hafter
    rw [untrackedLines_of_text hread htext] at hbefore
    have hself : ([file].find? fun other => other.path = file.path) = some file :=
      List.find?_cons_of_pos (by simp)
    rw [collectAddedDiffLines_staged hself htext] at hafter
    have hall : (plainLines text).filter (fun line => !startsWith line "++") = splitLines text := by
      rw [← splitLines_eq_plainLines hend]
      refine List.filter_eq_self.mpr fun line hline => ?_
      rw [hplus line hline]
      rfl
    rw [← Except.ok.inj hbefore, ← Except.ok.inj hafter, hall]
    exact ⟨hlength, hlength⟩

/-! ### One new file, and a pattern that finds one line -/

theorem toNat_u32OrMax (n : Nat) : (u32OrMax n).toNat = min n (2 ^ 32 - 1) := by
  unfold u32OrMax
  split
  · rw [UInt32.toNat_ofNat']
    omega
  · show 4294967295 = _
    omega

theorem toNat_saturatingAdd (a b : UInt32) :
    (saturatingAdd a b).toNat = min (a.toNat + b.toNat) (2 ^ 32 - 1) := toNat_u32OrMax _

theorem toNat_countMatches (regexes : List (String → Bool)) (lines : List String)
    (count : UInt32) : (countMatches regexes lines count).toNat =
      min (count.toNat + lines.countP fun line => regexes.any (· line)) (2 ^ 32 - 1) := by
  unfold countMatches
  induction lines generalizing count with
  | nil =>
    have := count.toNat_lt
    simp only [List.foldl_nil, List.countP_nil]
    omega
  | cons line rest ih =>
    have hone : (1 : UInt32).toNat = 1 := rfl
    rw [List.foldl_cons, ih, List.countP_cons]
    split
    · rw [toNat_saturatingAdd, hone]
      omega
    · rw [Nat.add_zero]

def newTree (file : NewFile) : Worktree where
  workDir := ""
  read path := if path = file.path then .ok file.content else .error .notFound
  verifyWorkspaceOwnership _ := none
  gitDiff _ _ := .ok []

theorem newTree_read (file : NewFile) : (newTree file).read file.path = .ok file.content :=
  if_pos rfl

theorem newTree_reads {file other : NewFile} (h : other ∈ [file]) :
    (newTree file).read other.path = .ok other.content := by
  rw [List.mem_singleton.mp h]
  exact newTree_read file

theorem newTree_measurable (file : NewFile) : Measurable (newTree file) file.path := by
  intro message hne
  rw [newTree_read] at hne
  cases hne

section

variable {git : GitView} {file : NewFile}

theorem computeMeasurement_one {regex : RegexEngine} {config : ScopeMeasurementConfig}
    {w : Worktree} {data : GitPatchData} {change : FileChange} {untracked : List String}
    {apis : UInt32} (howned : patchUntrackedFiles data w "run" false = .ok untracked)
    (hchanges : allChanges w data.trackedChanges untracked = [change])
    (hmeasurable : Measurable w change.path)
    (hapis : countPublicApis regex [change] config w "base" = .ok apis) :
    ∃ digest, computeMeasurement spelled regex data openCharter "run" false config w [] =
      .ok (measurementOf data openCharter config [] [change] apis digest) := by
  refine ⟨spelled ([change].flatMap (measuredPiece w)),
    computeMeasurement_ok.mpr ⟨rfl, untracked, apis, howned, ?_⟩⟩
  rw [hchanges]
  refine ⟨hapis, fun other hother => ?_, rfl⟩
  rw [List.mem_singleton.mp hother]
  exact hmeasurable

section

variable (h : StagingFree git [file])

include h

theorem StagingFree.one (hpath : file.path ≠ workspaceOwnerMarker)
    {regex : RegexEngine} {config : ScopeMeasurementConfig} {before after : UInt32}
    (hbefore : countPublicApis regex [untrackedChange (newTree file) file.path] config
      (newTree file) "base" = .ok before)
    (hafter : countPublicApis regex [git.addedChange file] config
      ((newTree file).staged git [file]) "base" = .ok after) :
    sumAddedLines [untrackedChange (newTree file) file.path] =
        sumAddedLines [git.addedChange file] ∧
      decide (0 ∈ file.content) = git.binary file ∧ before = after := by
  have howned : patchUntrackedFiles ⟨"head", 0, [], [file.path]⟩ (newTree file) "run" false =
      .ok [file.path] :=
    (patchUntrackedFiles_ok (by simpa using Ne.symm hpath)).mpr ⟨Or.inl rfl, rfl⟩
  obtain ⟨digest, hfirst⟩ := computeMeasurement_one howned rfl (newTree_measurable file) hbefore
  obtain ⟨digest', hsecond⟩ := @computeMeasurement_one regex config
    ((newTree file).staged git [file]) ⟨"head", 0, [git.addedChange file], []⟩
    (git.addedChange file) [] after rfl rfl (newTree_measurable file) hafter
  have hsize := (h spelled regex openCharter "run" false config (newTree file) [] "head" 0 []
    (fun _ => newTree_reads) fun _ _ => List.not_mem_nil).1
  simp only [List.map_cons, List.map_nil, List.nil_append, hfirst, hsecond] at hsize
  obtain ⟨-, hlines, hbinary, -, hapis⟩ : _ = _ ∧ _ = _ ∧ _ = _ ∧ _ = _ ∧ _ = _ := by
    simpa only [Except.toOption, Option.map_some, Option.some.injEq, PatchMeasurement.size,
      measurementOf, Prod.mk.injEq] using hsize
  refine ⟨hlines, ?_, hapis⟩
  have hfile : (untrackedChange (newTree file) file.path).isBinary =
      decide (0 ∈ file.content) := isFileBinary_of_read (newTree_read file)
  rw [← hfile]
  show _ = (git.addedChange file).isBinary
  cases hfst : (untrackedChange (newTree file) file.path).isBinary with
  | true =>
    cases hsnd : (git.addedChange file).isBinary with
    | true => rfl
    | false =>
      have hone : u32OrMax 1 = u32OrMax 0 := by simpa [hfst, hsnd] using hbinary
      exact absurd hone (by decide)
  | false =>
    cases hsnd : (git.addedChange file).isBinary with
    | true =>
      have hone : u32OrMax 0 = u32OrMax 1 := by simpa [hfst, hsnd] using hbinary
      exact absurd hone (by decide)
    | false => rfl

omit h in
theorem countPublicApis_nil (regex : RegexEngine) (changes : List FileChange)
    (extensions : List String) (w : Worktree) (mergeBase : String) :
    countPublicApis regex changes ⟨extensions, []⟩ w mergeBase = .ok 0 := rfl

theorem StagingFree.ordinary : file.path ≠ workspaceOwnerMarker := by
  intro hpath
  have howned : patchUntrackedFiles ⟨"head", 0, [], [file.path]⟩ (newTree file) "run" false =
      .ok [] := by
    show Except.ok (List.filter _ [file.path]) = _
    rw [List.filter_cons_of_neg (by simpa using hpath), List.filter_nil]
  have hfirst : computeMeasurement spelled (fun _ => none) ⟨"head", 0, [], [file.path]⟩ openCharter
      "run" false ⟨[], []⟩ (newTree file) [] = .ok (measurementOf ⟨"head", 0, [], [file.path]⟩
        openCharter ⟨[], []⟩ [] [] 0 (spelled [])) :=
    computeMeasurement_ok.mpr ⟨rfl, [], 0, howned, rfl, (fun _ hmem => by cases hmem), rfl⟩
  obtain ⟨digest', hsecond⟩ := @computeMeasurement_one (fun _ => none) ⟨[], []⟩
    ((newTree file).staged git [file]) ⟨"head", 0, [git.addedChange file], []⟩
    (git.addedChange file) [] 0 rfl rfl (newTree_measurable file) rfl
  have hsize := (h spelled (fun _ => none) openCharter "run" false ⟨[], []⟩ (newTree file) []
    "head" 0 [] (fun _ => newTree_reads) fun _ _ => List.not_mem_nil).1
  simp only [List.map_cons, List.map_nil, List.nil_append, hfirst, hsecond] at hsize
  have hfiles : u32OrMax 0 = u32OrMax 1 := (Prod.mk.inj (Option.some.inj hsize)).1
  exact absurd hfiles (by decide)

omit h in
theorem fields_ne_nil {content : List UInt8} (h : content ≠ []) :
    Fields.fields 10 content ≠ [] := by
  rcases splitOn_last 10 content with ⟨lines, hlines, -⟩ | ⟨lines, last, c, hlines, -, -⟩
  · rw [fields_of_splitOn hlines, if_pos rfl]
    rintro rfl
    obtain ⟨b, rest, rfl⟩ := List.exists_cons_of_ne_nil h
    by_cases hb : b = 10
    · subst hb
      rw [splitOn_cons_self] at hlines
      exact List.splitOn_ne_nil 10 rest (List.cons.inj hlines).2
    · rw [splitOn_cons_ne hb] at hlines
      obtain ⟨first, others, hparts⟩ :=
        List.exists_cons_of_ne_nil (List.splitOn_ne_nil (10 : UInt8) rest)
      rw [hparts] at hlines
      exact absurd (List.cons.inj hlines).1 (List.cons_ne_nil _ _)
  · rw [fields_of_splitOn hlines, if_neg (by simp)]
    simp

theorem StagingFree.isText (hzero : 0 ∉ file.content) :
    ∃ text, Utf8.fromUtf8 file.content = some text := by
  obtain ⟨hlines, hbinary, -⟩ := h.one h.ordinary (countPublicApis_nil (fun _ => none) _ [] _ _)
    (countPublicApis_nil (fun _ => none) _ [] _ _)
  by_contra hnone
  have htext : Utf8.fromUtf8 file.content = none := Option.eq_none_iff_forall_not_mem.mpr
    fun text hmem => hnone ⟨text, hmem⟩
  have hbefore : (untrackedChange (newTree file) file.path).addedLines = none := by
    show countLinesInFile (newTree file) file.path = none
    unfold countLinesInFile
    rw [newTree_read]
    dsimp only
    rw [if_neg hzero, htext]
    rfl
  have hafter : (git.addedChange file).addedLines = some (UInt32.ofNat file.lines.length) := by
    show (if git.binary file then none else _) = _
    rw [← hbinary, if_neg (by simp [hzero])]
  have hne : file.content ≠ [] := by
    intro hnil
    rw [hnil] at htext
    exact absurd htext (by decide +kernel)
  have hpos : 0 < file.lines.length := List.length_pos_iff.mpr (fields_ne_nil hne)
  have hlt : file.lines.length < 2 ^ 32 := file.countable
  have hsum : (0 : UInt32) = saturatingAdd 0 (UInt32.ofNat file.lines.length) := by
    unfold sumAddedLines at hlines
    simpa [hbefore, hafter] using hlines
  have hnat := congrArg UInt32.toNat hsum
  have hz : (0 : UInt32).toNat = 0 := rfl
  rw [toNat_saturatingAdd, UInt32.toNat_ofNat', hz] at hnat
  omega

theorem StagingFree.countP_eq (hzero : 0 ∉ file.content)
    (htext : Utf8.fromUtf8 file.content = some text) (found : String) :
    (splitLines text).countP (· == found) =
      ((plainLines text).filter fun line => !startsWith line "++").countP (· == found) := by
  let config : ScopeMeasurementConfig := ⟨[(extension? file.path).getD ""], ["p"]⟩
  let regex : RegexEngine := fun _ => some (· == found)
  have hsource : hasSourceExtension file.path config.sourceExtensions = true := by
    show List.contains [_] _ = true
    simp
  have hself : ([file].find? fun other => other.path = file.path) = some file :=
    List.find?_cons_of_pos (by simp)
  obtain ⟨-, hbinary, -⟩ := h.one h.ordinary (countPublicApis_nil (fun _ => none) _ [] _ _)
    (countPublicApis_nil (fun _ => none) _ [] _ _)
  rw [decide_eq_false hzero] at hbinary
  have hscanned : scannedLines config (newTree file) "base"
      (untrackedChange (newTree file) file.path) = .ok (splitLines text) := by
    have hplain : (untrackedChange (newTree file) file.path).isBinary = false := by
      show isFileBinary _ _ = false
      rw [isFileBinary_of_read (newTree_read file), decide_eq_false hzero]
    unfold scannedLines
    rw [if_neg (by simp [hplain])]
    show (if hasSourceExtension file.path config.sourceExtensions = true
      then untrackedLines (newTree file) file.path else _) = _
    rw [if_pos hsource, untrackedLines_of_text (newTree_read file) htext]
  have hstaged : scannedLines config ((newTree file).staged git [file]) "base"
      (git.addedChange file) =
        .ok ((plainLines text).filter fun line => !startsWith line "++") := by
    have hplain : (git.addedChange file).isBinary = false := hbinary.symm
    unfold scannedLines
    rw [if_neg (by simp [hplain])]
    show (if hasSourceExtension file.path config.sourceExtensions = true
      then collectAddedDiffLines _ "base" file.path else _) = _
    rw [if_pos hsource, collectAddedDiffLines_staged hself htext]
  have hcount : ∀ {w : Worktree} {change : FileChange} {lines : List String},
      scannedLines config w "base" change = .ok lines →
        countPublicApis regex [change] config w "base" =
          .ok (countMatches [(· == found)] lines 0) := by
    intro w change lines hlines
    show ((do
      let lines ← [change].mapM (scannedLines config w "base")
      Except.ok (lines.foldl (fun count lines => countMatches [(· == found)] lines count) 0)) :
        Except MeasurementError UInt32) = _
    rw [List.mapM_cons, hlines]
    rfl
  obtain ⟨-, -, hapis⟩ := h.one h.ordinary (hcount hscanned) (hcount hstaged)
  have hnat := congrArg UInt32.toNat hapis
  have hz : (0 : UInt32).toNat = 0 := rfl
  have hany : (fun line : String => [(· == found)].any fun p => p line) = (· == found) := by
    funext line
    simp
  rw [toNat_countMatches, toNat_countMatches, hz, hany] at hnat
  have hlength : (plainLines text).length < 2 ^ 32 := by
    rw [length_plainLines htext]
    exact file.countable
  have hbefore := List.countP_le_length (p := (· == found)) (l := splitLines text)
  have hafter := List.countP_le_length (p := (· == found))
    (l := (plainLines text).filter fun line => !startsWith line "++")
  have hfewer := List.length_filter_le (fun line => !startsWith line "++") (plainLines text)
  rw [length_splitLines] at hbefore
  omega

/-- **A file that counts the same untracked and added is measured alike.** -/
theorem StagingFree.measuredAlike : MeasuredAlike git file where
  ordinary := h.ordinary
  binary := by
    obtain ⟨-, hbinary, -⟩ := h.one h.ordinary (countPublicApis_nil (fun _ => none) _ [] _ _)
      (countPublicApis_nil (fun _ => none) _ [] _ _)
    exact hbinary.symm
  text hzero := by
    obtain ⟨text, htext⟩ := h.isText hzero
    have hcount := h.countP_eq hzero htext
    have hplus : ∀ line ∈ splitLines text, startsWith line "++" = false := by
      intro line hline
      by_contra hstarts
      -- The line is found in the text, and nothing like it is taken from the diff.
      have hfound : 0 < (splitLines text).countP (· == line) :=
        List.countP_pos_iff.mpr ⟨line, hline, beq_self_eq_true line⟩
      rw [hcount line, List.countP_pos_iff] at hfound
      obtain ⟨other, hother, heq⟩ := hfound
      obtain rfl := beq_iff_eq.mp heq
      have hkept := (List.mem_filter.mp hother).2
      rw [Bool.not_eq_false] at hstarts
      rw [hstarts] at hkept
      cases hkept
    refine ⟨text, htext, hplus, fun hreturn => ?_⟩
    rcases splitOn_last '\n' text.toList with ⟨lines, -, hend⟩ |
      ⟨lines, last, c, hlines, hc, -⟩
    · exact absurd (hend _ hreturn) (by decide)
    · -- The last line loses its carriage return in the diff.
      obtain rfl : c = '\r' := Option.some.inj (hc.symm.trans hreturn)
      have hopen : last ++ ['\r'] ≠ [] := by simp
      have hlast : withoutReturn (last ++ ['\r']) = last := by
        unfold withoutReturn
        rw [if_pos List.getLast?_concat, List.dropLast_concat]
      have hsplit := splitLines_of_open hlines hopen
      have hplain : plainLines text =
          (lines.map fun line => String.ofList (withoutReturn line)) ++ [String.ofList last] := by
        unfold plainLines
        rw [fields_of_splitOn hlines, if_neg hopen, List.map_append, List.map_singleton,
          hlast]
      have hall : (plainLines text).filter (fun line => !startsWith line "++") =
          plainLines text := by
        refine List.filter_eq_self.mpr fun line hline => ?_
        rw [hplain] at hline
        rw [hsplit] at hplus
        rcases List.mem_append.mp hline with hline | hline
        · rw [hplus line (List.mem_append_left _ hline)]
          rfl
        · rw [List.mem_singleton.mp hline]
          have hopened := hplus _ (List.mem_append_right _ (List.mem_singleton_self _))
          rw [startsWith_ofList] at hopened ⊢
          by_contra hstarts
          have hpre : "++".toList.isPrefixOf last = true := by simpa using hstarts
          have hmore : "++".toList.isPrefixOf (last ++ ['\r']) = true :=
            List.isPrefixOf_iff_prefix.mpr
              ((List.isPrefixOf_iff_prefix.mp hpre).trans (List.prefix_append _ _))
          rw [hmore] at hopened
          cases hopened
      have hdiffers : String.ofList last ≠ String.ofList (last ++ ['\r']) := by
        intro heq
        have hlength := congrArg List.length (String.ofList_injective heq)
        simp at hlength
      have hfound : [String.ofList (last ++ ['\r'])].countP
          (· == String.ofList (last ++ ['\r'])) = 1 := by simp
      have hmissed : [String.ofList last].countP (· == String.ofList (last ++ ['\r'])) = 0 := by
        refine List.countP_eq_zero.mpr fun line hline => ?_
        rw [List.mem_singleton.mp hline]
        exact fun heq => hdiffers (beq_iff_eq.mp heq)
      have hone := hcount (String.ofList (last ++ ['\r']))
      rw [hall, hsplit, hplain, List.countP_append, List.countP_append, hfound, hmissed] at hone
      omega

end

end

/-- **New files count the same untracked and added, whatever part of them is looked at, and none of
their lines is dropped, if and only if each of them is measured alike.** -/
theorem stagingFree_iff (git : GitView) (files : List NewFile) :
    (∀ part, part ⊆ files → StagingFree git part) ∧ NoneDropped git files ↔
      ∀ file ∈ files, MeasuredAlike git file := by
  constructor
  · rintro ⟨hfree, -⟩ file hfile
    exact (hfree [file] (by simpa using hfile)).measuredAlike
  · intro h
    exact ⟨fun part hpart => stagingFree_of_alike fun file hfile => h file (hpart hfile),
      noneDropped_of_alike h⟩

/-- Git without attributes, for small files: binary is what has a NUL. -/
def plainView : GitView where
  binary file := decide (0 ∈ file.content)
  header _ := ["@@ -0,0 +1 @@".toList]
  skipped := by
    intro path line hline
    rw [List.mem_singleton.mp hline]
    decide +kernel

def latinFile : NewFile where
  path := "a"
  content := [233, 10]
  countable := by decide +kernel

def plusFile : NewFile where
  path := "a"
  content := [43, 43, 120, 10]
  countable := by decide +kernel

/-- A line that is no UTF-8 counts only once its file is added, and a line that begins with two
plus signs is looked through only until then. -/
theorem staging_matters :
    (untrackedChange (newTree latinFile) "a").addedLines = none ∧
      (plainView.addedChange latinFile).addedLines = some 1 ∧
      ¬ StagingFree plainView [latinFile] ∧ ¬ NoneDropped plainView [latinFile] ∧
      untrackedLines (newTree plusFile) "a" = .ok ["++x"] ∧
      collectAddedDiffLines ((newTree plusFile).staged plainView [plusFile]) "base" "a" = .ok [] ∧
      ¬ StagingFree plainView [plusFile] ∧ ¬ NoneDropped plainView [plusFile] := by
  have hnone : (untrackedChange (newTree latinFile) "a").addedLines = none := by decide +kernel
  have hzero : 0 ∉ latinFile.content := by decide
  have hplus : 0 ∉ plusFile.content := by decide
  have hlines : untrackedLines (newTree plusFile) "a" = .ok ["++x"] := by decide +kernel
  have hdiff : collectAddedDiffLines ((newTree plusFile).staged plainView [plusFile]) "base" "a" =
      .ok [] := by decide +kernel
  refine ⟨hnone, by decide +kernel, fun h => ?_, fun h => ?_, hlines, hdiff, fun h => ?_,
    fun h => ?_⟩
  · obtain ⟨text, htext⟩ := h.isText hzero
    exact absurd htext (by rw [show Utf8.fromUtf8 latinFile.content = none by decide +kernel]; simp)
  · exact (h latinFile (List.mem_singleton_self _) hzero _ (newTree_read _)).1 hnone
  · obtain ⟨text, htext, hstarts, -⟩ := h.measuredAlike.text hplus
    have hline : splitLines text = ["++x"] :=
      Except.ok.inj ((untrackedLines_of_text (newTree_read plusFile) htext).symm.trans hlines)
    exact absurd (hstarts "++x" (by simp [hline])) (by decide +kernel)
  · have hlength := ((h plusFile (List.mem_singleton_self _) hplus _ (newTree_read _)).2 "base" _ _
      hlines hdiff).2
    exact absurd hlength (by decide +kernel)

end Luther
