/-
What an approval is bound to.

Measurements of one digest are one measurement, with one digest of the contents.  That digest is
computed over a text in which the contents stand between headers whose places nothing marks.  It
tells the contents exactly where no header can be found in a second place between two contents;
and a file that is absent is taken for one that reads `<deleted>`.
-/
import Luther.Lib.Boundaries
import Luther.Lib.JsonText
import Luther.Scope.Measurement
import Mathlib.Data.List.Destutter
import Mathlib.Data.String.Basic

namespace Luther

open Sql

/-! ### The digest of a measurement -/

theorem ofU32_inj {m n : UInt32} (h : Json.ofU32 m = Json.ofU32 n) : m = n :=
  UInt32.toNat_inj.mp (Int.ofNat_inj.mp (Json.num.inj h))

theorem optionalU32_inj {m n : Option UInt32} (h : optionalU32 m = optionalU32 n) : m = n := by
  cases m with
  | none =>
    cases n with
    | none => rfl
    | some n => cases h
  | some m =>
    cases n with
    | none => cases h
    | some n => exact congrArg some (ofU32_inj h)

theorem ChangeStatus.debug_inj {a b : ChangeStatus} (h : a.debug = b.debug) : a = b := by
  cases a <;> cases b <;> first | rfl | exact absurd h (by decide)

theorem FileChange.toJson_injective : Function.Injective FileChange.toJson := by
  intro a b h
  unfold FileChange.toJson at h
  simp only [Json.obj.injEq, List.cons.injEq, Prod.mk.injEq, Json.str.injEq, Json.bool.injEq,
    true_and, and_true] at h
  obtain ⟨hpath, hstatus, hadded, hdeleted, hbinary⟩ := h
  cases a
  cases b
  congr 1
  · exact ChangeStatus.debug_inj hstatus
  · exact optionalU32_inj hadded
  · exact optionalU32_inj hdeleted

theorem PatchMeasurement.toJson_injective : Function.Injective PatchMeasurement.toJson := by
  intro a b h
  have hstr : Function.Injective Json.str := fun _ _ hs => Json.str.inj hs
  unfold PatchMeasurement.toJson at h
  simp only [Json.obj.injEq, List.cons.injEq, Prod.mk.injEq, Json.str.injEq, Json.arr.injEq,
    true_and, and_true] at h
  obtain ⟨hbase, hhead, hdivergence, hfiles, hadded, hbinary, hmodules, hdependencies, hapis,
    hcontent, hpaths, hsubsystems, hdetails⟩ := h
  cases a
  cases b
  congr 1
  · exact ofU32_inj hdivergence
  · exact ofU32_inj hfiles
  · exact ofU32_inj hadded
  · exact ofU32_inj hbinary
  · exact ofU32_inj hmodules
  · exact ofU32_inj hdependencies
  · exact ofU32_inj hapis
  · exact List.map_injective_iff.mpr hstr hpaths
  · exact List.map_injective_iff.mpr hstr hsubsystems
  · exact List.map_injective_iff.mpr FileChange.toJson_injective hdetails

/-- **Measurements of one digest are one measurement.** -/
theorem measurementDigest_inj {sha : Sha256Hex} (hsha : Function.Injective sha)
    {a b : PatchMeasurement} (h : measurementDigest sha a = measurementDigest sha b) : a = b :=
  PatchMeasurement.toJson_injective (Json.render_injective (asBytes_inj (hsha h)))

/-! ### The digest of the contents -/

/-- What the digest of the contents takes of a file, once it is known to take something. -/
def measuredText (w : Worktree) (path : String) : List UInt8 :=
  (measuredBytes w path).toOption.getD []

/-- A file can be measured: it is read, or it is not there. -/
def Measurable (w : Worktree) (path : String) : Prop :=
  ∀ message, w.read path ≠ .error (.other message)

variable {path : String}

theorem measuredBytes_of_measurable {w : Worktree} (h : Measurable w path) :
    measuredBytes w path = .ok (measuredText w path) := by
  unfold measuredText measuredBytes
  cases hread : w.read path with
  | ok bytes => rfl
  | error e =>
    cases e with
    | notFound => rfl
    | other message => exact absurd hread (h message)

theorem measurable_of_measuredBytes {w : Worktree} {bytes : List UInt8}
    (h : measuredBytes w path = .ok bytes) : Measurable w path := by
  intro message hread
  unfold measuredBytes at h
  rw [hread] at h
  cases h

variable {w w' : Worktree}

theorem measuredText_congr (h : w.read path = w'.read path) :
    measuredText w path = measuredText w' path := by
  unfold measuredText measuredBytes
  rw [h]
  cases w'.read path with
  | ok bytes => rfl
  | error e => cases e <;> rfl

def measuredPiece (w : Worktree) (change : FileChange) : List UInt8 :=
  changeHeader change ++ measuredText w change.path ++ [0]

theorem computeContentDigest_ok {sha : Sha256Hex} {changes : List FileChange} {digest : String} :
    computeContentDigest sha w changes = .ok digest ↔
      (∀ change ∈ changes, Measurable w change.path) ∧
        digest = sha (changes.flatMap (measuredPiece w)) := by
  unfold computeContentDigest
  have hall : (∀ change ∈ changes, Measurable w change.path) →
      changes.mapM (measuredChange w) = .ok (changes.map (measuredPiece w)) := by
    intro hmeasurable
    refine mapM_eq_ok_map fun change hchange => ?_
    unfold measuredChange
    rw [measuredBytes_of_measurable (hmeasurable change hchange)]
    rfl
  constructor
  · intro h
    obtain ⟨chunks, hchunks, h⟩ := bind_ok.mp h
    have hmeasurable : ∀ change ∈ changes, Measurable w change.path := by
      intro change hchange
      obtain ⟨chunk, -, hchunk⟩ := ok_of_mapM hchunks change hchange
      obtain ⟨bytes, hbytes, -⟩ := bind_ok.mp hchunk
      exact measurable_of_measuredBytes hbytes
    rw [hall hmeasurable] at hchunks
    refine ⟨hmeasurable, ?_⟩
    rw [← Except.ok.inj h, ← Except.ok.inj hchunks]
    rfl
  · rintro ⟨hmeasurable, rfl⟩
    rw [hall hmeasurable]
    rfl

/-- The contents behind the first, each behind what stands before it. -/
def contentPieces (w : Worktree) (changes : List FileChange) : List (List UInt8 × List UInt8) :=
  changes.map fun change => (0 :: changeHeader change, measuredText w change.path)

/-- No header stands in a second place between two contents. -/
def HeadersUnambiguous (w : Worktree) : List FileChange → Prop
  | [] => True
  | change :: rest => Boundaries.Unambiguous (measuredText w change.path) (contentPieces w rest)

theorem flatMap_measuredPiece (w : Worktree) (change : FileChange) (rest : List FileChange) :
    (change :: rest).flatMap (measuredPiece w) =
      changeHeader change ++
        Boundaries.joined (measuredText w change.path) (contentPieces w rest) ++ [0] := by
  induction rest generalizing change with
  | nil => simp [contentPieces, Boundaries.joined, measuredPiece]
  | cons next rest ih =>
    rw [List.flatMap_cons, ih next]
    simp [contentPieces, Boundaries.joined, measuredPiece]

theorem map_fst_contentPieces (w w' : Worktree) (changes : List FileChange) :
    (contentPieces w changes).map Prod.fst = (contentPieces w' changes).map Prod.fst := by
  unfold contentPieces
  rw [List.map_map, List.map_map]
  rfl

/-- **Where no header is ambiguous the text of the digest tells what stands in every file.** -/
theorem HeadersUnambiguous.measuredText_eq {changes : List FileChange}
    (h : HeadersUnambiguous w changes)
    (htext : changes.flatMap (measuredPiece w) = changes.flatMap (measuredPiece w')) :
    ∀ change ∈ changes, measuredText w change.path = measuredText w' change.path := by
  cases changes with
  | nil => simp
  | cons first rest =>
    rw [flatMap_measuredPiece, flatMap_measuredPiece] at htext
    have hjoined := List.append_cancel_left (List.append_cancel_right htext)
    obtain ⟨hfirst, hrest⟩ := h.joined_inj (map_fst_contentPieces w w' rest) hjoined
    intro change hchange
    rcases List.mem_cons.mp hchange with rfl | hchange
    · exact hfirst
    · exact (Prod.mk.inj (List.map_inj_left.mp hrest change hchange)).2

/-- What is read of a file that is absent in one worktree, and in the other as if it were. -/
def Confused (a b : Except ReadError (List UInt8)) : Prop :=
  a = .error .notFound ∧ b = .ok (asBytes "<deleted>") ∨
    a = .ok (asBytes "<deleted>") ∧ b = .error .notFound

theorem read_eq_or_confused (h : Measurable w path) (h' : Measurable w' path)
    (htext : measuredText w path = measuredText w' path) :
    w.read path = w'.read path ∨ Confused (w.read path) (w'.read path) := by
  unfold measuredText measuredBytes at htext
  cases hread : w.read path with
  | ok bytes =>
    rw [hread] at htext
    cases hread' : w'.read path with
    | ok bytes' =>
      rw [hread'] at htext
      exact Or.inl (congrArg Except.ok htext)
    | error e =>
      cases e with
      | other message => exact absurd hread' (h' message)
      | notFound =>
        rw [hread'] at htext
        exact Or.inr (Or.inr ⟨congrArg Except.ok htext, rfl⟩)
  | error e =>
    cases e with
    | other message => exact absurd hread (h message)
    | notFound =>
      rw [hread] at htext
      cases hread' : w'.read path with
      | ok bytes' =>
        rw [hread'] at htext
        exact Or.inr (Or.inl ⟨rfl, congrArg Except.ok htext.symm⟩)
      | error e =>
        cases e with
        | other message => exact absurd hread' (h' message)
        | notFound => exact Or.inl rfl

/-! ### Changes and measurements -/

theorem nodup_allChanges (w : Worktree) (trackedChanges : List FileChange)
    (untrackedFiles : List String) :
    ((allChanges w trackedChanges untrackedFiles).map FileChange.path).Nodup := by
  unfold allChanges
  have hsorted : (sortChanges (trackedChanges ++ untrackedFiles.map (untrackedChange w))).Pairwise
      fun a b => a.path ≤ b.path := by
    have : Std.Total fun a b : FileChange => a.path ≤ b.path := ⟨fun a b => le_total _ _⟩
    have : IsTrans FileChange fun a b => a.path ≤ b.path := ⟨fun _ _ _ hab hbc => hab.trans hbc⟩
    exact List.pairwise_insertionSort _ _
  generalize sortChanges (trackedChanges ++ untrackedFiles.map (untrackedChange w)) = sorted
    at hsorted ⊢
  have hle := (hsorted.sublist (List.destutter_sublist (fun a b => a.path ≠ b.path) sorted))
  have hne := List.isChain_destutter (fun a b : FileChange => a.path ≠ b.path) sorted
  have hlt : (sorted.destutter fun a b => a.path ≠ b.path).IsChain fun a b => a.path < b.path := by
    refine List.isChain_iff_getElem.mpr fun i hi => ?_
    exact lt_of_le_of_ne (List.isChain_iff_getElem.mp hle.isChain i hi)
      (List.isChain_iff_getElem.mp hne i hi)
  have : IsTrans FileChange fun a b => a.path < b.path := ⟨fun _ _ _ hab hbc => hab.trans hbc⟩
  rw [List.nodup_iff_pairwise_ne, List.pairwise_map]
  exact hlt.pairwise.imp fun h => ne_of_lt h

def measurementOf (data : GitPatchData) (charter : CanonicalTaskCharter)
    (config : ScopeMeasurementConfig) (dependencyDiffs : List (String × List String))
    (changes : List FileChange) (publicApisAdded : UInt32) (contentDigest : String) :
    PatchMeasurement :=
  let changedPaths := ((changes.map FileChange.path).insertionSort (· ≤ ·)).destutter (· ≠ ·)
  { mergeBase := charter.mergeBase
    headSha := data.headSha
    divergence := data.divergence
    filesChanged := u32OrMax changes.length
    addedLines := sumAddedLines changes
    binaryFiles := u32OrMax (changes.filter FileChange.isBinary).length
    newModules := countNewModules changes config
    dependenciesAdded := countDependenciesAdded dependencyDiffs
    publicApisAdded := publicApisAdded
    contentDigest := contentDigest
    changedPaths := changedPaths
    changedSubsystems := computeChangedSubsystems changedPaths charter
    fileDetails := changes }

section

variable {sha : Sha256Hex} {regex : RegexEngine} {data data' : GitPatchData}
  {charter : CanonicalTaskCharter} {run : String} {required : Bool}
  {config : ScopeMeasurementConfig} {w w' : Worktree} {deps : List (String × List String)}
  {m m' : PatchMeasurement}

theorem computeMeasurement_ok :
    computeMeasurement sha regex data charter run required config w deps = .ok m ↔
      charter.runId = run ∧ ∃ untracked apis,
        patchUntrackedFiles data w run required = .ok untracked ∧
        countPublicApis regex (allChanges w data.trackedChanges untracked) config w
          charter.mergeBase = .ok apis ∧
        (∀ change ∈ allChanges w data.trackedChanges untracked, Measurable w change.path) ∧
        m = measurementOf data charter config deps (allChanges w data.trackedChanges untracked)
          apis (sha ((allChanges w data.trackedChanges untracked).flatMap (measuredPiece w))) := by
  unfold computeMeasurement
  by_cases hrun : charter.runId ≠ run
  · rw [if_pos hrun]
    constructor
    · intro h
      cases h
    · exact fun h => absurd h.1 hrun
  · rw [if_neg hrun]
    constructor
    · intro h
      obtain ⟨untracked, huntracked, h⟩ := bind_ok.mp h
      obtain ⟨apis, hapis, h⟩ := bind_ok.mp h
      obtain ⟨digest, hdigest, h⟩ := bind_ok.mp h
      obtain ⟨hmeasurable, rfl⟩ := computeContentDigest_ok.mp hdigest
      exact ⟨not_not.mp hrun, untracked, apis, huntracked, hapis, hmeasurable,
        (Except.ok.inj h).symm⟩
    · rintro ⟨-, untracked, apis, huntracked, hapis, hmeasurable, rfl⟩
      rw [huntracked]
      refine bind_ok.mpr ⟨untracked, rfl, bind_ok.mpr ⟨apis, hapis, bind_ok.mpr ⟨_, ?_, rfl⟩⟩⟩
      exact computeContentDigest_ok.mpr ⟨hmeasurable, rfl⟩

/-- The changes of a measurement: their paths differ, each can be measured, and the digest of the
contents is that of their text. -/
theorem fileDetails_of_computeMeasurement
    (h : computeMeasurement sha regex data charter run required config w deps = .ok m) :
    (m.fileDetails.map FileChange.path).Nodup ∧
      (∀ change ∈ m.fileDetails, Measurable w change.path) ∧
      m.contentDigest = sha (m.fileDetails.flatMap (measuredPiece w)) := by
  obtain ⟨-, untracked, apis, -, -, hmeasurable, rfl⟩ := computeMeasurement_ok.mp h
  exact ⟨nodup_allChanges w data.trackedChanges untracked, hmeasurable, rfl⟩

/-- **Equal digests: the same changes, and where no header is ambiguous the same contents**, but
for what is absent in one of the worktrees and reads `<deleted>` in the other. -/
theorem contents_of_digest_eq (hsha : Function.Injective sha)
    (h : computeMeasurement sha regex data charter run required config w deps = .ok m)
    (h' : computeMeasurement sha regex data' charter run required config w' deps = .ok m')
    (hdigest : measurementDigest sha m = measurementDigest sha m') :
    m.fileDetails = m'.fileDetails ∧ (HeadersUnambiguous w m.fileDetails →
      ∀ change ∈ m.fileDetails, w.read change.path = w'.read change.path ∨
        Confused (w.read change.path) (w'.read change.path)) := by
  obtain rfl := measurementDigest_inj hsha hdigest
  obtain ⟨-, hmeasurable, hcontent⟩ := fileDetails_of_computeMeasurement h
  obtain ⟨-, hmeasurable', hcontent'⟩ := fileDetails_of_computeMeasurement h'
  refine ⟨rfl, fun hheaders change hchange => ?_⟩
  have htext := hsha (hcontent.symm.trans hcontent')
  exact read_eq_or_confused (hmeasurable change hchange) (hmeasurable' change hchange)
    (hheaders.measuredText_eq htext change hchange)

/-! ### Another worktree of the same measurement -/

/-- Git tracks everything that it lists. -/
def GitPatchData.AllTracked (data : GitPatchData) : Prop :=
  data.untrackedFiles = [] ∧ ∀ change ∈ data.trackedChanges, change.status ≠ .untracked

def Worktree.reading (w : Worktree) (read : String → Except ReadError (List UInt8)) : Worktree :=
  { w with read := read }

theorem computeMeasurement_reading (hdata : data.AllTracked)
    (h : computeMeasurement sha regex data charter run required config w deps = .ok m)
    {read : String → Except ReadError (List UInt8)}
    (hmeasurable : ∀ change ∈ m.fileDetails, Measurable (w.reading read) change.path)
    (htext : m.fileDetails.flatMap (measuredPiece (w.reading read)) =
      m.fileDetails.flatMap (measuredPiece w)) :
    computeMeasurement sha regex data charter run required config (w.reading read) deps =
      .ok m := by
  obtain ⟨hrun, untracked, apis, huntracked, hapis, -, rfl⟩ := computeMeasurement_ok.mp h
  have hnone : untracked = [] := by
    have hmem : untracked ⊆ data.untrackedFiles := by
      unfold patchUntrackedFiles at huntracked
      split at huntracked
      · rw [← Except.ok.inj huntracked]
        exact fun _ hpath => List.mem_of_mem_filter hpath
      · split at huntracked
        · cases huntracked
        · split at huntracked
          · cases huntracked
          · rw [Except.ok.inj huntracked]
            exact fun _ hpath => hpath
    rw [hdata.1] at hmem
    exact List.subset_nil.mp hmem
  subst hnone
  have htracked : ∀ change ∈ allChanges w data.trackedChanges [], change.status ≠ .untracked := by
    intro change hchange
    have hsorted := (List.destutter_sublist _ _).mem hchange
    have hmem := (List.perm_insertionSort _ _).mem_iff.mp hsorted
    rw [List.map_nil, List.append_nil] at hmem
    exact hdata.2 change hmem
  have hscanned : ∀ change ∈ allChanges w data.trackedChanges [],
      scannedLines config w charter.mergeBase change =
        scannedLines config (w.reading read) charter.mergeBase change := by
    intro change hchange
    unfold scannedLines
    cases hstatus : change.status with
    | untracked => exact absurd hstatus (htracked change hchange)
    | added => rfl
    | modified => rfl
    | deleted => rfl
  refine computeMeasurement_ok.mpr ⟨hrun, [], apis, huntracked, ?_, hmeasurable, ?_⟩
  · show countPublicApis regex (allChanges w data.trackedChanges []) config (w.reading read) _ = _
    rw [← hapis]
    unfold countPublicApis
    rw [mapM_congr_left hscanned]
  · exact congrArg (fun text => measurementOf data charter config deps _ apis (sha text))
      htext.symm

/-- Worktrees with files of one digest have the same contents. -/
def ContentsBound (sha : Sha256Hex) (regex : RegexEngine) (data : GitPatchData)
    (charter : CanonicalTaskCharter) (run : String) (required : Bool)
    (config : ScopeMeasurementConfig) (deps : List (String × List String)) (w : Worktree)
    (m : PatchMeasurement) : Prop :=
  ∀ w' m', computeMeasurement sha regex data charter run required config w' deps = .ok m' →
    measurementDigest sha m = measurementDigest sha m' →
      ∀ change ∈ m.fileDetails, w.read change.path = w'.read change.path

def ReadAsItStands (w : Worktree) (path : String) : Prop :=
  w.read path ≠ .error .notFound ∧ w.read path ≠ .ok (asBytes "<deleted>")

theorem exists_other_reading (hdata : data.AllTracked)
    (h : computeMeasurement sha regex data charter run required config w deps = .ok m)
    {other : Except ReadError (List UInt8)}
    (hother : ∀ message, other ≠ .error (.other message))
    (hsame : measuredText (w.reading fun _ => other) path = measuredText w path) :
    computeMeasurement sha regex data charter run required config
      (w.reading fun p => if p = path then other else w.read p) deps = .ok m := by
  obtain ⟨-, hmeasurable, -⟩ := fileDetails_of_computeMeasurement h
  refine computeMeasurement_reading hdata h ?_ ?_
  · intro change hchange message
    show (if change.path = path then other else w.read change.path) ≠ _
    by_cases hpath : change.path = path
    · rw [if_pos hpath]
      exact hother message
    · rw [if_neg hpath]
      exact hmeasurable change hchange message
  · refine List.flatMap_congr fun change _ => ?_
    unfold measuredPiece
    congr 2
    by_cases hpath : change.path = path
    · rw [← hpath] at hsame
      rw [← hsame]
      unfold measuredText measuredBytes Worktree.reading
      dsimp only
      rw [if_pos hpath]
    · unfold measuredText measuredBytes Worktree.reading
      dsimp only
      rw [if_neg hpath]

theorem ContentsBound.read_eq (hdata : data.AllTracked)
    (h : computeMeasurement sha regex data charter run required config w deps = .ok m)
    (hbound : ContentsBound sha regex data charter run required config deps w m)
    {change : FileChange} (hchange : change ∈ m.fileDetails)
    (other : Except ReadError (List UInt8))
    (hother : ∀ message, other ≠ .error (.other message))
    (hsame : measuredText (w.reading fun _ => other) change.path = measuredText w change.path) :
    w.read change.path = other := by
  have hread := hbound _ m (exists_other_reading hdata h hother hsame) rfl change hchange
  rw [hread]
  exact if_pos rfl

def readOf (changes : List FileChange) (texts : List (List UInt8)) (path : String) :
    Except ReadError (List UInt8) :=
  .ok ((((changes.map FileChange.path).zip texts).lookup path).getD [])

theorem measuredText_readOf {changes : List FileChange} {texts : List (List UInt8)}
    (hpaths : (changes.map FileChange.path).Nodup) (hlength : changes.length = texts.length) :
    (changes.map fun change => measuredText (w.reading (readOf changes texts)) change.path) =
      texts := by
  have hlookup : ∀ pair ∈ changes.zip texts,
      measuredText (w.reading (readOf changes texts)) pair.1.path = pair.2 := by
    intro pair hpair
    have hkeys : (((changes.map FileChange.path).zip texts).map Prod.fst).Nodup := by
      rw [List.map_fst_zip (by simp [hlength])]
      exact hpaths
    have hmem : (pair.1.path, pair.2) ∈ (changes.map FileChange.path).zip texts := by
      rw [List.zip_map_left]
      exact List.mem_map.mpr ⟨pair, hpair, rfl⟩
    unfold measuredText measuredBytes Worktree.reading readOf
    dsimp only
    rw [Assoc.lookup_of_mem hkeys hmem]
    rfl
  generalize readOf changes texts = read at hlookup ⊢
  calc changes.map (fun change => measuredText (w.reading read) change.path)
      = (changes.zip texts).map (fun pair => measuredText (w.reading read) pair.1.path) := by
        conv_lhs => rw [← @List.map_fst_zip _ _ changes texts (Nat.le_of_eq hlength), List.map_map]
        rfl
    _ = (changes.zip texts).map Prod.snd := List.map_congr_left hlookup
    _ = texts := List.map_snd_zip (Nat.le_of_eq hlength.symm)

/-- **Contents are bound only where no header is ambiguous**: another way to part the text is
another worktree with the same digest. -/
theorem ContentsBound.headersUnambiguous (hdata : data.AllTracked)
    (h : computeMeasurement sha regex data charter run required config w deps = .ok m)
    (hbound : ContentsBound sha regex data charter run required config deps w m) :
    HeadersUnambiguous w m.fileDetails := by
  obtain ⟨hpaths, -, -⟩ := fileDetails_of_computeMeasurement h
  cases hchanges : m.fileDetails with
  | nil => trivial
  | cons first rest =>
    refine Boundaries.unambiguous_iff.mpr fun piece pieces hfst htext => ?_
    rw [hchanges] at hpaths
    have hlength : (first :: rest).length = (piece :: pieces.map Prod.snd).length := by
      have hsame := congrArg List.length hfst
      unfold contentPieces at hsame
      simp only [List.length_map] at hsame
      rw [List.length_cons, List.length_cons, List.length_map, hsame]
    -- The worktree whose files are the other parts of the text.
    let read := readOf (first :: rest) (piece :: pieces.map Prod.snd)
    obtain ⟨hfirst, hrest⟩ := List.cons.inj (@measuredText_readOf w _ _ hpaths hlength)
    have hpieces : contentPieces (w.reading read) rest = pieces := by
      have hsnd : (contentPieces (w.reading read) rest).map Prod.snd = pieces.map Prod.snd := by
        unfold contentPieces
        rw [List.map_map, ← hrest]
        rfl
      have hheads := (map_fst_contentPieces (w.reading read) w rest).trans hfst
      rw [List.zip_of_prod hheads hsnd]
      exact (List.zip_of_prod rfl rfl).symm
    have hother : computeMeasurement sha regex data charter run required config
        (w.reading read) deps = .ok m := by
      refine computeMeasurement_reading hdata h (fun change _ message hread => ?_) ?_
      · cases hread
      · have hpiece : measuredText (w.reading read) first.path = piece := hfirst
        rw [hchanges, flatMap_measuredPiece, flatMap_measuredPiece, hpieces, htext, hpiece]
    have hread := hbound _ m hother rfl
    rw [hchanges] at hread
    constructor
    · exact (measuredText_congr (hread first List.mem_cons_self)).trans hfirst
    · rw [← hpieces]
      refine List.map_congr_left fun change hchange => ?_
      rw [measuredText_congr (hread change (List.mem_cons_of_mem _ hchange))]

/-- **An approval is bound to the contents where no header is ambiguous and every file is read as
it stands, and where Git tracks all of them nowhere else.** -/
theorem contentsBound_iff (hsha : Function.Injective sha)
    (h : computeMeasurement sha regex data charter run required config w deps = .ok m) :
    (∀ data' w' m',
      computeMeasurement sha regex data' charter run required config w' deps = .ok m' →
      measurementDigest sha m = measurementDigest sha m' →
        m.fileDetails = m'.fileDetails ∧ (HeadersUnambiguous w m.fileDetails →
          ∀ change ∈ m.fileDetails, w.read change.path = w'.read change.path ∨
            Confused (w.read change.path) (w'.read change.path))) ∧
      (data.AllTracked →
        (ContentsBound sha regex data charter run required config deps w m ↔
          HeadersUnambiguous w m.fileDetails ∧
            ∀ change ∈ m.fileDetails, ReadAsItStands w change.path)) := by
  refine ⟨fun data' w' m' h' => contents_of_digest_eq hsha h h', fun hdata => ?_⟩
  constructor
  · intro hbound
    refine ⟨hbound.headersUnambiguous hdata h, fun change hchange => ⟨?_, ?_⟩⟩
    · intro hread
      have hother := hbound.read_eq hdata h hchange (.ok (asBytes "<deleted>"))
        (fun _ hne => by cases hne) (by
          unfold measuredText measuredBytes
          rw [hread]
          rfl)
      rw [hread] at hother
      cases hother
    · intro hread
      have hother := hbound.read_eq hdata h hchange (.error .notFound)
        (fun _ hne => by cases hne) (by
          unfold measuredText measuredBytes
          rw [hread]
          rfl)
      rw [hread] at hother
      cases hother
  · rintro ⟨hheaders, hstands⟩ w' m' h' hdigest change hchange
    obtain ⟨-, hcontents⟩ := contents_of_digest_eq hsha h h' hdigest
    rcases hcontents hheaders change hchange with hsame | hconfused
    · exact hsame
    · rcases hconfused with ⟨habsent, -⟩ | ⟨hreads, -⟩
      · exact absurd habsent (hstands change hchange).1
      · exact absurd hreads (hstands change hchange).2

end

/-! ### Two worktrees of one digest -/

def openCharter : CanonicalTaskCharter where
  schemaVersion := 1
  charterId := "charter"
  issueNumber := 1
  runId := "run"
  mergeBase := "base"
  acceptanceCriteria := []
  nonGoals := []
  subsystems := []
  budget := ⟨9, 9, 9, 9, 9⟩
  reviewCaps := ⟨1, 2, 1, 3⟩
  mandatoryGates := []
  digest := ""

def binaryPatch : GitPatchData where
  headSha := "head"
  divergence := 0
  trackedChanges := [⟨"a", .modified, none, none, true⟩, ⟨"b", .modified, none, none, true⟩]
  untrackedFiles := []

def binaryTree (a b : List UInt8) : Worktree where
  workDir := "/work"
  read path := if path = "a" then .ok a else if path = "b" then .ok b else .error .notFound
  verifyWorkspaceOwnership _ := none
  gitDiff _ _ := .ok []

def binaryMeasurement (sha : Sha256Hex) (a b : List UInt8) :
    Except MeasurementError PatchMeasurement :=
  computeMeasurement sha (fun _ => none) binaryPatch openCharter "run" true ⟨["rs"], []⟩
    (binaryTree a b) []

/-- What stands before the contents of the second file. -/
def secondHeader : List UInt8 := 0 :: changeHeader ⟨"b", .modified, none, none, true⟩

/-- The theorem, for contents that are not ambiguous. -/
theorem contentsBound_plain :
    ∃ m, binaryMeasurement spelled [0] [0] = .ok m ∧
      (ContentsBound spelled (fun _ => none) binaryPatch openCharter "run" true ⟨["rs"], []⟩ []
          (binaryTree [0] [0]) m ↔
        HeadersUnambiguous (binaryTree [0] [0]) m.fileDetails ∧
          ∀ change ∈ m.fileDetails, ReadAsItStands (binaryTree [0] [0]) change.path) := by
  have hok : (binaryMeasurement spelled [0] [0]).toOption.isSome = true := by decide +kernel
  cases hm : binaryMeasurement spelled [0] [0] with
  | error e =>
    rw [hm] at hok
    cases hok
  | ok m => exact ⟨m, rfl, (contentsBound_iff spelled_injective hm).2 ⟨rfl, by decide⟩⟩

/-- What stands between two files is moved from one into the other: whatever computes the digest,
the measurement is the same. -/
theorem boundary_moved :
    (∀ sha, (binaryMeasurement sha ([0] ++ secondHeader) [0]).toOption.isSome = true ∧
      binaryMeasurement sha ([0] ++ secondHeader) [0] =
        binaryMeasurement sha [0] (secondHeader ++ [0])) ∧
      (binaryTree ([0] ++ secondHeader) [0]).read "a" ≠
        (binaryTree [0] (secondHeader ++ [0])).read "a" :=
  ⟨fun _ => ⟨rfl, rfl⟩, by decide +kernel⟩

end Luther
