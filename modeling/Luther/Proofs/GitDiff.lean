/-
What the two listings of a diff are read as.

Changes that Git lists are read back as they are, in the order of their paths.  Of other data the
reader drops the fields that are empty, so that it takes what stands behind one for what should
have stood there; that goes wrong exactly where there is an empty field.
-/
import Luther.Lib.Sql
import Luther.Scope.GitDiff

namespace Luther

open Sql

/-! ### Texts as bytes -/

theorem asBytes_eq_encode (text : String) : asBytes text = Utf8.encode text.toList :=
  Utf8.toUTF8_eq_encode text

theorem fromUtf8_asBytes (text : String) : Utf8.fromUtf8 (asBytes text) = some text :=
  Utf8.fromUtf8_eq_some.mpr (asBytes_eq_encode text)

theorem utf8Or_asBytes (what text : String) : utf8Or what (asBytes text) = .ok text := by
  unfold utf8Or
  rw [fromUtf8_asBytes]

variable {text : String} {ns num : List UInt8}

theorem utf8Or_ok {what : String} {bytes : List UInt8} (h : utf8Or what bytes = .ok text) :
    bytes = asBytes text := by
  unfold utf8Or at h
  split at h
  · rename_i found hfound
    rw [← Except.ok.inj h, asBytes_eq_encode]
    exact Utf8.fromUtf8_eq_some.mp hfound
  · cases h

theorem zero_notMem_asBytes (h : '\x00' ∉ text.toList) :
    (0 : UInt8) ∉ asBytes text := by
  rw [asBytes_eq_encode]
  exact fun hmem => h ((Utf8.mem_encode_ascii (c := '\x00') (by decide)).mp hmem)

theorem asBytes_ne_nil (h : text ≠ "") : asBytes text ≠ [] := fun hnil =>
  h (asBytes_inj hnil)

/-! ### Listings of Git -/

theorem splitZ_terminated {fields : List String}
    (h : ∀ field ∈ fields, field ≠ "" ∧ '\x00' ∉ field.toList) :
    splitZ (Fields.terminated 0 (fields.map asBytes)) = fields.map asBytes := by
  refine Fields.segments_terminated fun bytes hbytes => ?_
  obtain ⟨field, hfield, rfl⟩ := List.mem_map.mp hbytes
  exact ⟨zero_notMem_asBytes (h field hfield).2, asBytes_ne_nil (h field hfield).1⟩

section

variable (change : GitChange)

def GitChange.statusFields : List String :=
  [change.status.letter, change.path.text]

theorem parseNameStatusZ_nameStatusZ (changes : List GitChange) :
    parseNameStatusZ (nameStatusZ changes) =
      .ok (changes.map fun change => (change.status.letter, change.path.text)) := by
  have hsegments : splitZ (nameStatusZ changes) =
      (changes.flatMap GitChange.statusFields).map asBytes := by
    have hdata : nameStatusZ changes =
        Fields.terminated 0 ((changes.flatMap GitChange.statusFields).map asBytes) := by
      rw [List.map_flatMap]
      rfl
    rw [hdata]
    refine splitZ_terminated fun field hfield => ?_
    obtain ⟨change, -, hmem⟩ := List.mem_flatMap.mp hfield
    rcases List.mem_cons.mp hmem with rfl | hmem
    · cases change.status <;> decide
    · rw [List.mem_singleton.mp hmem]
      exact ⟨change.path.named, change.path.terminable⟩
  have heven : (splitZ (nameStatusZ changes)).length % 2 = 0 := by
    rw [hsegments, List.length_map]
    clear hsegments
    induction changes with
    | nil => rfl
    | cons change rest ih =>
      rw [List.flatMap_cons, List.length_append]
      show (2 + _) % 2 = 0
      omega
  have hchunks : chunksExactTwo (splitZ (nameStatusZ changes)) =
      changes.map fun change => (asBytes change.status.letter, asBytes change.path.text) := by
    rw [hsegments]
    clear hsegments heven
    induction changes with
    | nil => rfl
    | cons change rest ih =>
      rw [List.map_cons, ← ih]
      rfl
  unfold parseNameStatusZ
  dsimp only
  rw [if_neg (not_not.mpr heven), hchunks, List.mapM_map]
  refine mapM_eq_ok_map fun change _ => ?_
  show parseNameStatus (asBytes _, asBytes _) = _
  unfold parseNameStatus
  rw [utf8Or_asBytes, utf8Or_asBytes]
  rfl

theorem parseNumstatCount_countText (count : Option UInt32) :
    parseNumstatCount (GitChange.countText count) =
      .ok (count.elim .binary NumstatCount.lines) := by
  unfold parseNumstatCount GitChange.countText
  cases count with
  | none => rfl
  | some n =>
    have hdash : n.toNat.repr ≠ "-" := by
      intro hdash
      have hmem : '-' ∈ n.toNat.repr.toList := by
        rw [hdash]
        exact List.mem_singleton_self _
      exact absurd (isDigit_of_mem_repr hmem) (by decide)
    show (if n.toNat.repr = "-" then _ else _) = _
    rw [if_neg hdash, Option.map_some, Option.getD_some, parseU32_repr]
    rfl

theorem tab_notMem_countText (count : Option UInt32) :
    '\t' ∉ (GitChange.countText count).toList := by
  unfold GitChange.countText
  cases count with
  | none => decide
  | some n =>
    intro hmem
    exact absurd (isDigit_of_mem_repr hmem) (by decide)

theorem parseSingleNumstat_numstatLine :
    parseSingleNumstat change.numstatLine =
      .ok ⟨(change.counts.map Prod.fst).elim .binary .lines,
        (change.counts.map Prod.snd).elim .binary .lines, change.path.text⟩ := by
  have htab : "\t".toList = ['\t'] := rfl
  have hfirst : splitOnce '\t' change.numstatLine =
      some (GitChange.countText (change.counts.map Prod.fst),
        GitChange.countText (change.counts.map Prod.snd) ++ "\t" ++ change.path.text) := by
    refine splitOnce_eq_some.mpr ⟨tab_notMem_countText _, ?_⟩
    unfold GitChange.numstatLine
    simp [String.toList_append, htab]
  have hsecond : splitOnce '\t'
      (GitChange.countText (change.counts.map Prod.snd) ++ "\t" ++ change.path.text) =
        some (GitChange.countText (change.counts.map Prod.snd), change.path.text) := by
    refine splitOnce_eq_some.mpr ⟨tab_notMem_countText _, ?_⟩
    simp [String.toList_append, htab]
  unfold parseSingleNumstat
  rw [hfirst]
  dsimp only
  rw [hsecond]
  dsimp only
  rw [parseNumstatCount_countText, parseNumstatCount_countText]
  rfl

def GitChange.numstatEntry : NumstatEntry where
  added := (change.counts.map Prod.fst).elim .binary .lines
  deleted := (change.counts.map Prod.snd).elim .binary .lines
  path := change.path.text

theorem GitChange.counts_numstatEntry : change.numstatEntry.counts = change.counts := by
  unfold GitChange.numstatEntry
  cases change.counts <;> rfl

end

theorem parseNumstatZ_numstatZ (changes : List GitChange) :
    parseNumstatZ (numstatZ changes) = .ok (changes.map GitChange.numstatEntry) := by
  have hsegments : splitZ (numstatZ changes) =
      (changes.map GitChange.numstatLine).map asBytes := by
    have hdata : numstatZ changes =
        Fields.terminated 0 ((changes.map GitChange.numstatLine).map asBytes) := by
      rw [List.map_map]
      rfl
    rw [hdata]
    refine splitZ_terminated fun field hfield => ?_
    obtain ⟨change, -, rfl⟩ := List.mem_map.mp hfield
    have hcount : ∀ count, '\x00' ∉ (GitChange.countText count).toList := by
      intro count
      unfold GitChange.countText
      cases count with
      | none => decide
      | some n => exact fun hmem => absurd (isDigit_of_mem_repr hmem) (by decide)
    unfold GitChange.numstatLine
    constructor
    · intro hempty
      exact change.path.named (String.append_eq_empty_iff.mp hempty).2
    · simp only [String.toList_append, List.mem_append, not_or]
      exact ⟨⟨⟨⟨hcount _, by decide⟩, hcount _⟩, by decide⟩, change.path.terminable⟩
  unfold parseNumstatZ
  rw [hsegments, List.map_map, List.mapM_map]
  refine mapM_eq_ok_map fun change _ => ?_
  show parseNumstat (asBytes change.numstatLine) = _
  unfold parseNumstat
  rw [utf8Or_asBytes]
  exact parseSingleNumstat_numstatLine change

theorem fromLetter_letter (status : ListedStatus) :
    ChangeStatus.fromLetter status.letter = .ok status.changeStatus := by
  cases status <;> rfl

/-- **Changes that Git lists are read back**, in the order of their paths. -/
theorem parseTrackedChanges_listed (changes : List GitChange) :
    parseTrackedChanges (nameStatusZ changes) (numstatZ changes) =
      .ok (sortChanges (changes.map GitChange.fileChange)) := by
  have hmerge : ((changes.map fun change => (change.status.letter, change.path.text)).zip
      (changes.map GitChange.numstatEntry)).zipIdx.mapM
        (fun entry => mergeEntry entry.2 entry.1.1 entry.1.2) =
      .ok (changes.map GitChange.fileChange) := by
    rw [List.zip_map', List.zipIdx_map, List.mapM_map]
    have hall : ∀ entry ∈ changes.zipIdx,
        mergeEntry entry.2 (entry.1.status.letter, entry.1.path.text) entry.1.numstatEntry =
          .ok entry.1.fileChange := by
      intro entry _
      have hpath : ¬ (entry.1.numstatEntry.path ≠
          (entry.1.status.letter, entry.1.path.text).2) := not_not.mpr rfl
      unfold mergeEntry
      rw [if_neg hpath, entry.1.counts_numstatEntry, fromLetter_letter]
      rfl
    have hmapM := mapM_eq_ok_map hall
    have hfirst : (changes.zipIdx.map fun entry => entry.1.fileChange) =
        changes.map GitChange.fileChange := by
      rw [show (fun entry : GitChange × Nat => entry.1.fileChange) =
        GitChange.fileChange ∘ Prod.fst from rfl, ← List.map_map, List.zipIdx_map_fst]
    rw [hfirst] at hmapM
    exact hmapM
  unfold parseTrackedChanges
  rw [parseNameStatusZ_nameStatusZ, parseNumstatZ_numstatZ]
  show mergeStatusAndNumstat _ _ = _
  unfold mergeStatusAndNumstat
  rw [if_neg (by simp), hmerge]
  rfl

/-! ### Outputs of any kind -/

variable {changes : List FileChange} {numstats : List NumstatEntry}
  {statuses : List (String × String)}

theorem parseTrackedChanges_ok (h : parseTrackedChanges ns num = .ok changes) :
    ∃ statuses numstats, parseNameStatusZ ns = .ok statuses ∧ parseNumstatZ num = .ok numstats ∧
      statuses.map Prod.snd = numstats.map NumstatEntry.path ∧
      changes.length = statuses.length := by
  obtain ⟨statuses, hstatuses, h⟩ := bind_ok.mp h
  obtain ⟨numstats, hnumstats, h⟩ := bind_ok.mp h
  refine ⟨statuses, numstats, hstatuses, hnumstats, ?_⟩
  unfold mergeStatusAndNumstat at h
  by_cases hlength : statuses.length ≠ numstats.length
  · rw [if_pos hlength] at h
    cases h
  · rw [if_neg hlength] at h
    have hsame : statuses.length = numstats.length := not_not.mp hlength
    obtain ⟨merged, hmerged, h⟩ := bind_ok.mp h
    obtain rfl : sortChanges merged = changes := Except.ok.inj h
    have hpaths : ∀ pair ∈ statuses.zip numstats, pair.1.2 = pair.2.path := by
      intro pair hpair
      have hentry : pair ∈ ((statuses.zip numstats).zipIdx).map Prod.fst := by
        rwa [List.zipIdx_map_fst]
      obtain ⟨entry, hmem, rfl⟩ := List.mem_map.mp hentry
      obtain ⟨change, -, hchange⟩ := ok_of_mapM hmerged entry hmem
      unfold mergeEntry at hchange
      by_contra hne
      rw [if_pos fun heq => hne heq.symm] at hchange
      cases hchange
    constructor
    · have hfst : (statuses.zip numstats).map Prod.fst = statuses :=
        List.map_fst_zip (Nat.le_of_eq hsame)
      have hsnd : (statuses.zip numstats).map Prod.snd = numstats :=
        List.map_snd_zip (Nat.le_of_eq hsame.symm)
      calc statuses.map Prod.snd
          = (statuses.zip numstats).map (fun pair => pair.1.2) := by
            conv_lhs => rw [← hfst, List.map_map]
            rfl
        _ = (statuses.zip numstats).map (fun pair => pair.2.path) := List.map_congr_left hpaths
        _ = numstats.map NumstatEntry.path := by
            conv_rhs => rw [← hsnd, List.map_map]
            rfl
    · have hcount := (forall₂_of_mapM hmerged).length_eq
      rw [List.length_zipIdx, List.length_zip] at hcount
      unfold sortChanges
      rw [List.length_insertionSort]
      omega

theorem behindTab_asBytes {before after : String} (h : splitOnce '\t' text = some (before, after)) :
    behindTab (asBytes text) = some (asBytes after) := by
  obtain ⟨hbefore, htext⟩ := splitOnce_eq_some.mp h
  have htab : String.utf8EncodeChar '\t' = [9] := Utf8.encodeChar_ascii (by decide)
  have hbytes : asBytes text = asBytes before ++ 9 :: asBytes after := by
    rw [asBytes_eq_encode, htext, Utf8.encode_append, Utf8.encode_cons, htab,
      ← asBytes_eq_encode, ← asBytes_eq_encode]
    rfl
  have hno : ∀ b ∈ asBytes before, (b != 9) = true := by
    intro b hb
    refine bne_iff_ne.mpr ?_
    rintro rfl
    rw [asBytes_eq_encode] at hb
    exact hbefore ((Utf8.mem_encode_ascii (c := '\t') (by decide)).mp hb)
  unfold behindTab
  rw [hbytes, List.dropWhile_append_of_pos hno]
  rfl

theorem behindTab_of_parseNumstat {segment : List UInt8} {entry : NumstatEntry}
    (h : parseNumstat segment = .ok entry) :
    (behindTab segment).bind behindTab = some (asBytes entry.path) := by
  obtain ⟨line, hline, h⟩ := bind_ok.mp h
  rw [utf8Or_ok hline]
  unfold parseSingleNumstat at h
  split at h
  · cases h
  · rename_i added rest hfirst
    split at h
    · cases h
    · rename_i deleted path hsecond
      obtain ⟨_, -, h⟩ := bind_ok.mp h
      obtain ⟨_, -, h⟩ := bind_ok.mp h
      obtain rfl := Except.ok.inj h
      rw [behindTab_asBytes hfirst]
      exact behindTab_asBytes hsecond

theorem length_parseNumstatZ (h : parseNumstatZ num = .ok numstats) :
    numstats.length = (splitZ num).length :=
  (forall₂_of_mapM h).length_eq.symm

theorem paths_of_parseNumstatZ (h : parseNumstatZ num = .ok numstats) :
    ((splitZ num).map fun segment => (behindTab segment).bind behindTab) =
      numstats.map fun entry => some (asBytes entry.path) := by
  refine List.forall₂_eq_eq_eq ▸ List.forall₂_map_left_iff.mpr (List.forall₂_map_right_iff.mpr ?_)
  exact (forall₂_of_mapM h).imp fun _ _ => behindTab_of_parseNumstat

theorem length_chunksExactTwo {α : Type} (xs : List α) :
    (chunksExactTwo xs).length = xs.length / 2 := by
  induction xs using chunksExactTwo.induct with
  | case1 a b rest ih =>
    show (chunksExactTwo rest).length + 1 = (rest.length + 1 + 1) / 2
    omega
  | case2 xs hshort =>
    match xs, hshort with
    | [], _ | [_], _ => simp [chunksExactTwo]
    | a :: b :: rest, hshort => exact absurd rfl (hshort a b rest)

theorem pathsInTurn_eq_chunks {fields : List (List UInt8)} (h : fields.length % 2 = 0) :
    pathsInTurn fields = (chunksExactTwo fields).map fun chunk => some chunk.2 := by
  induction fields using pathsInTurn.induct with
  | case1 status path rest ih =>
    have heven : rest.length % 2 = 0 := by
      rw [List.length_cons, List.length_cons] at h
      omega
    show some path :: pathsInTurn rest = some path :: _
    rw [ih heven]
  | case2 status => simp at h
  | case3 => rfl

theorem length_pathsInTurn (fields : List (List UInt8)) :
    (pathsInTurn fields).length = (fields.length + 1) / 2 := by
  induction fields using pathsInTurn.induct with
  | case1 status path rest ih =>
    show (pathsInTurn rest).length + 1 = (rest.length + 1 + 1 + 1) / 2
    omega
  | case2 status => simp [pathsInTurn]
  | case3 => simp [pathsInTurn]

theorem parseNameStatusZ_ok (h : parseNameStatusZ ns = .ok statuses) :
    (splitZ ns).length % 2 = 0 ∧
      List.Forall₂ (fun chunk status => parseNameStatus chunk = .ok status)
        (chunksExactTwo (splitZ ns)) statuses := by
  unfold parseNameStatusZ at h
  dsimp only at h
  by_cases hodd : (splitZ ns).length % 2 ≠ 0
  · rw [if_pos hodd] at h
    cases h
  · rw [if_neg hodd] at h
    exact ⟨not_not.mp hodd, forall₂_of_mapM h⟩

theorem paths_of_parseNameStatusZ (h : parseNameStatusZ ns = .ok statuses) :
    pathsInTurn (splitZ ns) = statuses.map fun status => some (asBytes status.2) := by
  obtain ⟨heven, hchunks⟩ := parseNameStatusZ_ok h
  rw [pathsInTurn_eq_chunks heven]
  refine List.forall₂_eq_eq_eq ▸ List.forall₂_map_left_iff.mpr (List.forall₂_map_right_iff.mpr ?_)
  refine hchunks.imp fun chunk status hstatus => ?_
  obtain ⟨_, -, h⟩ := bind_ok.mp hstatus
  obtain ⟨path, hpath, h⟩ := bind_ok.mp h
  obtain rfl := Except.ok.inj h
  exact congrArg some (utf8Or_ok hpath)

theorem splitZ_length_eq_iff (data : List UInt8) :
    (splitZ data).length = (Fields.fields 0 data).length ↔ [] ∉ Fields.fields 0 data := by
  unfold splitZ
  rw [Fields.segments_eq_filter_fields, List.length_filter_eq_length_iff]
  constructor
  · intro h hempty
    exact absurd (h [] hempty) (by simp)
  · intro h field hfield
    have hne : field ≠ [] := fun hnil => h (hnil ▸ hfield)
    simp [hne]

theorem splitZ_eq_fields {data : List UInt8} (h : [] ∉ Fields.fields 0 data) :
    splitZ data = Fields.fields 0 data := by
  unfold splitZ
  rw [Fields.segments_eq_filter_fields]
  refine List.filter_eq_self.mpr fun field hfield => ?_
  have hne : field ≠ [] := fun hnil => h (hnil ▸ hfield)
  simp [hne]

/-- The outputs name the same paths in one order, and as many changes are returned. -/
def NamesKept (ns num : List UInt8) (changes : List FileChange) : Prop :=
  nameStatusPaths ns = numstatPaths num ∧ changes.length = (nameStatusPaths ns).length

instance (ns num : List UInt8) (changes : List FileChange) :
    Decidable (NamesKept ns num changes) := inferInstanceAs (Decidable (_ ∧ _))

/-- Outputs that are accepted name the same paths, and none is lost, exactly where neither has an
empty field. -/
theorem namesKept_iff (h : parseTrackedChanges ns num = .ok changes) :
    NamesKept ns num changes ↔ [] ∉ Fields.fields 0 ns ∧ [] ∉ Fields.fields 0 num := by
  obtain ⟨statuses, numstats, hstatuses, hnumstats, hpaths, hcount⟩ := parseTrackedChanges_ok h
  have hlines := length_parseNumstatZ hnumstats
  obtain ⟨heven, hchunks⟩ := parseNameStatusZ_ok hstatuses
  have hpairs : statuses.length = (splitZ ns).length / 2 := by
    rw [← length_chunksExactTwo, hchunks.length_eq]
  have hsame : statuses.length = numstats.length := by
    simpa using congrArg List.length hpaths
  have hnamed : (nameStatusPaths ns).length = ((Fields.fields 0 ns).length + 1) / 2 :=
    length_pathsInTurn _
  have hfewer : (splitZ ns).length ≤ (Fields.fields 0 ns).length := by
    unfold splitZ
    rw [Fields.segments_eq_filter_fields]
    exact List.length_filter_le _ _
  rw [← splitZ_length_eq_iff, ← splitZ_length_eq_iff]
  constructor
  · rintro ⟨hnames, hlength⟩
    have hnumbered : (nameStatusPaths ns).length = (Fields.fields 0 num).length := by
      rw [hnames]
      exact List.length_map _
    constructor
    · omega
    · omega
  · rintro ⟨hns, hnum⟩
    constructor
    · have hfirst : nameStatusPaths ns = statuses.map fun status => some (asBytes status.2) := by
        rw [← paths_of_parseNameStatusZ hstatuses,
          splitZ_eq_fields ((splitZ_length_eq_iff ns).mp hns)]
        rfl
      have hsecond : numstatPaths num = numstats.map fun entry => some (asBytes entry.path) := by
        rw [← paths_of_parseNumstatZ hnumstats,
          splitZ_eq_fields ((splitZ_length_eq_iff num).mp hnum)]
        rfl
      have hboth := congrArg (List.map fun path => some (asBytes path)) hpaths
      rw [List.map_map, List.map_map] at hboth
      rw [hfirst, hsecond]
      exact hboth
    · omega

/-- **Changes that Git lists are read back; of other outputs that are accepted, every path that
either names is named by both and returned, if and only if neither has an empty field.** -/
theorem parseTrackedChanges_iff (listed : List GitChange) (ns num : List UInt8) :
    parseTrackedChanges (nameStatusZ listed) (numstatZ listed) =
        .ok (sortChanges (listed.map GitChange.fileChange)) ∧
      ∀ changes, parseTrackedChanges ns num = .ok changes →
        (NamesKept ns num changes ↔
          [] ∉ Fields.fields 0 ns ∧ [] ∉ Fields.fields 0 num) :=
  ⟨parseTrackedChanges_listed listed, fun _ => namesKept_iff⟩

/-- The theorem, for one file that was added. -/
theorem parseTrackedChanges_one :
    NamesKept [65, 0, 97, 0] [49, 9, 48, 9, 97, 0] [⟨"a", .added, some 1, some 0, false⟩] :=
  ((parseTrackedChanges_iff [] [65, 0, 97, 0] [49, 9, 48, 9, 97, 0]).2 _
    (by decide +kernel)).mpr (by decide +kernel)

/-- A status and a path that lack their path and their status are taken for one change. -/
theorem shortened_listing :
    parseTrackedChanges [65, 0, 0, 77, 0, 0] [49, 9, 48, 9, 77, 0] =
        .ok [⟨"M", .added, some 1, some 0, false⟩] ∧
      nameStatusPaths [65, 0, 0, 77, 0, 0] = [some [], some []] ∧
      numstatPaths [49, 9, 48, 9, 77, 0] = [some [77]] ∧
      ¬ NamesKept [65, 0, 0, 77, 0, 0] [49, 9, 48, 9, 77, 0]
        [⟨"M", .added, some 1, some 0, false⟩] := by
  decide +kernel

end Luther
