/-
What a ledger says to those who ask its history.

Every document of a ledger is in order, so that all of a family are candidates, in whatever order
they are listed.  The numbers of a document are its own: asked for them, the history answers with
that document or not at all, and whatever else was written since makes no difference.
-/
import Luther.Lib.Sql
import Luther.Proofs.ArtifactReading

namespace Luther

theorem filter_eq_singleton {Entry : Type} {test : Entry → Bool} {entries : List Entry}
    {entry : Entry} (hnodup : entries.Nodup) (hmem : entry ∈ entries)
    (htest : ∀ other ∈ entries, test other = true ↔ other = entry) :
    entries.filter test = [entry] := by
  refine List.perm_singleton.mp ?_
  refine (List.perm_ext_iff_of_nodup (hnodup.filter _) (List.nodup_singleton _)).mpr fun other => ?_
  rw [List.mem_filter, List.mem_singleton]
  constructor
  · rintro ⟨hother, hpasses⟩
    exact (htest other hother).mp hpasses
  · rintro rfl
    exact ⟨hmem, (htest other hmem).mpr rfl⟩

section HistoryEvidence

variable {validate : FamilyInvariants} {pr binding : PrFollowupBinding}
  {store : ArtifactStore} {file : ContainedFile} {family : String}

theorem Ledger.familyFiles_perm (h : Ledger validate pr store)
    (hplain : PlainFamily family) (hbinding : validateSequenceBinding pr binding)
    (order : ListingOrder) :
    (familyFiles order binding family store).Perm
      (store.history.filter fun file => file.family == family) := by
  have hroot : historyRootForFamily store.root binding family =
      historyRootForFamily store.root pr family := by
    unfold historyRootForFamily
    rw [bindingRoot_eq hbinding]
  have hfilter : (store.history.filter fun file => file.family == family) =
      store.history.filter fun file =>
        file.path.parent == historyRootForFamily store.root binding family := by
    refine List.filter_congr fun file hfile => ?_
    have hiff := (h.snapshots file hfile).parent_iff hplain
    rw [Bool.eq_iff_iff, beq_iff_eq, beq_iff_eq, hroot]
    exact hiff.symm
  rw [hfilter]
  exact (order.perm store.history).filter _

theorem Snapshot.validatedHistoryCandidate_eq {root : String}
    (h : Snapshot validate pr root file)
    (hbinding : validateSequenceBinding pr binding) :
    validatedHistoryCandidate validate binding file.family file =
      .ok file.content := by
  obtain ⟨actual, hactual, hpr⟩ := h.binding
  unfold validatedHistoryCandidate
  simp only [h.fromText, Except.mapError, hactual, prIdentityMatches_of_sequence hbinding hpr,
    h.historySnapshot, h.filename, h.embedded, bind, Except.bind]
  rfl

variable {order : ListingOrder} {query : HistoryEvidenceQuery}

/-- **The candidates are the documents of the family.** -/
theorem Ledger.validatedHistoryCandidates_eq (h : Ledger validate pr store)
    (hplain : PlainFamily family) (hbinding : validateSequenceBinding pr binding)
    (hshort : (familyFiles order binding family store).length ≤ maxArtifactScanFiles) :
    ∃ files : List ContainedFile, files.Perm (store.history.filter fun file => file.family == family) ∧
      validatedHistoryCandidates validate order binding family store =
        .ok (files.map (·.content)) := by
  have hfiles := h.familyFiles_perm hplain hbinding order
  have hsorted := (List.perm_insertionSort (fun left right : ContainedFile =>
    left.path.text ≤ right.path.text) (familyFiles order binding family store)).trans hfiles
  refine ⟨_, hsorted, ?_⟩
  unfold validatedHistoryCandidates
  dsimp only
  rw [if_neg (Nat.not_lt.mpr hshort)]
  refine Sql.mapM_eq_ok_map fun file hfile => ?_
  obtain ⟨hmem, hfamily⟩ := List.mem_filter.mp (hsorted.mem_iff.mp hfile)
  rw [← eq_of_beq hfamily]
  exact (h.snapshots file hmem).validatedHistoryCandidate_eq hbinding

variable {ledger : ValidatedHistoryLedger} {sequence : ArtifactSequenceMetadata}

section

variable (h : Ledger validate pr store)

include h

theorem Ledger.readHistoryEvidence_mem (hplain : PlainFamily query.artifactFamily)
    (hbinding : validateSequenceBinding pr binding)
    {value : Json}
    (hread : readHistoryEvidence validate order binding ledger query store =
      .ok (some value)) :
    ∃ file ∈ store.history, file.family = query.artifactFamily ∧ file.content = value := by
  unfold readHistoryEvidence at hread
  by_cases hledger : ledger.binding ≠ binding
  · rw [if_pos hledger] at hread
    cases hread
  by_cases hlong : maxArtifactScanFiles <
      (familyFiles order binding query.artifactFamily store).length
  · unfold validatedHistoryCandidates at hread
    rw [if_neg hledger, if_pos hlong] at hread
    cases hread
  · obtain ⟨files, hperm, hcandidates⟩ :=
      h.validatedHistoryCandidates_eq hplain hbinding (Nat.le_of_not_lt hlong)
    rw [if_neg hledger, hcandidates] at hread
    have hresolved : resolveHistoryEvidence query
        (historyRootForFamily store.root binding query.artifactFamily)
        ((files.map (·.content)).filter query.matches) = .ok (some value) := hread
    have hvalue : value ∈ (files.map (·.content)).filter query.matches := by
      unfold resolveHistoryEvidence at hresolved
      split at hresolved
      · cases hresolved
      · rename_i found heq
        obtain rfl := Option.some.inj (Except.ok.inj hresolved)
        rw [heq]
        exact List.mem_singleton_self _
      · cases hresolved
    obtain ⟨file, hfile, rfl⟩ := List.mem_map.mp (List.mem_filter.mp hvalue).1
    obtain ⟨hmem, hfamily⟩ := List.mem_filter.mp (hperm.mem_iff.mp hfile)
    exact ⟨file, hmem, eq_of_beq hfamily, rfl⟩

theorem Ledger.matches_iff (hquery : query.evidenceSequence = some sequence)
    (hfile : file ∈ store.history) (hmatches : query.matches file.content)
    {other : ContainedFile} (hother : other ∈ store.history) :
    query.matches other.content = true ↔ other = file := by
  have hnumber : ∀ {file : ContainedFile}, query.matches file.content = true →
      file.artifactSequence = sequence.artifactSequence := by
    intro file hfits
    unfold HistoryEvidenceQuery.matches HistoryEvidenceQuery.sequenceMatches at hfits
    simp only [hquery, Option.all_some, Bool.and_eq_true, beq_iff_eq] at hfits
    unfold ContainedFile.artifactSequence
    rw [hfits.1.1.1.1]
    rfl
  constructor
  · intro hfits
    exact h.eq_of_artifactSequence hother hfile ((hnumber hfits).trans (hnumber hmatches).symm)
  · rintro rfl
    exact hmatches

/-- **Asked for the numbers of a document, the history answers with the document.** -/
theorem Ledger.readHistoryEvidence_eq (hlength : store.history.length ≤ maxArtifactScanFiles)
    (hplain : PlainFamily query.artifactFamily)
    (hbinding : validateSequenceBinding pr binding) (order : ListingOrder)
    (hquery : query.evidenceSequence = some sequence)
    (hfile : file ∈ store.history) (hfamily : file.family = query.artifactFamily)
    (hmatches : query.matches file.content) :
    readHistoryEvidence validate order binding ⟨binding⟩ query store =
      .ok (some file.content) := by
  have hshort : (familyFiles order binding query.artifactFamily store).length ≤
      maxArtifactScanFiles := by
    rw [(h.familyFiles_perm hplain hbinding order).length_eq]
    exact Nat.le_trans (List.length_filter_le _ _) hlength
  obtain ⟨files, hperm, hcandidates⟩ := h.validatedHistoryCandidates_eq hplain hbinding hshort
  have hnodup : files.Nodup := by
    refine hperm.nodup_iff.mpr ?_
    exact (List.Nodup.of_map _ h.numbered.artifacts.nodup).filter _
  have hlisted : file ∈ files :=
    hperm.mem_iff.mpr (List.mem_filter.mpr ⟨hfile, beq_iff_eq.mpr hfamily⟩)
  have hfound : (files.map (·.content)).filter query.matches = [file.content] := by
    rw [List.filter_map, filter_eq_singleton hnodup hlisted]
    · rfl
    · intro other hother
      exact h.matches_iff hquery hfile hmatches
        (List.mem_filter.mp (hperm.mem_iff.mp hother)).1
  unfold readHistoryEvidence
  rw [if_neg (not_not.mpr rfl), hcandidates]
  simp only [bind, Except.bind, hfound]
  rfl

end

theorem validateHistoryLedger_ok
    (h : (validateHistoryLedger validate order binding store).1 = .ok ledger) :
    ledger = ⟨binding⟩ ∧ store.history.length ≤ maxArtifactScanFiles := by
  refine ⟨?_, ?_⟩
  · unfold validateHistoryLedger at h
    split at h
    · cases h
    · exact (Except.ok.inj h).symm
  · by_contra hlong
    unfold validateHistoryLedger recoverSequenceState recoverSequences recoverStrictHistory at h
    rw [if_pos (Nat.lt_of_not_le hlong)] at h
    cases h

end HistoryEvidence

end Luther
