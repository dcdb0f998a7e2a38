/-
What Git reads in the configuration that is written for it.

The URL is written as it stands, so Git reads it back as it stands only if it needs no quotes.
Both checks let through URLs that do: a `#` or a `;` cuts the URL off, quotes are dropped, blanks
at its ends too, and a backslash at its end takes the next line into it.
-/
import Luther.Lib.GitConfig
import Luther.Workflow.Transport

namespace Luther

open GitConfig

/-! ### The sections that are written -/

/-- The section `core`, as it is written. -/
def coreSection : Section :=
  { name := "core".toList
    subsection := none
    entries :=
      [("repositoryformatversion".toList, some "0".toList), ("filemode".toList, some "true".toList),
        ("bare".toList, some "false".toList), ("logallrefupdates".toList, some "true".toList),
        ("hookspath".toList, some "/dev/null".toList)] }

def remoteSection (entries : List (List Char × Option (List Char))) : Section :=
  { name := "remote".toList, subsection := some "origin".toList, entries := entries }

/-- The sections that are meant, with the URL of the remote. -/
def publishedSections (url : List Char) : List Section :=
  [coreSection,
    remoteSection [("url".toList, some url),
      ("fetch".toList, some "+refs/heads/*:refs/remotes/origin/*".toList)]]

def fetchLine : List Char := "\tfetch = +refs/heads/*:refs/remotes/origin/*".toList

theorem ordinary_of_mem_fetchLine : ∀ c ∈ fetchLine, Value.ordinary c = true := by
  refine List.all_eq_true.mp ?_
  decide +kernel

theorem newline_notMem_fetchLine : '\n' ∉ fetchLine := by
  decide +kernel

theorem run_configBeforeUrl :
    Reader.start.run configBeforeUrl.toList =
      some (Reader.mk [remoteSection [], coreSection] (.value "url".toList .start)) := by
  decide +kernel

theorem toList_renderConfig (url : String) :
    (renderConfig url).toList ++ ['\n'] =
      configBeforeUrl.toList ++ (url.toList ++ '\n' :: (fetchLine ++ ['\n', '\n'])) := by
  unfold renderConfig
  rw [String.toList_append, String.toList_append, List.append_assoc, List.append_assoc]
  rfl

variable {url : String}

theorem parse_renderConfig (h : '\n' ∉ url.toList) :
    parse (renderConfig url).toList =
      (Value.start.run url.toList).bind fun v =>
        ((Reader.mk [remoteSection [], coreSection] (.value "url".toList v)).run
          ('\n' :: (fetchLine ++ ['\n', '\n']))).bind fun r =>
            if r.mode = .line then some r.sections.reverse else none := by
  unfold parse
  rw [toList_renderConfig, Reader.run_append, run_configBeforeUrl, Option.bind_some,
    Reader.run_append, Reader.run_value h, Option.bind_map, Option.bind_assoc]
  rfl

theorem parse_renderConfig_of_ended (h : '\n' ∉ url.toList) {read : List Char}
    (hread : (Value.start.run url.toList).bind Value.ended = some read) :
    parse (renderConfig url).toList = some (publishedSections read) := by
  obtain ⟨v, hrun, hended⟩ := Option.bind_eq_some_iff.mp hread
  rw [parse_renderConfig h, hrun, Option.bind_some, Reader.run_cons,
    Reader.step_newline_of_ended _ _ hended]
  rfl

theorem parse_renderConfig_of_not_ended (h : '\n' ∉ url.toList)
    (hread : (Value.start.run url.toList).bind Value.ended = none) (read : List Char) :
    parse (renderConfig url).toList ≠ some (publishedSections read) := by
  rw [parse_renderConfig h]
  cases hrun : Value.start.run url.toList with
  | none => simp
  | some v =>
    rw [hrun, Option.bind_some] at hread
    rw [Option.bind_some, Reader.run_cons]
    cases hplace : v.place with
    | comment =>
      rw [Value.ended, hplace] at hread
      cases hread
    | within quoted =>
      cases quoted with
      | false =>
        rw [Value.ended, hplace] at hread
        cases hread
      | true =>
        rw [Reader.step_newline_of_quoted _ _ hplace]
        simp
    | backslash quoted =>
      -- The line of the other key is now the value's.
      obtain ⟨w, hw, hwithin⟩ :=
        Value.run_within (v := { v with place := .within quoted }) rfl ordinary_of_mem_fetchLine
      rw [Reader.step_newline_of_backslash _ _ hplace, Option.bind_some, Reader.run_append,
        Reader.run_value newline_notMem_fetchLine, hw, Option.map_some, Option.bind_some,
        Reader.run_cons]
      cases quoted with
      | true =>
        rw [Reader.step_newline_of_quoted _ _ hwithin]
        simp
      | false =>
        have hended : w.ended = some w.text := by
          rw [Value.ended, hwithin]
        rw [Reader.step_newline_of_ended _ _ hended]
        intro hsame
        have hentries := congrArg (fun sections => sections.map
          (List.map fun s => s.entries.length)) hsame
        cases hentries

/-! ### Which URLs survive -/

theorem newline_notMem_of_valid (h : validateOriginUrl url = .ok ()) : '\n' ∉ url.toList := by
  intro hmem
  unfold validateOriginUrl at h
  rw [if_pos] at h
  · cases h
  · exact Or.inr (Or.inl (List.any_eq_true.mpr ⟨'\n', hmem, rfl⟩))

/-- **A configuration names the URL that was checked exactly if the URL needs no quotes.** -/
theorem renderConfig_iff {disk : TransportDisk} {url : String}
    (_htransport : validateTransportUrl disk url = .ok ())
    (horigin : validateOriginUrl url = .ok ()) :
    parse (renderConfig url).toList = some (publishedSections url.toList) ↔
      Value.Plain url.toList := by
  have hline := newline_notMem_of_valid horigin
  rw [← Value.run_ended_iff]
  cases hread : (Value.start.run url.toList).bind Value.ended with
  | none => exact iff_of_false (parse_renderConfig_of_not_ended hline hread _) (by simp)
  | some read =>
    rw [parse_renderConfig_of_ended hline hread]
    simp [publishedSections, remoteSection]

def emptyDisk : TransportDisk := { present := fun _ => false, isDir := fun _ => false }

theorem renderConfig_plain :
    parse (renderConfig "https://host/a.git").toList =
      some (publishedSections "https://host/a.git".toList) :=
  (@renderConfig_iff emptyDisk "https://host/a.git" rfl rfl).mpr
    ⟨List.all_eq_true.mp (by decide), fun _ h => Option.some.inj h ▸ by decide,
      fun _ h => Option.some.inj h ▸ by decide⟩

/-- Both checks let a URL with a `#` through, and Git reads another one. -/
theorem renderConfig_cut_short :
    validateTransportUrl emptyDisk "https://host/a#b.git" = .ok () ∧
      validateOriginUrl "https://host/a#b.git" = .ok () ∧
      parse (renderConfig "https://host/a#b.git").toList =
        some (publishedSections "https://host/a".toList) ∧
      parse (renderConfig "https://host/a#b.git").toList ≠
        some (publishedSections "https://host/a#b.git".toList) := by
  refine ⟨rfl, rfl, ?_, ?_⟩
  · decide +kernel
  · decide +kernel

end Luther
