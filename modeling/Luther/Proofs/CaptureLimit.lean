/-
The limit for excerpts and the judgement of a command.

The patterns are held against what is kept of a stream, and that is what the limit leaves of it.
So the limit has no part in the judgement exactly where no pattern of the entry changes its answer
while the output comes in: from the first byte of the stream on, it answers as it does of the whole.
The switches for the excerpts never have a part in it.
-/
import Luther.Steps.CommandManifest

namespace Luther.Manifest

open Utf8 (decodeLossy)

/-! ### What is kept of a stream -/

def delivered : List PipeRead → List UInt8
  | [] => []
  | .bytes [] :: _ => []
  | .bytes (b :: chunk) :: rest => b :: chunk ++ delivered rest
  | .interrupted :: rest => delivered rest
  | .failed :: _ => []

/-- **However the bytes come in, the first ones are kept.** -/
theorem readBounded_eq (bound : Nat) (kept : List UInt8) (pipe : List PipeRead) :
    readBounded bound kept pipe = kept ++ (delivered pipe).take (bound - kept.length) := by
  induction pipe generalizing kept with
  | nil => simp [readBounded, delivered]
  | cons read rest ih =>
    cases read with
    | interrupted => exact ih kept
    | failed => simp [readBounded, delivered]
    | bytes chunk =>
      cases chunk with
      | nil => simp [readBounded, delivered]
      | cons b chunk =>
        show readBounded bound
          (if 0 < bound - kept.length then
            kept ++ (b :: chunk).take (bound - kept.length) else kept) rest =
          kept ++ (b :: chunk ++ delivered rest).take (bound - kept.length)
        by_cases hroom : 0 < bound - kept.length
        · rw [if_pos hroom, ih, List.append_assoc, List.take_append, List.length_append,
            List.length_take]
          congr 3
          omega
        · have hnone : bound - kept.length = 0 := by omega
          rw [if_neg hroom, ih, hnone]
          simp

def wholeText (stream : List UInt8) : String := String.ofList (decodeLossy stream)

theorem readBoundedText_eq (pipe : List PipeRead) (limit : Nat) :
    readBoundedText pipe limit = wholeText ((delivered pipe).take (captureBound limit)) := by
  unfold readBoundedText
  rw [readBounded_eq]
  rfl

/-! ### What the patterns say of a text -/

/-- None of the patterns tells the texts apart. -/
def Alike (engine : RegexEngine) (patterns : List String) (text text' : String) : Prop :=
  ∀ pattern ∈ patterns, ∀ isMatch, engine pattern = some isMatch → isMatch text = isMatch text'

variable {engine : RegexEngine}

theorem Alike.append {patterns more : List String} {text text' : String}
    (h : Alike engine patterns text text') (hmore : Alike engine more text text') :
    Alike engine (patterns ++ more) text text' := by
  intro pattern hpattern
  rcases List.mem_append.mp hpattern with hmem | hmem
  · exact h pattern hmem
  · exact hmore pattern hmem

theorem missingPattern_inj {stream pattern pattern' : String}
    (h : missingPattern stream pattern = missingPattern stream pattern') : pattern = pattern' := by
  have hchars := congrArg String.toList h
  simp only [missingPattern, toString, String.toList_append, List.append_assoc] at hchars
  exact String.toList_inj.mp (List.append_cancel_left (List.append_cancel_left hchars))

theorem matchedPattern_inj {stream pattern pattern' : String}
    (h : matchedPattern stream pattern = matchedPattern stream pattern') : pattern = pattern' := by
  have hchars := congrArg String.toList h
  simp only [matchedPattern, toString, String.toList_append, List.append_assoc] at hchars
  exact String.toList_inj.mp (List.append_cancel_left (List.append_cancel_left hchars))

theorem missingPattern_ne_matchedPattern (stream pattern pattern' : String) :
    missingPattern stream pattern ≠ matchedPattern stream pattern' := by
  intro h
  have hchars := congrArg String.toList h
  simp only [missingPattern, matchedPattern, toString, String.toList_append,
    List.append_assoc] at hchars
  have hthird := congrArg (fun chars => chars[2]?) (List.append_cancel_left hchars)
  simp at hthird

section

variable {engine : RegexEngine} {stream text text' : String} {required forbidden : List String}

theorem missingPattern_mem {pattern : String} (h : pattern ∈ required) :
    missingPattern stream pattern ∈ patternFailures engine stream text required forbidden ↔
      (engine pattern).all (fun isMatch => !isMatch text) = true := by
  unfold patternFailures
  simp only [List.mem_append, List.mem_map, List.mem_filter]
  constructor
  · rintro (⟨other, ⟨-, hall⟩, heq⟩ | ⟨other, -, heq⟩)
    · rwa [missingPattern_inj heq] at hall
    · exact absurd heq.symm (missingPattern_ne_matchedPattern stream pattern other)
  · intro hall
    exact Or.inl ⟨pattern, ⟨h, hall⟩, rfl⟩

theorem matchedPattern_mem {pattern : String} (h : pattern ∈ forbidden) :
    matchedPattern stream pattern ∈ patternFailures engine stream text required forbidden ↔
      (engine pattern).any (fun isMatch => isMatch text) = true := by
  unfold patternFailures
  simp only [List.mem_append, List.mem_map, List.mem_filter]
  constructor
  · rintro (⟨other, -, heq⟩ | ⟨other, ⟨-, hany⟩, heq⟩)
    · exact absurd heq (missingPattern_ne_matchedPattern stream other pattern)
    · rwa [matchedPattern_inj heq] at hany
  · intro hany
    exact Or.inr ⟨pattern, ⟨h, hany⟩, rfl⟩

/-- **What is reported of two texts is the same exactly where no pattern tells them apart.** -/
theorem patternFailures_eq_iff :
    patternFailures engine stream text required forbidden =
        patternFailures engine stream text' required forbidden ↔
      Alike engine (required ++ forbidden) text text' := by
  constructor
  · intro h
    refine Alike.append (fun pattern hpattern isMatch hengine => ?_)
      fun pattern hpattern isMatch hengine => ?_
    · have hmem := @missingPattern_mem engine stream text required forbidden pattern hpattern
      rw [h, missingPattern_mem hpattern, hengine] at hmem
      simpa using (Bool.eq_iff_iff.mpr hmem).symm
    · have hmem := @matchedPattern_mem engine stream text required forbidden pattern hpattern
      rw [h, matchedPattern_mem hpattern, hengine] at hmem
      simpa using (Bool.eq_iff_iff.mpr hmem).symm
  · intro h
    have hrequired : ∀ pattern ∈ required,
        (engine pattern).all (fun isMatch => !isMatch text) =
          (engine pattern).all (fun isMatch => !isMatch text') := by
      intro pattern hpattern
      cases hengine : engine pattern with
      | none => rfl
      | some isMatch =>
        have hsame := h pattern (List.mem_append_left _ hpattern) isMatch hengine
        simp [hsame]
    have hforbidden : ∀ pattern ∈ forbidden,
        (engine pattern).any (fun isMatch => isMatch text) =
          (engine pattern).any (fun isMatch => isMatch text') := by
      intro pattern hpattern
      cases hengine : engine pattern with
      | none => rfl
      | some isMatch =>
        have hsame := h pattern (List.mem_append_right _ hpattern) isMatch hengine
        simp [hsame]
    unfold patternFailures
    rw [List.filter_congr hrequired, List.filter_congr hforbidden]

end

/-! ### The two streams -/

/-- The message is about this stream. -/
def About (stream message : String) : Bool :=
  message.toList.take stream.toList.length == stream.toList

theorem about_append {stream other : String}
    (hlength : stream.toList.length = other.toList.length) (rest : String) :
    About stream (other ++ rest) = (other.toList == stream.toList) := by
  unfold About
  rw [String.toList_append, hlength, List.take_left]

theorem about_of_mem {stream other text message : String} {required forbidden : List String}
    (hlength : stream.toList.length = other.toList.length)
    (h : message ∈ patternFailures engine other text required forbidden) :
    About stream message = (other.toList == stream.toList) := by
  rcases List.mem_append.mp h with hmem | hmem
  · obtain ⟨pattern, -, rfl⟩ := List.mem_map.mp hmem
    have hmessage : missingPattern other pattern =
        other ++ (" missing required pattern " ++ pattern) := String.append_assoc
    rw [hmessage]
    exact about_append hlength _
  · obtain ⟨pattern, -, rfl⟩ := List.mem_map.mp hmem
    have hmessage : matchedPattern other pattern =
        other ++ (" matched forbidden pattern " ++ pattern) := String.append_assoc
    rw [hmessage]
    exact about_append hlength _

theorem filter_about {stream other text text' : String}
    {required forbidden required' forbidden' : List String} {out err : List String}
    (hout : patternFailures engine stream text required forbidden = out)
    (herr : patternFailures engine other text' required' forbidden' = err)
    (hlength : stream.toList.length = other.toList.length) (hne : stream.toList ≠ other.toList) :
    (out ++ err).filter (About stream) = out ∧ (out ++ err).filter (About other) = err := by
  subst hout herr
  constructor
  · rw [List.filter_append, List.filter_eq_self.mpr, List.filter_eq_nil_iff.mpr,
      List.append_nil]
    · intro message hmem
      rw [about_of_mem hlength hmem]
      simpa using hne.symm
    · intro message hmem
      rw [about_of_mem rfl hmem]
      exact beq_self_eq_true _
  · rw [List.filter_append, List.filter_eq_nil_iff.mpr, List.filter_eq_self.mpr,
      List.nil_append]
    · intro message hmem
      rw [about_of_mem rfl hmem]
      exact beq_self_eq_true _
    · intro message hmem
      rw [about_of_mem hlength.symm hmem]
      simpa using hne

/-- **The expectations of a command fail alike exactly where no pattern of either stream tells its
texts apart.** -/
theorem expectationFailures_eq_iff {request : ManifestCommandRequest}
    {exitCode : Option Int} {stdout stdout' stderr stderr' : String} {ending : List String} :
    expectationFailures engine request exitCode stdout stderr ++ ending =
        expectationFailures engine request exitCode stdout' stderr' ++ ending ↔
      Alike engine (request.stdoutRequiredPatterns ++ request.stdoutForbiddenPatterns)
          stdout stdout' ∧
        Alike engine (request.stderrRequiredPatterns ++ request.stderrForbiddenPatterns)
          stderr stderr' := by
  rw [← @patternFailures_eq_iff engine "stdout", ← @patternFailures_eq_iff engine "stderr"]
  unfold expectationFailures
  rw [List.append_cancel_right_eq, List.append_assoc, List.append_assoc,
    List.append_cancel_left_eq]
  constructor
  · intro h
    obtain ⟨hout, herr⟩ := filter_about (Eq.refl (patternFailures engine "stdout" stdout _ _))
      (Eq.refl (patternFailures engine "stderr" stderr _ _)) (by decide) (by decide)
    obtain ⟨hout', herr'⟩ := filter_about (Eq.refl (patternFailures engine "stdout" stdout' _ _))
      (Eq.refl (patternFailures engine "stderr" stderr' _ _)) (by decide) (by decide)
    rw [h] at hout herr
    exact ⟨hout.symm.trans hout', herr.symm.trans herr'⟩
  · rintro ⟨hout, herr⟩
    rw [hout, herr]

/-! ### Limits -/

section

variable (engine : RegexEngine) (files : ArtifactFiles) (request : ManifestCommandRequest)
  (child : FinishedChild)

/-- The expectation failures of the command under a limit and switches for the excerpts. -/
def failuresUnder (limit : Nat) (stdout stderr : Bool) : List String :=
  (manifestProcessResult engine files
    { request with
      captureLimitBytes := limit, captureStdout := stdout, captureStderr := stderr }
    (waitForManifestChild child limit)).expectationFailures

/-- The expectation failures of the command, judged by its whole output. -/
def failuresOfOutput : List String :=
  expectationFailures engine request child.exitCode (wholeText (delivered child.stdout))
      (wholeText (delivered child.stderr)) ++
    if child.timedOut then ["command timed out"] else []

theorem failuresUnder_eq (limit : Nat) (stdout stderr : Bool) :
    failuresUnder engine files request child limit stdout stderr =
      expectationFailures engine request child.exitCode
          (wholeText ((delivered child.stdout).take (captureBound limit)))
          (wholeText ((delivered child.stderr).take (captureBound limit))) ++
        if child.timedOut then ["command timed out"] else [] := by
  unfold failuresUnder waitForManifestChild
  rw [readBoundedText_eq, readBoundedText_eq]
  rfl

/-- **The limit has no part in the judgement of a command**, nor have the switches. -/
structure JudgedAlike : Prop where
  limits : ∀ limit limit' stdout stderr stdout' stderr',
    failuresUnder engine files request child limit stdout stderr =
      failuresUnder engine files request child limit' stdout' stderr'
  /-- What a pattern says of the output counts, wherever in the output it is. -/
  output : ∀ limit stdout stderr, failuresUnder engine files request child limit stdout stderr =
    failuresOfOutput engine request child

/-- The patterns answer of every beginning of the stream, from its first byte on, as they do of the
whole stream; a beginning has as many bytes as can be counted. -/
def Steady (patterns : List String) (stream : List UInt8) : Prop :=
  ∀ front, front <+: stream → front ≠ [] → front.length < 2 ^ 64 →
    Alike engine patterns (wholeText front) (wholeText stream)

theorem steady_iff (patterns : List String) (stream : List UInt8) :
    Steady engine patterns stream ↔
      ∀ limit, Alike engine patterns (wholeText (stream.take (captureBound limit)))
        (wholeText stream) := by
  constructor
  · intro h limit
    by_cases hempty : stream = []
    · subst hempty
      rw [List.take_nil]
      exact fun _ _ _ _ => rfl
    · have hbound : 0 < captureBound limit ∧ captureBound limit < 2 ^ 64 := by
        unfold captureBound
        omega
      refine h _ (List.take_prefix _ _) ?_ ?_
      · intro hnone
        rcases List.take_eq_nil_iff.mp hnone with hzero | hnil
        · omega
        · exact hempty hnil
      · exact Nat.lt_of_le_of_lt (List.length_take_le _ _) hbound.2
  · intro h front hfront hne hlength
    have hpos := List.length_pos_iff.mpr hne
    have hbound : captureBound (front.length - 1) = front.length := by
      unfold captureBound
      omega
    have halike := h (front.length - 1)
    rwa [hbound, ← List.prefix_iff_eq_take.mp hfront] at halike

/-- **The limit has no part in the judgement exactly where the patterns of both streams are
steady**; and a limit that both streams fit under judges by the whole output. -/
theorem judgedAlike_iff :
    (JudgedAlike engine files request child ↔
      Steady engine (request.stdoutRequiredPatterns ++ request.stdoutForbiddenPatterns)
          (delivered child.stdout) ∧
        Steady engine (request.stderrRequiredPatterns ++ request.stderrForbiddenPatterns)
          (delivered child.stderr)) ∧
      ∀ limit stdout stderr, (delivered child.stdout).length ≤ captureBound limit →
        (delivered child.stderr).length ≤ captureBound limit →
        failuresUnder engine files request child limit stdout stderr =
          failuresOfOutput engine request child := by
  constructor
  · rw [steady_iff, steady_iff, ← forall_and]
    constructor
    · intro h limit
      have houtput := h.output limit true true
      rw [failuresUnder_eq] at houtput
      exact expectationFailures_eq_iff.mp houtput
    · intro h
      have houtput : ∀ limit stdout stderr,
          failuresUnder engine files request child limit stdout stderr =
            failuresOfOutput engine request child := by
        intro limit stdout stderr
        rw [failuresUnder_eq]
        exact expectationFailures_eq_iff.mpr (h limit)
      exact ⟨fun _ _ _ _ _ _ => (houtput _ _ _).trans (houtput _ _ _).symm, houtput⟩
  · intro limit stdout stderr hstdout hstderr
    rw [failuresUnder_eq, List.take_of_length_le hstdout, List.take_of_length_le hstderr]
    rfl

end

/-- A command none of whose output may say `no`. -/
def cautiousRequest : ManifestCommandRequest where
  commandId := "check"
  argv := ["check"]
  workingDirectory := "/work"
  artifactBaseDirectory := "/work"
  acceptableExitCodes := [0]
  captureStdout := true
  captureStderr := true
  captureLimitBytes := 64
  stdoutRequiredPatterns := []
  stdoutForbiddenPatterns := ["no"]
  stderrRequiredPatterns := []
  stderrForbiddenPatterns := []
  requiredArtifacts := []
  forbiddenArtifacts := []
  failureOutcome := .fatal

def plainEngine : RegexEngine := fun pattern => some fun text => containsText text pattern

/-- An output that says `no` behind other bytes. -/
def lateRefusal : FinishedChild := ⟨[.bytes (Utf8.encode "ok no".toList)], [], some 0, false⟩

/-- A limit of three bytes does not see what one of `64` bytes reports. -/
theorem refusal_cut :
    failuresUnder plainEngine ⟨some, fun _ => false, fun _ => false, fun _ => false⟩
        cautiousRequest lateRefusal 3 true true = [] ∧
      failuresUnder plainEngine ⟨some, fun _ => false, fun _ => false, fun _ => false⟩
        cautiousRequest lateRefusal 64 true true =
          ["stdout matched forbidden pattern no"] := by
  decide +kernel

end Luther.Manifest
