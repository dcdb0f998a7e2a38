/-
What two bindings of one identifier have in common.

Every field stands behind its length, so a buffer is read back in one way only and two
bindings with one buffer agree field by field.  They agree as bytes: a source attempt
that is absent is written as eight zeros, which is also how attempt 0 is written, and
those two are all that is ever confused.
-/
import Luther.Persistence.EffectIntents

namespace Luther

/-! ### Fields that are numbers -/

theorem length_i64ToBeBytes (n : Int64) : (i64ToBeBytes n).length < 256 ^ 8 := by
  simp [i64ToBeBytes]

@[simp] theorem i64ToBeBytes_inj {m n : Int64} : i64ToBeBytes m = i64ToBeBytes n ↔ m = n := by
  constructor
  · intro h
    have hm : m.toBitVec.toNat < 256 ^ 8 := m.toBitVec.isLt
    have hn : n.toBitVec.toNat < 256 ^ 8 := n.toBitVec.isLt
    have hnat := Framing.beBytes_inj hm hn h
    exact Int64.toBitVec_inj.mp (BitVec.eq_of_toNat_eq hnat)
  · intro h
    rw [h]

theorem sourceAttemptBytes_eq (sourceAttemptId : Option Int64) :
    sourceAttemptBytes sourceAttemptId = i64ToBeBytes (sourceAttemptId.getD 0) := by
  cases sourceAttemptId with
  | none => rfl
  | some id => rfl

theorem length_sourceAttemptBytes (sourceAttemptId : Option Int64) :
    (sourceAttemptBytes sourceAttemptId).length < 256 ^ 8 := by
  rw [sourceAttemptBytes_eq]
  exact length_i64ToBeBytes _

variable {s t : Option Int64}

@[simp] theorem sourceAttemptBytes_inj :
    sourceAttemptBytes s = sourceAttemptBytes t ↔ s.getD 0 = t.getD 0 := by
  rw [sourceAttemptBytes_eq, sourceAttemptBytes_eq, i64ToBeBytes_inj]

/-- One of the two is absent and the other is attempt 0. -/
def AbsentAndZero (s t : Option Int64) : Prop :=
  (s = none ∧ t = some 0) ∨ (s = some 0 ∧ t = none)

instance (s t : Option Int64) : Decidable (AbsentAndZero s t) :=
  inferInstanceAs (Decidable ((s = none ∧ t = some 0) ∨ (s = some 0 ∧ t = none)))

theorem getD_zero_eq_iff :
    s.getD 0 = t.getD 0 ↔ s = t ∨ AbsentAndZero s t := by
  cases s with
  | none =>
    cases t with
    | none => simp
    | some n => simp [AbsentAndZero, eq_comm]
  | some m =>
    cases t with
    | none | some n => simp [AbsentAndZero]

theorem AbsentAndZero.ne (h : AbsentAndZero s t) : s ≠ t := by
  rcases h with ⟨rfl, rfl⟩ | ⟨rfl, rfl⟩ <;> simp

/-! ### Operations, requests, effects -/

theorem OperationBinding.fields_fit (binding : OperationBinding) :
    ∀ field ∈ binding.fields, field.length < 256 ^ 8 := by
  simp only [fields, List.forall_mem_cons]
  exact ⟨Str.length_bytes _, Str.length_bytes _, Str.length_bytes _, length_sourceAttemptBytes _,
    Str.length_bytes _, List.forall_mem_nil _⟩

theorem RequestBinding.fields_fit (binding : RequestBinding) :
    ∀ field ∈ binding.fields, field.length < 256 ^ 8 := by
  simp only [fields, List.forall_mem_cons]
  exact ⟨Str.length_bytes _, length_sourceAttemptBytes _, Str.length_bytes _, List.forall_mem_nil _⟩

theorem EffectBinding.fields_fit (binding : EffectBinding) :
    ∀ field ∈ binding.fields, field.length < 256 ^ 8 := by
  simp only [fields, List.forall_mem_cons]
  exact ⟨Str.length_bytes _, length_i64ToBeBytes _, length_i64ToBeBytes _, Str.length_bytes _,
    List.forall_mem_nil _⟩

/-- The two operations differ in nothing but the source: one has none, the other attempt 0. -/
def OperationBinding.AbsentAsZero (a b : OperationBinding) : Prop :=
  AbsentAndZero a.sourceAttemptId b.sourceAttemptId
    ∧ a = { b with sourceAttemptId := a.sourceAttemptId }

instance (a b : OperationBinding) : Decidable (a.AbsentAsZero b) :=
  inferInstanceAs (Decidable (_ ∧ _))

/-- The two requests differ in nothing but the source: one has none, the other attempt 0. -/
def RequestBinding.AbsentAsZero (a b : RequestBinding) : Prop :=
  AbsentAndZero a.sourceAttemptId b.sourceAttemptId
    ∧ a = { b with sourceAttemptId := a.sourceAttemptId }

theorem OperationBinding.preimage_eq_iff {a b : OperationBinding} :
    a.preimage = b.preimage ↔ a = b ∨ a.AbsentAsZero b := by
  have hbuffer : a.preimage = b.preimage ↔ a.fields = b.fields :=
    Framing.buffer_inj rfl a.fields_fit b.fields_fit
  obtain ⟨run, step, capsule, source, intent⟩ := a
  obtain ⟨run', step', capsule', source', intent'⟩ := b
  rw [hbuffer]
  simp only [AbsentAsZero, fields, List.cons.injEq, and_true, true_and, Str.bytes_inj,
    sourceAttemptBytes_inj, getD_zero_eq_iff, mk.injEq]
  tauto

theorem RequestBinding.preimage_eq_iff {a b : RequestBinding} :
    a.preimage = b.preimage ↔ a = b ∨ a.AbsentAsZero b := by
  have hbuffer : a.preimage = b.preimage ↔ a.fields = b.fields :=
    Framing.buffer_inj rfl a.fields_fit b.fields_fit
  obtain ⟨run, source, intent⟩ := a
  obtain ⟨run', source', intent'⟩ := b
  rw [hbuffer]
  simp only [AbsentAsZero, fields, List.cons.injEq, and_true, true_and, Str.bytes_inj,
    sourceAttemptBytes_inj, getD_zero_eq_iff, mk.injEq]
  tauto

theorem EffectBinding.preimage_inj {a b : EffectBinding} :
    a.preimage = b.preimage ↔ a = b := by
  have hbuffer : a.preimage = b.preimage ↔ a.fields = b.fields :=
    Framing.buffer_inj rfl a.fields_fit b.fields_fit
  obtain ⟨operation, attempt, sequence, kind⟩ := a
  obtain ⟨operation', attempt', sequence', kind'⟩ := b
  rw [hbuffer]
  simp only [fields, List.cons.injEq, and_true, Str.bytes_inj, i64ToBeBytes_inj, mk.injEq]

/-! ### The identifiers -/

/-- Two values, when they differ, are hashed from different bytes, and a digest without
collisions gives them different identifiers. -/
def ToldApart {α : Type} (preimage : α → List UInt8) (identifier : Sha256Hex → α → String)
    (x y : α) : Prop :=
  x ≠ y → preimage x ≠ preimage y
    ∧ ∀ sha : Sha256Hex, Function.Injective sha → identifier sha x ≠ identifier sha y

theorem toldApart_iff {α : Type} {preimage : α → List UInt8}
    {identifier : Sha256Hex → α → String} {x y : α} {confused : Prop}
    (hdigest : ∀ sha z, identifier sha z = sha (preimage z))
    (hpreimage : preimage x = preimage y ↔ x = y ∨ confused) (hne : confused → x ≠ y) :
    ToldApart preimage identifier x y ↔ ¬ confused := by
  constructor
  · intro h hconfused
    exact (h (hne hconfused)).1 (hpreimage.mpr (Or.inr hconfused))
  · intro hconfused hxy
    have hbytes : preimage x ≠ preimage y := by
      intro h
      rcases hpreimage.mp h with heq | hc
      · exact hxy heq
      · exact hconfused hc
    refine ⟨hbytes, ?_⟩
    intro sha hsha h
    rw [hdigest, hdigest] at h
    exact hbytes (hsha h)

/-- `compute_operation_id`, of a binding. -/
def OperationBinding.operationId (sha : Sha256Hex) (binding : OperationBinding) : String :=
  computeOperationId sha binding.runId.text binding.stepId.text
    binding.capsuleEnvelopeDigest.text (binding.sourceAttemptId.map unsignedAttempt)
    binding.normalizedIntent.text

/-- `compute_logical_request_key`, of a binding. -/
def RequestBinding.logicalRequestKey (sha : Sha256Hex) (binding : RequestBinding) : String :=
  computeLogicalRequestKey sha binding.runId.text (binding.sourceAttemptId.map unsignedAttempt)
    binding.normalizedIntent.text

/-- `compute_effect_key`, of a binding. -/
def EffectBinding.effectKey (sha : Sha256Hex) (binding : EffectBinding) : String :=
  computeEffectKey sha binding.operationId.text binding.attemptId binding.sequence
    binding.effectKind.text

/-- `payload_digest`: the digest `prepare_effect` binds an intent to. -/
def payloadDigest (kind : EffectKind) (sha : Sha256Hex) (payload : List UInt8) : String :=
  sha (canonicalizePayload kind payload)

theorem OperationBinding.AbsentAsZero.ne {a b : OperationBinding} (h : a.AbsentAsZero b) :
    a ≠ b := by
  intro hab
  exact h.1.ne (congrArg OperationBinding.sourceAttemptId hab)

theorem RequestBinding.AbsentAsZero.ne {a b : RequestBinding} (h : a.AbsentAsZero b) :
    a ≠ b := by
  intro hab
  exact h.1.ne (congrArg RequestBinding.sourceAttemptId hab)

/-- **An absent source attempt is taken for attempt 0, and nothing else is confused.** Two
operations, and two requests, are hashed from different bytes unless they differ in nothing
but that; two effects are in any case, and so are two payloads. -/
theorem preimages_toldApart_iff (a b : OperationBinding) (c d : RequestBinding)
    (e f : EffectBinding) (kind : EffectKind) (p q : List UInt8) :
    (ToldApart OperationBinding.preimage OperationBinding.operationId a b
        ↔ ¬ a.AbsentAsZero b)
      ∧ (ToldApart RequestBinding.preimage RequestBinding.logicalRequestKey c d
        ↔ ¬ c.AbsentAsZero d)
      ∧ ToldApart EffectBinding.preimage EffectBinding.effectKey e f
      ∧ ToldApart (canonicalizePayload kind) (payloadDigest kind) p q := by
  refine ⟨?_, ?_, ?_, ?_⟩
  · exact toldApart_iff computeOperationId_eq OperationBinding.preimage_eq_iff
      OperationBinding.AbsentAsZero.ne
  · exact toldApart_iff computeLogicalRequestKey_eq RequestBinding.preimage_eq_iff
      RequestBinding.AbsentAsZero.ne
  · have hpreimage : e.preimage = f.preimage ↔ e = f ∨ False := by
      rw [EffectBinding.preimage_inj, or_false]
    apply (toldApart_iff computeEffectKey_eq hpreimage False.elim).mpr
    exact not_false
  · have hpayload : canonicalizePayload kind p = canonicalizePayload kind q
        ↔ p = q ∨ False := by
      rw [canonicalizePayload, canonicalizePayload, or_false]
    apply (toldApart_iff (fun _ _ => rfl) hpayload False.elim).mpr
    exact not_false

def freshOperation : OperationBinding where
  runId := ⟨"run-1", by decide⟩
  stepId := ⟨"step1", by decide⟩
  capsuleEnvelopeDigest := ⟨"digest-abc", by decide⟩
  sourceAttemptId := none
  normalizedIntent := ⟨"resume", by decide⟩

/-- The recovery of that step from attempt 0 is another operation with the same bytes, and so is
the request. -/
theorem absent_source_aliases :
    freshOperation ≠ { freshOperation with sourceAttemptId := some 0 }
      ∧ freshOperation.preimage
        = { freshOperation with sourceAttemptId := some 0 }.preimage
      ∧ ∀ sha : Sha256Hex,
        computeOperationId sha "run-1" "step1" "digest-abc" none "resume"
            = computeOperationId sha "run-1" "step1" "digest-abc" (some 0) "resume"
          ∧ computeLogicalRequestKey sha "run-1" none "resume"
            = computeLogicalRequestKey sha "run-1" (some 0) "resume" := by
  have hsource : sourceBytes none = sourceBytes (some 0) := by decide
  refine ⟨by decide, ?_, ?_⟩
  · exact OperationBinding.preimage_eq_iff.mpr (Or.inr (by decide))
  · intro sha
    rw [computeOperationId, computeOperationId, computeLogicalRequestKey,
      computeLogicalRequestKey, hsource]
    exact ⟨rfl, rfl⟩

end Luther
