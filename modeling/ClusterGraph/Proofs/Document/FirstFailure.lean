import Mathlib.Data.List.Induction
import ClusterGraph.Proofs.Document.Batch

/-!
# The patch at which a batch fails

A patch is refused in one of four ways: its path cannot be read, its payload cannot be read as what
the field may hold, the value cannot be put there, or the document loses its shape
(`Document.Refuses`). The way decides the stage and the kind of cause, and nothing else of the
batch does.

A batch fails at the first patch that the document left by the patches before it refuses, with the
position of that patch, whatever comes after it (`Document.batch_composes`).
-/
namespace ClusterGraph

namespace Document

/-- A patch cannot be applied to a document, at a stage and for a cause. -/
inductive Refuses (d : Document) (p : Patch) : Stage → Cause → Prop where
  | path {e : PathError} (unread : FieldPath.parse p.fieldPath = .error e) :
    Refuses d p .patchPath (.path e)
  | payload {path : Path} {e : DecodeError} (read : FieldPath.parse p.fieldPath = .ok path)
      (unread : decodeValue p.value (FieldPath.target path) = .error e) :
    Refuses d p .unmarshal (.decode e)
  | place {path : Path} {value : Json} {left : Document} {e : PathError}
      (read : FieldPath.parse p.fieldPath = .ok path)
      (decoded : decodeValue p.value (FieldPath.target path) = .ok value)
      (unset : d.set path value = (left, .error e)) : Refuses d p .patchPath (.path e)
  | shape {path : Path} {value : Json} {after : Document} {e : DecodeError}
      (read : FieldPath.parse p.fieldPath = .ok path)
      (decoded : decodeValue p.value (FieldPath.target path) = .ok value)
      (edited : d.set path value = (after, .ok ())) (broken : after.validate = .error e) :
    Refuses d p .unmarshal (.decode e)

variable {d between : Document} {p : Patch} {stage : Stage} {cause : Cause}

theorem Refuses.stage_cases (refuses : d.Refuses p stage cause) :
    stage = .unmarshal ∨ stage = .patchPath := by
  cases refuses <;> simp

/-- Paths fail at the stage of paths, documents and payloads at the stage of decoding. -/
theorem Refuses.stage_iff (refuses : d.Refuses p stage cause) :
    (stage = .patchPath ↔ ∃ e, cause = .path e) ∧
      (stage = .unmarshal ↔ ∃ e, cause = .decode e) := by
  cases refuses <;> simp

/-- A patch fails at its position exactly in the four ways. -/
theorem applyPatch_eq_error_iff {position : Nat} {f : Failure} :
    d.applyPatch position p = .error f ↔
      ∃ stage cause, d.Refuses p stage cause ∧ f = .ofPatch stage position cause := by
  constructor
  · intro failed
    unfold applyPatch at failed
    split at failed
    · next e unread =>
      cases failed
      exact ⟨_, _, .path unread, rfl⟩
    next path read =>
    split at failed
    · next e unread =>
      cases failed
      exact ⟨_, _, .payload read unread, rfl⟩
    next value decoded =>
    split at failed
    · next left e unset =>
      cases failed
      exact ⟨_, _, .place read decoded unset, rfl⟩
    next after edited =>
    split at failed
    · next e broken =>
      cases failed
      exact ⟨_, _, .shape read decoded edited broken, rfl⟩
    · cases failed
  · rintro ⟨stage, cause, refuses, rfl⟩
    cases refuses with
    | path unread => simp only [applyPatch, unread]
    | payload read unread => simp only [applyPatch, read, unread]
    | place read decoded unset => simp only [applyPatch, read, decoded, unset]
    | shape read decoded edited broken => simp only [applyPatch, read, decoded, edited, broken]

/-! ## The first failure -/

/-- A patch that is refused ends the batch, whatever comes after it. -/
theorem applyPatches_of_refuses {earlier : List Patch}
    (success : applyPatches earlier d = .ok between) (refuses : between.Refuses p stage cause)
    (later : List Patch) : applyPatches (earlier ++ p :: later) d =
      .error (.ofPatch stage earlier.length cause) := by
  have failed : between.applyPatch 0 p = .error (.ofPatch stage 0 cause) :=
    applyPatch_eq_error_iff.mpr ⟨stage, cause, refuses, rfl⟩
  have ends : applyPatches (p :: later) between = .error (.ofPatch stage 0 cause) := by
    simp only [applyPatches, applyPatchesFrom, failed]
  rw [applyPatches_append, success]
  dsimp only
  rw [ends]
  rfl

/-- A batch fails at the first patch that cannot be applied. -/
theorem refuses_of_applyPatches {patches : List Patch} {f : Failure}
    (failed : applyPatches patches d = .error f) :
    ∃ earlier p later between stage cause, patches = earlier ++ p :: later ∧
      applyPatches earlier d = .ok between ∧ between.Refuses p stage cause ∧
      f = .ofPatch stage earlier.length cause := by
  induction patches using List.reverseRecOn with
  | nil => cases failed
  | append_singleton earlier p ih =>
    cases before : applyPatches earlier d with
    | error g =>
      rw [applyPatches_append, before] at failed
      obtain rfl : g = f := Except.error.inj failed
      obtain ⟨first, q, more, between, stage, cause, rfl, rest⟩ := ih before
      exact ⟨first, q, more ++ [p], between, stage, cause, by simp, rest⟩
    | ok between =>
      cases last : between.applyPatch 0 p with
      | error g =>
        obtain ⟨stage, cause, refuses, -⟩ := applyPatch_eq_error_iff.mp last
        rw [applyPatches_of_refuses before refuses []] at failed
        exact ⟨earlier, p, [], between, stage, cause, rfl, before, refuses,
          (Except.error.inj failed).symm⟩
      | ok after =>
        have whole : applyPatches (earlier ++ [p]) d = .ok after :=
          applyPatches_append_iff.mpr ⟨between, before, applyPatches_cons_iff.mpr ⟨after, last, rfl⟩⟩
        cases whole.symm.trans failed

/-- Batches compose, and a batch reports the first patch that fails: its position, the stage and the
kind of cause that go together, and nothing that depends on the patches after it. -/
theorem batch_composes (d : Document) (valid : d.validate = .ok ()) (a b : List Patch) :
    (applyPatches (a ++ b) d =
      match applyPatches a d with
      | .error f => .error f
      | .ok between => (applyPatches b between).mapError (.shifted a.length)) ∧
    (∀ f, applyPatches a d = .error f ↔ ∃ earlier p later between stage cause,
      a = earlier ++ p :: later ∧ applyPatches earlier d = .ok between ∧
        between.Refuses p stage cause ∧ f = .ofPatch stage earlier.length cause) ∧
    (∀ f, applyPatches a d = .error f →
      (f.stage = .unmarshal ∨ f.stage = .patchPath) ∧
      (f.stage = .patchPath ↔ ∃ e, f.cause = .path e) ∧
      (f.stage = .unmarshal ↔ ∃ e, f.cause = .decode e) ∧
      ∃ i, f.patch = some i ∧ i < a.length ∧
        ∀ later, applyPatches (a.take (i + 1) ++ later) d = .error f) ∧
    ∀ after, applyPatches a d = .ok after → after.validate = .ok () := by
  refine ⟨applyPatches_append a b d, ?_, ?_, ?_⟩
  · intro f
    constructor
    · exact refuses_of_applyPatches
    · rintro ⟨earlier, p, later, between, stage, cause, rfl, success, refuses, rfl⟩
      exact applyPatches_of_refuses success refuses later
  · intro f failed
    obtain ⟨earlier, p, rest, between, stage, cause, rfl, success, refuses, rfl⟩ :=
      refuses_of_applyPatches failed
    obtain ⟨paths, decoding⟩ := refuses.stage_iff
    refine ⟨refuses.stage_cases, paths, decoding, earlier.length, rfl, by simp, ?_⟩
    intro later
    have upTo : (earlier ++ p :: rest).take (earlier.length + 1) = earlier ++ [p] := by
      rw [List.take_append, List.take_of_length_le (Nat.le_succ _)]
      simp
    rw [upTo, List.append_assoc]
    exact applyPatches_of_refuses success refuses later
  · intro after success
    refine applyPatchesFrom_keeps (fun d => d.validate = .ok ()) ?_ success valid
    intro p _ position before after applied _
    obtain ⟨-, -, -, -, -, valid⟩ := applyPatch_eq_ok_iff.mp applied
    exact valid

def plainWidget : Document :=
  ⟨[("apiVersion", .string "example.io/v1"), ("kind", .string "Widget")]⟩

/-- A batch whose third patch takes the shape of the document away, before one whose path cannot be
read. -/
theorem batch_composes_of_broken_shape :
    plainWidget.validate = .ok () ∧
      applyPatches [⟨"metadata", "null"⟩, ⟨"spec..x", "1"⟩] plainWidget =
        .error (.ofPatch .unmarshal 0 (.decode (.wrongType "metadata" "object"))) ∧
      applyPatches ([⟨"spec.size", "1"⟩, ⟨"spec.items", "[]"⟩] ++
          [⟨"metadata", "null"⟩, ⟨"spec..x", "1"⟩]) plainWidget =
        .error (.ofPatch .unmarshal 2 (.decode (.wrongType "metadata" "object"))) := by
  have valid : plainWidget.validate = .ok () := rfl
  refine ⟨valid, by rfl, ?_⟩
  rw [(batch_composes plainWidget valid [⟨"spec.size", "1"⟩, ⟨"spec.items", "[]"⟩]
    [⟨"metadata", "null"⟩, ⟨"spec..x", "1"⟩]).1]
  rfl

end Document
end ClusterGraph
