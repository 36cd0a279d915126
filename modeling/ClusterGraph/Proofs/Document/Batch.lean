import ClusterGraph.Document.Patch

/-!
# Patches and batches

What it takes for a payload to be read, for a patch to be applied, and for a batch to go through. A
batch that goes through does so patch by patch, and where a patch stands in it shows in failures
only. A batch that is cut in two is applied as two batches, one to the document that the other
leaves; the positions of the second one are counted from the start of the whole
(`Document.applyPatches_append`).
-/
namespace ClusterGraph

/-- The value is an object that holds nothing but texts. -/
def Json.IsTextMap : Json → Prop
  | .object entries => ∀ e ∈ entries, e.2.isString = true
  | _ => False

def Target.Allows : Target → Json → Prop
  | .text, v => v.isString = true
  | .textMap, v => v.IsTextMap
  | .any, _ => True

/-- A payload is read if it is JSON text of what its field may hold. -/
theorem decodeValue_eq_ok_iff {raw : String} {target : Target} {value : Json} :
    decodeValue raw target = .ok value ↔ Json.parse raw = .ok value ∧ target.Allows value := by
  have checked {v : Json} {allowed : Bool} {holds : Prop} (fault : DecodeError)
      (same : allowed = true ↔ holds) :
      (if allowed then Except.ok v else .error fault) = .ok value ↔ v = value ∧ holds := by
    rw [← same]
    cases allowed <;> simp
  unfold decodeValue
  cases Json.parse raw with
  | error fault => exact ⟨nofun, nofun⟩
  | ok v =>
    have allows : v = value ∧ target.Allows value ↔ v = value ∧ target.Allows v := by
      constructor
      · rintro ⟨rfl, allowed⟩
        exact ⟨rfl, allowed⟩
      · rintro ⟨rfl, allowed⟩
        exact ⟨rfl, allowed⟩
    rw [Except.ok.injEq, allows]
    cases target with
    | any => simp [Target.Allows]
    | text => exact checked _ Iff.rfl
    | textMap =>
      cases v with
      | object entries => exact checked _ List.all_eq_true
      | _ => exact ⟨nofun, fun allowed => allowed.2.elim⟩

/-- The failure of a patch that stands `ahead` positions further back. -/
def Failure.shifted (ahead : Nat) (f : Failure) : Failure :=
  { f with patch := f.patch.map (ahead + ·) }

namespace Document
variable {d before after : Document} {position : Nat} {p : Patch} {patches : List Patch}

/-- What a patch that is applied does: its path is read, its payload is one for the field, the value
can be put there, and the document keeps its shape. -/
theorem applyPatch_eq_ok_iff : before.applyPatch position p = .ok after ↔
    ∃ path value, FieldPath.parse p.fieldPath = .ok path ∧
      decodeValue p.value (FieldPath.target path) = .ok value ∧
      before.set path value = (after, .ok ()) ∧ after.validate = .ok () := by
  constructor
  · intro success
    unfold applyPatch at success
    split at success
    · cases success
    next path read =>
    split at success
    · cases success
    next value decoded =>
    split at success
    · cases success
    next after' edited =>
    split at success
    · cases success
    next valid =>
    cases success
    exact ⟨path, value, read, decoded, edited, valid⟩
  · rintro ⟨path, value, read, decoded, edited, valid⟩
    simp only [applyPatch, read, decoded, edited, valid]

theorem applyPatchesFrom_cons_iff {rest : List Patch} :
    applyPatchesFrom position (p :: rest) before = .ok after ↔
      ∃ between, before.applyPatch position p = .ok between ∧
        applyPatchesFrom (position + 1) rest between = .ok after := by
  rw [applyPatchesFrom]
  cases before.applyPatch position p with
  | error f => exact ⟨nofun, nofun⟩
  | ok between => simp

/-- What every patch of a batch keeps holds after the batch. -/
theorem applyPatchesFrom_keeps (keeps : Document → Prop)
    (each : ∀ p ∈ patches, ∀ position before after, before.applyPatch position p = .ok after →
      keeps before → keeps after)
    (success : applyPatchesFrom position patches before = .ok after) (start : keeps before) :
    keeps after := by
  induction patches generalizing position before with
  | nil =>
    cases success
    exact start
  | cons p rest ih =>
    obtain ⟨between, patched, success⟩ := applyPatchesFrom_cons_iff.mp success
    exact ih (fun q member => each q (List.mem_cons_of_mem p member)) success
      (each p List.mem_cons_self position before between patched start)

/-- The last patch of a batch is applied to what the patches before it left. -/
theorem applyPatchesFrom_last {earlier : List Patch}
    (success : applyPatchesFrom position (earlier ++ [p]) before = .ok after) :
    ∃ (position : Nat) (between : Document), between.applyPatch position p = .ok after := by
  induction earlier generalizing position before with
  | nil =>
    obtain ⟨between, patched, rest⟩ := applyPatchesFrom_cons_iff.mp success
    cases rest
    exact ⟨position, before, patched⟩
  | cons q rest ih =>
    obtain ⟨between, -, success⟩ := applyPatchesFrom_cons_iff.mp success
    exact ih success

/-- Patches that can be applied can be applied at any position of a batch. -/
theorem applyPatchesFrom_congr (position other : Nat) (patches : List Patch)
    (before after : Document) : applyPatchesFrom position patches before = .ok after ↔
      applyPatchesFrom other patches before = .ok after := by
  induction patches generalizing position other before with
  | nil => rfl
  | cons p rest ih =>
    simp only [applyPatchesFrom_cons_iff, applyPatch_eq_ok_iff, ih (position + 1) (other + 1)]

theorem applyPatches_cons_iff {rest : List Patch} :
    applyPatches (p :: rest) before = .ok after ↔
      ∃ between, before.applyPatch 0 p = .ok between ∧ applyPatches rest between = .ok after := by
  simp only [applyPatches, applyPatchesFrom_cons_iff, applyPatchesFrom_congr 1 0]

/-! ## Batches that are cut in two -/

/-- A patch that stands further back does the same, but for the position that its failure names. -/
theorem applyPatch_add (ahead position : Nat) (p : Patch) (d : Document) :
    d.applyPatch (ahead + position) p = (d.applyPatch position p).mapError (.shifted ahead) := by
  unfold applyPatch
  split
  · rfl
  split
  · rfl
  split
  · rfl
  split <;> rfl

theorem applyPatchesFrom_add (ahead position : Nat) (patches : List Patch) (d : Document) :
    applyPatchesFrom (ahead + position) patches d =
      (applyPatchesFrom position patches d).mapError (.shifted ahead) := by
  induction patches generalizing position d with
  | nil => rfl
  | cons p rest ih =>
    simp only [applyPatchesFrom, applyPatch_add]
    cases d.applyPatch position p with
    | error f => rfl
    | ok after => exact ih (position + 1) after

theorem applyPatchesFrom_append (position : Nat) (earlier later : List Patch) (d : Document) :
    applyPatchesFrom position (earlier ++ later) d =
      match applyPatchesFrom position earlier d with
      | .error f => .error f
      | .ok between => applyPatchesFrom (position + earlier.length) later between := by
  induction earlier generalizing position d with
  | nil => rfl
  | cons p rest ih =>
    simp only [List.cons_append, applyPatchesFrom]
    cases d.applyPatch position p with
    | error f => rfl
    | ok after =>
      rw [List.length_cons, Nat.add_comm rest.length, ← Nat.add_assoc]
      exact ih (position + 1) after

/-- A batch that is cut in two is two batches one after the other. -/
theorem applyPatches_append (earlier later : List Patch) (d : Document) :
    applyPatches (earlier ++ later) d =
      match applyPatches earlier d with
      | .error f => .error f
      | .ok between => (applyPatches later between).mapError (.shifted earlier.length) := by
  unfold applyPatches
  rw [applyPatchesFrom_append]
  cases applyPatchesFrom 0 earlier d with
  | error f => rfl
  | ok between =>
    dsimp only
    rw [Nat.add_comm]
    exact applyPatchesFrom_add earlier.length 0 later between

theorem mapError_eq_ok_iff {ε ε' α : Type} {f : ε → ε'} {x : Except ε α} {a : α} :
    x.mapError f = .ok a ↔ x = .ok a := by
  cases x with
  | error e => exact ⟨nofun, nofun⟩
  | ok b => exact ⟨fun same => by cases same; rfl, fun same => by cases same; rfl⟩

theorem applyPatches_append_iff {earlier later : List Patch} :
    applyPatches (earlier ++ later) before = .ok after ↔
      ∃ between, applyPatches earlier before = .ok between ∧
        applyPatches later between = .ok after := by
  rw [applyPatches_append]
  cases applyPatches earlier before with
  | error f => exact ⟨nofun, nofun⟩
  | ok between =>
    refine mapError_eq_ok_iff.trans ⟨fun applied => ⟨between, rfl, applied⟩, ?_⟩
    rintro ⟨_, same, applied⟩
    cases same
    exact applied

end Document
end ClusterGraph
