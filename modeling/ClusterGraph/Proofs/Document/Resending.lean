import ClusterGraph.Proofs.Document.Metadata
import ClusterGraph.Proofs.Document.Shape
import ClusterGraph.Resource.Basic

/-!
# Sending the raw form back

A prepared document is given to callers as its compact text. If it holds integers only, that text is
read back as the same document, entries in the same order, exactly when it nests at most 127 levels.
Whether it does is up to the patches: a text that was read nests no deeper, but a patch puts its
payload as deep as its path leads, and nothing looks at the depth that comes of it.
-/
namespace ClusterGraph
namespace Document

open Json (isWhole keysDiffer)

variable {raw : String} {patches : List Patch} {d : Document}

/-- What the compact text of a document is read as. -/
theorem parse_raw_iff (valid : d.validate = .ok ())
    (keys : d.toJson.everywhere keysDiffer = true) (whole : d.toJson.everywhere isWhole = true)
    (e : Document) : parse d.raw = .ok e ↔ e = d ∧ d.toJson.nesting ≤ 127 := by
  have read := Json.parse_compact_iff keys whole
  constructor
  · intro parsed
    unfold parse ofGlyphs at parsed
    split at parsed
    · next v spelled =>
      obtain ⟨rfl, shallow⟩ := (read v).mp spelled
      simp only [toJson, ofJson, valid, bind, Except.bind] at parsed
      exact ⟨(Except.ok.inj parsed).symm, shallow⟩
    · cases parsed
  · rintro ⟨rfl, shallow⟩
    have spelled : Json.ofGlyphs (Text.Glyph.ofString e.raw) = .ok e.toJson :=
      (read e.toJson).mpr ⟨rfl, shallow⟩
    unfold parse ofGlyphs
    rw [spelled]
    simp only [toJson, ofJson, valid, bind, Except.bind]
    rfl

/-- Preparing without patches is reading. -/
theorem prepare_nil (raw : String) (d : Document) : prepare raw [] = .ok d ↔ parse raw = .ok d := by
  unfold prepare
  cases parse raw with
  | error e => exact ⟨nofun, nofun⟩
  | ok read =>
    exact ⟨fun same => congrArg Except.ok (Except.ok.inj same),
      fun same => congrArg Except.ok (Except.ok.inj same)⟩

theorem prepare_one {read after : Document} {p : Patch} (parsed : parse raw = .ok read)
    (applied : read.applyPatch 0 p = .ok after) : prepare raw [p] = .ok after := by
  unfold prepare applyPatches
  rw [parsed]
  simp only [applyPatchesFrom, applied]

/-- What the compact text of a prepared document is prepared as when no patch comes with it. -/
theorem prepare_raw_iff (success : prepare raw patches = .ok d)
    (whole : d.toJson.everywhere isWhole = true) (e : Document) :
    prepare d.raw [] = .ok e ↔ e = d ∧ d.toJson.nesting ≤ 127 :=
  (prepare_nil d.raw e).trans
    (parse_raw_iff (validate_of_prepare raw patches d success) (keysDiffer_of_prepare success)
      whole e)

theorem raw_of_ofDocument {resource : Resource} (success : Resource.ofDocument d = .ok resource) :
    resource.raw = d.raw := by
  unfold Resource.ofDocument at success
  split at success
  · cases success
  · cases success
    rfl

/-- The compact text of a prepared document can be sent back: it is read as the same document,
entries in the same order, and it is the text that a resource carries. -/
theorem raw_reads_back (success : prepare raw patches = .ok d)
    (whole : d.toJson.everywhere isWhole = true) (shallow : d.toJson.nesting ≤ 127) :
    prepare d.raw [] = .ok d ∧
      ∀ resource, Resource.ofDocument d = .ok resource → prepare resource.raw [] = .ok d := by
  have again : prepare d.raw [] = .ok d := (prepare_raw_iff success whole d).mpr ⟨rfl, shallow⟩
  refine ⟨again, fun resource remodelled => ?_⟩
  rw [raw_of_ofDocument remodelled, again]

/-- A widget with a repeated key, escapes of several kinds and the integers at both ends. -/
def motley : String :=
  "\x7b\"kind\":\"Gadget\",\"apiVersion\":\"example.io/v1\",\"kind\":\"Widget\",\"metadata\":\x7b\x7d,"
    ++ "\"spec\":\x7b\"\\u0001\\n\\ud83d\\ude00\":[18446744073709551615,-9223372036854775808]\x7d\x7d"

/-- A patch that gives a name to what it is applied to. -/
def naming : Patch := ⟨"metadata.name", "\"w\\u0022\""⟩

theorem raw_reads_back_of_motley :
    ∃ d, prepare motley [naming] = .ok d ∧
      d.raw = "\x7b\"kind\":\"Widget\",\"apiVersion\":\"example.io/v1\","
        ++ "\"metadata\":\x7b\"name\":\"w\\\"\"\x7d,"
        ++ "\"spec\":\x7b\"\\u0001\\n😀\":[18446744073709551615,-9223372036854775808]\x7d\x7d" ∧
      d.toJson.everywhere isWhole = true ∧ d.toJson.nesting ≤ 127 ∧ prepare d.raw [] = .ok d := by
  have evaluated : (match prepare motley [naming] with
      | .ok d =>
        decide (d.raw = "\x7b\"kind\":\"Widget\",\"apiVersion\":\"example.io/v1\","
          ++ "\"metadata\":\x7b\"name\":\"w\\\"\"\x7d,"
          ++ "\"spec\":\x7b\"\\u0001\\n😀\":[18446744073709551615,-9223372036854775808]\x7d\x7d")
          && d.toJson.everywhere isWhole && decide (d.toJson.nesting ≤ 127)
      | .error _ => false) = true := by decide +kernel
  cases success : prepare motley [naming] with
  | error f =>
    rw [success] at evaluated
    cases evaluated
  | ok d =>
    rw [success] at evaluated
    simp only [Bool.and_eq_true, decide_eq_true_eq] at evaluated
    obtain ⟨⟨text, whole⟩, shallow⟩ := evaluated
    exact ⟨d, rfl, text, whole, shallow, (raw_reads_back success whole shallow).1⟩

/-- A prepared document nests no deeper than a text that can be read, or than its patches reach, and
it nests as deep as its last patch reaches. If it holds integers only, its compact text can be read
again exactly when it nests at most 127 levels. -/
theorem reads_back_iff_shallow (success : prepare raw patches = .ok d) :
    (∀ n, 127 ≤ n → (∀ p ∈ patches, p.reach ≤ n) → d.toJson.nesting ≤ n) ∧
    (∀ earlier last, patches = earlier ++ [last] → last.reach ≤ d.toJson.nesting) ∧
    (d.toJson.everywhere isWhole = true →
      ((∃ e, prepare d.raw [] = .ok e) ↔ d.toJson.nesting ≤ 127)) := by
  refine ⟨fun n limit reach => nesting_le_of_prepare success limit reach, ?_, ?_⟩
  · rintro earlier last rfl
    exact reach_le_nesting_of_prepare success
  · intro whole
    have read := prepare_raw_iff success whole
    exact ⟨fun ⟨e, again⟩ => ((read e).mp again).2, fun shallow => ⟨d, (read d).mpr ⟨rfl, shallow⟩⟩⟩

/-! ### Too deep -/

def nestedLists : Nat → Json
  | 0 => .array []
  | n + 1 => .array [nestedLists n]

theorem nesting_nestedLists (n : Nat) : (nestedLists n).nesting = n + 1 := by
  induction n with
  | zero => rfl
  | succ n ih => simp [nestedLists, Json.nesting, Json.nestingOfItems, ih]

theorem everywhere_nestedLists {test : Json → Bool} (lists : ∀ vs, test (.array vs) = true)
    (n : Nat) : (nestedLists n).everywhere test = true := by
  induction n with
  | zero => exact (Json.everywhere_array_iff _).mpr ⟨lists _, nofun⟩
  | succ n ih =>
    refine (Json.everywhere_array_iff _).mpr ⟨lists _, fun v member => ?_⟩
    rw [List.mem_singleton.mp member, ih]

/-- A patch that puts lists, nested as deep as a text may nest, under a field. -/
def burying : Patch := ⟨"spec", (nestedLists 126).compact⟩

def bare : Document := ⟨[("apiVersion", .string "v1"), ("kind", .string "K")]⟩

def buried : Document :=
  ⟨[("apiVersion", .string "v1"), ("kind", .string "K"), ("spec", nestedLists 126)]⟩

theorem nesting_buried : buried.toJson.nesting = 128 := by
  simp [buried, toJson, Json.nesting, Json.nestingOfEntries, nesting_nestedLists]

theorem everywhere_isWhole_buried : buried.toJson.everywhere isWhole = true := by
  have lists : (nestedLists 126).everywhere isWhole = true :=
    everywhere_nestedLists (fun _ => rfl) 126
  simp [buried, toJson, Json.everywhere, Json.everywhereInEntries, lists, isWhole]

theorem parse_burying : FieldPath.parse burying.fieldPath = .ok [.key "spec"] ∧
    Json.parse burying.value = .ok (nestedLists 126) := by
  refine ⟨by cbv, ?_⟩
  have shallow := Nat.le_of_eq (nesting_nestedLists 126)
  exact (Json.parse_compact_iff (everywhere_nestedLists (fun _ => rfl) 126)
    (everywhere_nestedLists (fun _ => rfl) 126) _).mpr ⟨rfl, shallow⟩

theorem prepare_buried : prepare bare.raw [burying] = .ok buried := by
  have read : parse bare.raw = .ok bare :=
    (parse_raw_iff rfl (by decide) (by decide) bare).mpr ⟨rfl, by decide⟩
  have applied : bare.applyPatch 0 burying = .ok buried :=
    applyPatch_of_free parse_burying.1 parse_burying.2 (by decide) rfl rfl
  exact prepare_one read applied

theorem reads_back_iff_shallow_of_buried :
    prepare bare.raw [burying] = .ok buried ∧ 128 ≤ buried.toJson.nesting ∧
      ¬ ∃ e, prepare buried.raw [] = .ok e := by
  obtain ⟨-, last, again⟩ := reads_back_iff_shallow prepare_buried
  have reach : burying.reach = 128 := by
    rw [Patch.reach_eq parse_burying.1 parse_burying.2, nesting_nestedLists]
    rfl
  have deep : 128 ≤ buried.toJson.nesting := reach ▸ last [] burying rfl
  exact ⟨prepare_buried, deep,
    fun reads => absurd ((again everywhere_isWhole_buried).mp reads) (Nat.not_le.mpr deep)⟩

/-- A patch takes a document past the depth at which it can be read again. -/
theorem patched_beyond_limit :
    prepare bare.raw [burying] = .ok buried ∧ buried.toJson.nesting = 128 ∧
      ∀ e, prepare buried.raw [] ≠ .ok e := by
  refine ⟨prepare_buried, nesting_buried, fun e again => ?_⟩
  have shallow := ((prepare_raw_iff prepare_buried everywhere_isWhole_buried e).mp again).2
  rw [nesting_buried] at shallow
  exact absurd shallow (by decide)

end Document
end ClusterGraph
