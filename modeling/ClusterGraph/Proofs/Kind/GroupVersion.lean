import ClusterGraph.Proofs.Cluster.Refusal

/-!
# Joining and splitting a group and a version

A group and a version without a slash are what their `apiVersion` is split into again, whatever
slashes the group holds (`splitApiVersion_join`). A text is what its parts are joined into again,
unless it is a version behind one slash alone: its group is empty, and the slash is lost
(`join_split_iff`). So a call on an object, which splits an `apiVersion`, and a list call, which
carries the group and the version apart, go to the same group and version
(`joined_and_split_alike`).
-/
namespace ClusterGraph

/-! ## The last slash -/

theorem splitLastSlash_eq_none_iff {cs : List Char} : splitLastSlash cs = none ↔ '/' ∉ cs := by
  induction cs with
  | nil => simp [splitLastSlash]
  | cons c rest ih =>
    unfold splitLastSlash
    cases later : splitLastSlash rest with
    | some parts =>
      have slash : '/' ∈ rest := by
        refine Decidable.of_not_not fun single => ?_
        rw [ih.mpr single] at later
        cases later
      simp [slash]
    | none =>
      have single : '/' ∉ rest := ih.mp later
      by_cases here : c = '/'
      · simp [here]
      · simp [here, single, Ne.symm here]

theorem splitLastSlash_append (before : List Char) {after : List Char} (single : '/' ∉ after) :
    splitLastSlash (before ++ '/' :: after) = some (before, after) := by
  induction before with
  | nil =>
    rw [List.nil_append, splitLastSlash, splitLastSlash_eq_none_iff.mpr single]
    rfl
  | cons c rest ih => rw [List.cons_append, splitLastSlash, ih]

theorem eq_append_of_splitLastSlash {cs before after : List Char}
    (split : splitLastSlash cs = some (before, after)) :
    cs = before ++ '/' :: after ∧ '/' ∉ after := by
  induction cs generalizing before with
  | nil => cases split
  | cons c rest ih =>
    unfold splitLastSlash at split
    cases later : splitLastSlash rest with
    | some parts =>
      rw [later] at split
      cases split
      obtain ⟨rest_eq, single⟩ := ih later
      exact ⟨by rw [rest_eq, List.cons_append], single⟩
    | none =>
      rw [later] at split
      by_cases here : c = '/'
      · rw [if_pos here] at split
        cases split
        exact ⟨by rw [here, List.nil_append], splitLastSlash_eq_none_iff.mp later⟩
      · rw [if_neg here] at split
        cases split

/-! ## Groups and versions -/

theorem splitApiVersion_of_single {version : String} (single : '/' ∉ version.toList) :
    splitApiVersion version = ("", version) := by
  rw [splitApiVersion, splitLastSlash_eq_none_iff.mpr single]

theorem splitApiVersion_append (group : String) {version : String}
    (single : '/' ∉ version.toList) :
    splitApiVersion (group ++ "/" ++ version) = (group, version) := by
  have characters : (group ++ "/" ++ version).toList = group.toList ++ '/' :: version.toList := by
    simp
  rw [splitApiVersion, characters, splitLastSlash_append _ single]
  simp

/-- A text is a version alone, or a group and a version with a slash between them; the version holds
no slash. -/
theorem splitApiVersion_cases (s : String) :
    ('/' ∉ s.toList ∧ splitApiVersion s = ("", s)) ∨
      ∃ group version, '/' ∉ version.toList ∧ s = group ++ "/" ++ version ∧
        splitApiVersion s = (group, version) := by
  cases split : splitLastSlash s.toList with
  | none =>
    have single := splitLastSlash_eq_none_iff.mp split
    exact .inl ⟨single, splitApiVersion_of_single single⟩
  | some parts =>
    obtain ⟨characters, single⟩ := eq_append_of_splitLastSlash split
    have single' : '/' ∉ (String.ofList parts.2).toList := by simpa using single
    have whole : s = String.ofList parts.1 ++ "/" ++ String.ofList parts.2 := by
      rw [← String.toList_inj, characters]
      simp
    refine .inr ⟨_, _, single', whole, ?_⟩
    rw [whole]
    exact splitApiVersion_append _ single'

/-- The parts that are joined are found again. -/
theorem splitApiVersion_join (group : String) {version : String} (single : '/' ∉ version.toList) :
    splitApiVersion (joinApiVersion group version) = (group, version) := by
  unfold joinApiVersion
  split
  · next empty => rw [empty, splitApiVersion_of_single single]
  · exact splitApiVersion_append group single

/-- A version behind one slash, without a group. -/
def IsRootedVersion (s : String) : Prop := ∃ version, '/' ∉ version.toList ∧ s = "/" ++ version

/-- The text that is split is found again, unless it is a rooted version. -/
theorem join_split_iff (s : String) :
    joinApiVersion (splitApiVersion s).1 (splitApiVersion s).2 = s ↔ ¬ IsRootedVersion s := by
  rcases splitApiVersion_cases s with ⟨single, split⟩ | ⟨group, version, single, rfl, split⟩
  · rw [split]
    refine iff_of_true rfl ?_
    rintro ⟨version, -, rfl⟩
    simp at single
  · rw [split]
    by_cases empty : group = ""
    · -- The slash is lost.
      subst empty
      refine iff_of_false ?_ (not_not_intro ⟨version, single, by simp⟩)
      intro same
      have longer := congrArg String.length same
      simp [joinApiVersion] at longer
    · refine iff_of_true (if_neg empty) ?_
      rintro ⟨version', single', same⟩
      have again := splitApiVersion_append "" single'
      rw [String.empty_append, ← same, split] at again
      exact empty (congrArg Prod.fst again)

/-! ## Calls -/

namespace ClusterCall

/-- The `apiVersion` of the objects that a call is about. -/
def apiVersion : ClusterCall → String
  | list q => q.apiVersion
  | get r => r.apiVersion
  | create d => d.apiVersion
  | update r _ => r.apiVersion
  | delete r => r.apiVersion

/-- A call on an object names the group and the version into which its `apiVersion` is split. -/
theorem kindName_of_single {call : ClusterCall} (single : call.isList = false) :
    (call.kindName.group, call.kindName.version) = splitApiVersion call.apiVersion := by
  cases call <;> first | rfl | cases single

end ClusterCall

/-- Joining a group and a version, for a kind and for a list call, and splitting an `apiVersion` are
inverse to each other, but for a version behind one slash. A list call and a call on an object are
about the same `apiVersion` exactly if they go to the same group and version. -/
theorem joined_and_split_alike :
    (∀ (d : Descriptor) (version : String) (r : Reference), '/' ∉ version.toList →
      r.apiVersion = d.apiVersion version → r.group = d.group ∧ r.version = version) ∧
    (∀ (q : ListRequest) (r : Reference), '/' ∉ q.version.toList → r.apiVersion = q.apiVersion →
      r.group = q.group ∧ r.version = q.version) ∧
    (∀ (d : Descriptor) (r : Reference), d.group = r.group →
      (d.apiVersion r.version = r.apiVersion ↔ ¬ IsRootedVersion r.apiVersion)) ∧
    (∀ (q : ListRequest) (r : Reference), q.group = r.group → q.version = r.version →
      (q.apiVersion = r.apiVersion ↔ ¬ IsRootedVersion r.apiVersion)) ∧
    ∀ (q : ListRequest) (call : ClusterCall), call.isList = false → '/' ∉ q.version.toList →
      ¬ IsRootedVersion call.apiVersion →
      (call.apiVersion = q.apiVersion ↔
        call.kindName.group = q.group ∧ call.kindName.version = q.version) := by
  have found (group version apiVersion : String) (single : '/' ∉ version.toList)
      (joined : apiVersion = joinApiVersion group version) :
      (splitApiVersion apiVersion).1 = group ∧ (splitApiVersion apiVersion).2 = version := by
    rw [joined, splitApiVersion_join group single]
    exact ⟨rfl, rfl⟩
  refine ⟨fun d version r single joined => ?_, fun q r single joined => ?_,
    fun d r same => ?_, fun q r same same' => ?_, fun q call one single unrooted => ?_⟩
  · exact found d.group version r.apiVersion single joined
  · exact found q.group q.version r.apiVersion single joined
  · rw [Descriptor.apiVersion, same]
    exact join_split_iff r.apiVersion
  · rw [ListRequest.apiVersion, same, same']
    exact join_split_iff r.apiVersion
  · have parts := ClusterCall.kindName_of_single one
    rw [show call.kindName.group = (splitApiVersion call.apiVersion).1 from congrArg Prod.fst parts,
      show call.kindName.version = (splitApiVersion call.apiVersion).2 from congrArg Prod.snd parts]
    constructor
    · exact found q.group q.version call.apiVersion single
    · rintro ⟨group, version⟩
      rw [ListRequest.apiVersion, ← group, ← version]
      exact ((join_split_iff call.apiVersion).mpr unrooted).symm

def nestedKind : Descriptor := ⟨"a/b", "Widget", none, some "widgets", true, []⟩

def nestedWidget : Reference := ⟨"a/b/v1", "Widget", none, "w"⟩

/-- An object whose `apiVersion` is a version behind one slash. -/
def rootedWidget : Reference := ⟨"/v1", "Widget", none, "w"⟩

/-- The parts of `a/b/v1` are found again. Those of `/v1`, which are the same as those of `v1`, make
`v1`. -/
theorem joined_and_split_alike_of_nested :
    ('/' ∉ "v1".toList ∧ nestedWidget.apiVersion = nestedKind.apiVersion "v1") ∧
      (nestedWidget.group = "a/b" ∧ nestedWidget.version = "v1") ∧
      nestedKind.apiVersion nestedWidget.version = nestedWidget.apiVersion ∧
      (ClusterCall.get nestedWidget).apiVersion = (nestedKind.listRequest "v1" none).apiVersion ∧
      { nestedKind with group := rootedWidget.group }.apiVersion rootedWidget.version ≠
        rootedWidget.apiVersion := by
  obtain ⟨kinds, -, joins, -, calls⟩ := joined_and_split_alike
  have single : '/' ∉ "v1".toList := by decide
  have joined : nestedWidget.apiVersion = nestedKind.apiVersion "v1" := by decide
  have parts := kinds nestedKind "v1" nestedWidget single joined
  have unrooted : ¬ IsRootedVersion nestedWidget.apiVersion :=
    (joins nestedKind nestedWidget parts.1.symm).mp (by rw [parts.2, joined])
  refine ⟨⟨single, joined⟩, parts, ?_, ?_, ?_⟩
  · exact (joins nestedKind nestedWidget parts.1.symm).mpr unrooted
  · exact (calls (nestedKind.listRequest "v1" none) (.get nestedWidget) rfl single unrooted).mpr
      parts
  · intro same
    exact (joins { nestedKind with group := rootedWidget.group } rootedWidget rfl).mp same
      ⟨"v1", single, by decide⟩

end ClusterGraph
