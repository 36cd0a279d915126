import ClusterGraph.Proofs.Gateway.Coherence
import ClusterGraph.Proofs.Kind.GroupVersion

/-!
# Ids of objects without a uid

The id of an object without a uid is its `apiVersion`, kind, namespace and name, joined by slashes.
The last three are found again from the end if they hold no slash, and what stands before them is
the `apiVersion`, whatever slashes it holds (`fallbackId_inj`). An absent namespace is written as an
empty one, so it is found again if no namespace is empty. Then different objects have different ids,
and so have the snapshots of different references (`same_id_iff_same_object`).
-/
namespace ClusterGraph

/-- What stands before and after a slash is found again if the text after it holds none. -/
theorem append_slash_inj {before before' after after' : String} (single : '/' ∉ after.toList)
    (single' : '/' ∉ after'.toList) (same : before ++ "/" ++ after = before' ++ "/" ++ after') :
    before = before' ∧ after = after' := by
  have split := splitApiVersion_append before single
  rw [same, splitApiVersion_append before' single'] at split
  exact Prod.mk.inj split.symm

/-- A kind, a namespace and a name without slashes. The namespace may be absent, but is not
empty. -/
structure IsPlainName (kind : String) (nspace : Option String) (name : String) : Prop where
  kind : '/' ∉ kind.toList
  nspace : ∀ ns, nspace = some ns → ns ≠ "" ∧ '/' ∉ ns.toList
  name : '/' ∉ name.toList

namespace IsPlainName
variable {kind kind' name name' : String} {nspace nspace' : Option String}

/-- The written form of the namespace is one part of an id. -/
theorem single_nspace (plain : IsPlainName kind nspace name) : '/' ∉ (nspace.getD "").toList := by
  cases spaced : nspace with
  | none => simp
  | some ns => exact (plain.nspace ns spaced).2

/-- The written form of the namespace tells whether there is one. -/
theorem nspace_inj (plain : IsPlainName kind nspace name) (plain' : IsPlainName kind' nspace' name')
    (same : nspace.getD "" = nspace'.getD "") : nspace = nspace' := by
  cases spaced : nspace with
  | none =>
    cases spaced' : nspace' with
    | none => rfl
    | some ns' =>
      rw [spaced, spaced'] at same
      exact absurd same.symm (plain'.nspace ns' spaced').1
  | some ns =>
    cases spaced' : nspace' with
    | none =>
      rw [spaced, spaced'] at same
      exact absurd same (plain.nspace ns spaced).1
    | some ns' =>
      rw [spaced, spaced'] at same
      exact congrArg some same

end IsPlainName

namespace Resource
variable {apiVersion apiVersion' kind kind' name name' : String} {nspace nspace' : Option String}

/-- Objects with plain names have the same id only if they are named alike. -/
theorem fallbackId_inj (plain : IsPlainName kind nspace name)
    (plain' : IsPlainName kind' nspace' name')
    (same : fallbackId apiVersion kind nspace name = fallbackId apiVersion' kind' nspace' name') :
    apiVersion = apiVersion' ∧ kind = kind' ∧ nspace = nspace' ∧ name = name' := by
  unfold fallbackId at same
  obtain ⟨same, same_name⟩ := append_slash_inj plain.name plain'.name same
  obtain ⟨same, same_nspace⟩ := append_slash_inj plain.single_nspace plain'.single_nspace same
  obtain ⟨same_apiVersion, same_kind⟩ := append_slash_inj plain.kind plain'.kind same
  exact ⟨same_apiVersion, same_kind, plain.nspace_inj plain' same_nspace, same_name⟩

/-- The id of a document without a uid. -/
theorem id_of_ofDocument {d : Document} {resource : Resource} (anonymous : d.uid? = none)
    (remodelled : ofDocument d = .ok resource) : resource.id =
      fallbackId resource.apiVersion resource.kind resource.nspace resource.name := by
  unfold ofDocument at remodelled
  split at remodelled
  · cases remodelled
  · cases remodelled
    simp [anonymous]

end Resource

namespace Document

/-- The kind, the namespace and the name of a document, if it has one, are plain. -/
def IsPlainlyNamed (d : Document) : Prop :=
  ∀ name, d.name? = some name → IsPlainName d.kind d.nspace? name

theorem IsPlainlyNamed.of_ofDocument {d : Document} {resource : Resource}
    (plain : d.IsPlainlyNamed) (remodelled : Resource.ofDocument d = .ok resource) :
    IsPlainName resource.kind resource.nspace resource.name := by
  have same := identity_of_ofDocument remodelled
  simp only [identity, Prod.mk.injEq] at same
  obtain ⟨-, kind, nspace, name⟩ := same
  rw [← kind, ← nspace]
  exact plain resource.name name

theorem uid?_ofReference (q : Reference) : (ofReference q).uid? = none := by
  cases spaced : q.nspace <;>
    simp [uid?, metaText?, metadata?, ofReference, Entries.get?, Json.get?, spaced]

end Document

/-- Objects without a uid, whose names are plain, have the same id exactly if they have the same
`apiVersion`, kind, namespace and name. So the snapshots of references with plain names have the
same id only if the references are the same. -/
theorem same_id_iff_same_object :
    (∀ (d e : Document) (resource other : Resource), d.uid? = none → e.uid? = none →
      Resource.ofDocument d = .ok resource → Resource.ofDocument e = .ok other →
      d.IsPlainlyNamed → e.IsPlainlyNamed →
      (resource.id = other.id ↔ d.identity = e.identity)) ∧
    ∀ q q' : Reference, IsPlainName q.kind q.nspace q.name →
      IsPlainName q'.kind q'.nspace q'.name →
      ∃ snapshot other, Resource.ofDocument (Document.ofReference q) = .ok snapshot ∧
        Resource.ofDocument (Document.ofReference q') = .ok other ∧
        (snapshot.id = other.id ↔ q = q') := by
  have named_alike (resource other : Resource)
      (id : resource.id =
        Resource.fallbackId resource.apiVersion resource.kind resource.nspace resource.name)
      (id' : other.id = Resource.fallbackId other.apiVersion other.kind other.nspace other.name)
      (plain : IsPlainName resource.kind resource.nspace resource.name)
      (plain' : IsPlainName other.kind other.nspace other.name) :
      resource.id = other.id ↔ resource.reference = other.reference := by
    simp only [Resource.reference, Reference.mk.injEq]
    constructor
    · intro same
      rw [id, id'] at same
      exact Resource.fallbackId_inj plain plain' same
    · rintro ⟨apiVersion, kind, nspace, name⟩
      rw [id, id', apiVersion, kind, nspace, name]
  constructor
  · intro d e resource other anonymous anonymous' remodelled remodelled' plain plain'
    rw [named_alike resource other (Resource.id_of_ofDocument anonymous remodelled)
      (Resource.id_of_ofDocument anonymous' remodelled') (plain.of_ofDocument remodelled)
      (plain'.of_ofDocument remodelled'), Document.identity_of_ofDocument remodelled,
      Document.identity_of_ofDocument remodelled']
    simp [Resource.reference]
  · intro q q' plain plain'
    obtain ⟨snapshot, remodelled, apiVersion, kind, nspace, name⟩ :=
      Resource.ofDocument_ofReference q
    obtain ⟨other, remodelled', apiVersion', kind', nspace', name'⟩ :=
      Resource.ofDocument_ofReference q'
    refine ⟨snapshot, other, remodelled, remodelled', ?_⟩
    have reference : snapshot.reference = q := by
      rw [Resource.reference, apiVersion, kind, nspace, name]
    have reference' : other.reference = q' := by
      rw [Resource.reference, apiVersion', kind', nspace', name']
    rw [named_alike snapshot other
      (Resource.id_of_ofDocument (Document.uid?_ofReference q) remodelled)
      (Resource.id_of_ofDocument (Document.uid?_ofReference q') remodelled')
      (by rwa [kind, nspace, name]) (by rwa [kind', nspace', name']), reference, reference']

def slashedGroup : Reference := ⟨"a/b/v1", "Widget", none, "w"⟩

def inNamespace : Reference := ⟨"a/b", "v1", some "Widget", "w"⟩

theorem isPlainName_slashedGroup :
    IsPlainName slashedGroup.kind slashedGroup.nspace slashedGroup.name where
  kind := by decide
  nspace := nofun
  name := by decide

theorem isPlainName_inNamespace :
    IsPlainName inNamespace.kind inNamespace.nspace inNamespace.name where
  kind := by decide
  nspace := by
    rintro ns ⟨⟩
    decide
  name := by decide

/-- The widget of the group that holds a slash, with a uid that is no text. -/
def oddWidget : Document :=
  ⟨[("apiVersion", .string "a/b/v1"), ("kind", .string "Widget"),
    ("metadata", .object [("name", .string "w"), ("uid", .bool true)])]⟩

/-- An absent namespace keeps its place between two slashes. -/
theorem same_id_iff_same_object_of_shifted :
    (∃ resource other, Resource.ofDocument oddWidget = .ok resource ∧
      Resource.ofDocument (Document.ofReference inNamespace) = .ok other ∧
      oddWidget.uid? = none ∧ (Document.ofReference inNamespace).uid? = none ∧
      oddWidget.IsPlainlyNamed ∧ (Document.ofReference inNamespace).IsPlainlyNamed ∧
      resource.id ≠ other.id) ∧
    IsPlainName slashedGroup.kind slashedGroup.nspace slashedGroup.name ∧
    IsPlainName inNamespace.kind inNamespace.nspace inNamespace.name ∧
    ∃ snapshot other, Resource.ofDocument (Document.ofReference slashedGroup) = .ok snapshot ∧
      Resource.ofDocument (Document.ofReference inNamespace) = .ok other ∧
      snapshot.id ≠ other.id := by
  constructor
  · have named : oddWidget.IsPlainlyNamed := by
      rintro name ⟨⟩
      exact isPlainName_slashedGroup
    have named' : (Document.ofReference inNamespace).IsPlainlyNamed := by
      rintro name ⟨⟩
      exact isPlainName_inNamespace
    obtain ⟨resource, remodelled⟩ : ∃ resource, Resource.ofDocument oddWidget = .ok resource :=
      ⟨_, rfl⟩
    obtain ⟨other, remodelled', -⟩ := Resource.ofDocument_ofReference inNamespace
    have anonymous := Document.uid?_ofReference inNamespace
    refine ⟨resource, other, remodelled, remodelled', rfl, anonymous, named, named', ?_⟩
    exact mt (same_id_iff_same_object.1 oddWidget (Document.ofReference inNamespace) resource other
      rfl anonymous remodelled remodelled' named named').mp (by decide)
  · obtain ⟨snapshot, other, remodelled, remodelled', same⟩ := same_id_iff_same_object.2
      slashedGroup inNamespace isPlainName_slashedGroup isPlainName_inNamespace
    exact ⟨isPlainName_slashedGroup, isPlainName_inNamespace, snapshot, other, remodelled,
      remodelled', mt same.mp (by decide)⟩

end ClusterGraph
