import ClusterGraph.Proofs.Store.Uniqueness
import ClusterGraph.Proofs.Time.Timestamp
import ClusterGraph.Resource.Basic

/-!
# Uids, creation times and versions

A store numbers the calls that may change its objects. An object has its uid and its creation time
from the number of the call that created it and its version from the number of the last one that
stored it, whatever the documents say that are sent. So the objects of a store that starts empty are
ordered by the numbers in their uids, and their creation times are ordered in the same way, for as
long as the numbers do not lead past the years of four digits.
-/
namespace ClusterGraph

/-- The object has the uid and the creation time of the call with one number, and the version of the
call with another. -/
structure Document.Bears (d : Document) (number version : Nat) : Prop where
  uid : d.metadata? "uid" = some (.string ("uid-" ++ toString number))
  creationTimestamp : d.metadata? "creationTimestamp" = some (.string (Store.creationTime number))
  resourceVersion : d.metadata? "resourceVersion" = some (.string (toString version))

/-- The object has the uid and the creation time of another one, and a later version. -/
structure Document.Renews (d previous : Document) : Prop where
  uid : d.uid? = previous.uid?
  creationTimestamp : d.metadata? "creationTimestamp" = previous.metadata? "creationTimestamp"
  resourceVersion : ∃ v u : Nat, previous.resourceVersion? = some (toString v) ∧
    d.resourceVersion? = some (toString u) ∧ v < u

namespace Document.Bears
variable {d : Document} {number version : Nat}

theorem uid? (bears : d.Bears number version) : d.uid? = some ("uid-" ++ toString number) := by
  unfold Document.uid? metaText?
  rw [bears.uid]
  rfl

theorem resourceVersion? (bears : d.Bears number version) :
    d.resourceVersion? = some (toString version) := by
  unfold Document.resourceVersion? metaText?
  rw [bears.resourceVersion]
  rfl

end Document.Bears

namespace Store
open Document (MetadataIsObject)

/-- Numbers that are written alike are equal, since the digits give the number back. -/
theorem number_of_text {m n : Nat} (same : toString m = toString n) : m = n := by
  have digits : Nat.toDigits 10 m = Nat.toDigits 10 n := by
    simpa [Nat.repr_eq_ofList_toDigits, String.ofList_inj] using same
  calc
    m = Nat.ofDigitChars 10 (Nat.toDigits 10 m) 0 :=
      (Nat.ofDigitChars_toDigits (by decide) (by decide)).symm
    _ = n := by rw [digits, Nat.ofDigitChars_toDigits (by decide) (by decide)]

theorem uid_injective {m n : Nat} (same : "uid-" ++ toString m = "uid-" ++ toString n) : m = n :=
  number_of_text ((String.append_right_inj "uid-").mp same)

/-- An object bears one number and one version. -/
theorem bears_unique {d : Document} {m n v u : Nat} (one : d.Bears m v) (other : d.Bears n u) :
    m = n ∧ v = u := by
  have uids := one.uid?.symm.trans other.uid?
  have versions := one.resourceVersion?.symm.trans other.resourceVersion?
  exact ⟨uid_injective (Option.some.inj uids), number_of_text (Option.some.inj versions)⟩

/-! ## Creation times -/

/-- The calls of more than a century after the start of counting, one a second, fall into years of
four digits. -/
theorem parse?_creationTime {n : Nat} (few : n < 2 ^ 32) :
    Time.Instant.parse? (creationTime n) = some ⟨epoch + n, 0⟩ := by
  obtain ⟨cycle, year, dayOfYear, month, small, short, sum, -, date⟩ :=
    Time.Date.ofDays_cases ((epoch + n) / Time.Instant.daySeconds)
  have early := Time.Date.lastDay_le year
  unfold Time.Date.daysBefore epoch Time.Instant.daySeconds at sum
  have fifth : cycle = 5 := by omega
  refine Time.Instant.parse?_secondsText (epoch + n) ?_ ?_
  · rw [date]
    dsimp only
    split <;> omega
  · rw [date]
    dsimp only
    split <;> omega

theorem created?_of_bears {d : Document} {n v : Nat} (bears : d.Bears n v) (few : n < 2 ^ 32) :
    d.created? = some ⟨epoch + n, 0⟩ := by
  unfold Document.created? Document.metaText?
  rw [bears.creationTimestamp, Option.bind_some, Json.string?, Option.bind_some]
  exact parse?_creationTime few

/-- Moments are ordered as the numbers of seconds that they lie after the start of counting. -/
theorem compare_creationTime (m n : Nat) :
    Time.Instant.compare ⟨epoch + m, 0⟩ ⟨epoch + n, 0⟩ = compare m n := by
  unfold Time.Instant.compare
  have seconds : compare (epoch + (m : Int)) (epoch + (n : Int)) = compare m n := by
    rcases Nat.lt_trichotomy m n with before | same | after
    · rw [compare_lt_iff_lt.mpr before, compare_lt_iff_lt]
      omega
    · rw [same, compare_eq_iff_eq.mpr rfl, compare_eq_iff_eq.mpr rfl]
    · rw [compare_gt_iff_gt.mpr after, compare_gt_iff_gt]
      omega
  rw [seconds]
  exact Ordering.then_eq

/-! ## Counted calls -/

section Counting
variable {s after : Store} {restriction : Option String} {r : Reference} {d stored : Document}

theorem sequence_of_create (success : s.create restriction d = (.ok stored, after)) :
    after.sequence = s.sequence + 1 := by
  unfold create at success
  split at success
  · cases success
  · dsimp only at success
    split at success
    · cases success
    · cases success
      rfl

theorem sequence_of_update (success : s.update restriction r d = (.ok stored, after)) :
    after.sequence = s.sequence + 1 := by
  unfold update at success
  split at success
  · cases success
  · dsimp only at success
    split at success
    · cases success
    · cases success
      rfl

/-! A call that fails is counted as well, unless it is refused at the door. -/

theorem sequence_create (s : Store) (restriction : Option String) (d : Document) :
    s.sequence ≤ (s.create restriction d).2.sequence ∧
      (s.create restriction d).2.sequence ≤ s.sequence + 1 := by
  unfold create
  split
  · simp
  · dsimp only
    split <;> simp

theorem sequence_update (s : Store) (restriction : Option String) (r : Reference) (d : Document) :
    s.sequence ≤ (s.update restriction r d).2.sequence ∧
      (s.update restriction r d).2.sequence ≤ s.sequence + 1 := by
  unfold update
  split
  · simp
  · dsimp only
    split <;> simp

theorem sequence_delete (s : Store) (restriction : Option String) (r : Reference) :
    (s.delete restriction r).2.sequence = s.sequence := by
  unfold delete
  split
  · rfl
  · dsimp only
    split <;> rfl

end Counting

/-! ## Numbered objects -/

/-- What is created bears the number of the call, whatever the document says. -/
theorem bears_stamped {d : Document} (shape : d.MetadataIsObject) (sequence : Nat) :
    (stamped d sequence).Bears sequence sequence := by
  have first := Document.metadataIsObject_setMeta shape "uid"
    (.string ("uid-" ++ toString sequence))
  have second := Document.metadataIsObject_setMeta first "creationTimestamp"
    (.string (creationTime sequence))
  unfold stamped
  refine ⟨?_, ?_, Document.metadata?_setMeta_self second _ _⟩
  · rw [Document.metadata?_setMeta_of_ne _ (by decide),
      Document.metadata?_setMeta_of_ne _ (by decide), Document.metadata?_setMeta_self shape]
  · rw [Document.metadata?_setMeta_of_ne _ (by decide), Document.metadata?_setMeta_self first]

/-- What replaces an object keeps its number and gets the version of the call, whatever the document
says. -/
theorem bears_replacing {d previous : Document} {number version : Nat} (shape : d.MetadataIsObject)
    (bears : previous.Bears number version) (sequence : Nat) :
    (replacing d previous sequence).Bears number sequence := by
  have replaces := replaces_replacing shape previous sequence
  refine ⟨?_, ?_, replaces.resourceVersion⟩
  · rw [replaces.uid, bears.uid]
    rfl
  · rw [replaces.creationTimestamp, bears.creationTimestamp]
    rfl

/-- One object has been created before another one, and they have different versions. -/
def Precedes (a b : Document) : Prop :=
  ∃ m v n u, a.Bears m v ∧ b.Bears n u ∧ m < n ∧ v ≠ u

namespace Precedes
variable {a b c : Document} {m v u : Nat}

/-- A new version of the earlier object. -/
theorem of_left (precedes : Precedes a b) (marks : a.Bears m v) (bears : c.Bears m u)
    (fresh : ∀ number version, b.Bears number version → u ≠ version) : Precedes c b := by
  obtain ⟨m', v', n, w, one, other, lt, -⟩ := precedes
  obtain ⟨rfl, -⟩ := bears_unique one marks
  exact ⟨_, _, _, _, bears, other, lt, fresh _ _ other⟩

/-- A new version of the later object. -/
theorem of_right (precedes : Precedes b a) (marks : a.Bears m v) (bears : c.Bears m u)
    (fresh : ∀ number version, b.Bears number version → u ≠ version) : Precedes b c := by
  obtain ⟨n, w, m', v', one, other, lt, -⟩ := precedes
  obtain ⟨rfl, -⟩ := bears_unique other marks
  exact ⟨_, _, _, _, one, bears, lt, (fresh _ _ one).symm⟩

end Precedes

/-- Every object bears numbers of calls that have been made, and the objects stand in the order in
which they were created. -/
structure Numbered (s : Store) : Prop where
  marked : ∀ o ∈ s.objects, ∃ number version, o.Bears number version ∧ 1 ≤ number ∧
    number ≤ version ∧ version ≤ s.sequence
  ordered : s.objects.Pairwise Precedes

namespace Numbered
variable {s after : Store} {restriction : Option String} {r : Reference} {d : Document}

/-- A store without objects is numbered. -/
theorem of_bare (bare : s.objects = []) : s.Numbered :=
  ⟨by simp [bare], by simp [bare]⟩

/-- What has been numbered stays so when objects are taken out and calls are made. -/
theorem of_sublist (numbered : s.Numbered) (objects : after.objects.Sublist s.objects)
    (sequence : s.sequence ≤ after.sequence) : after.Numbered := by
  refine ⟨fun o member => ?_, numbered.ordered.sublist objects⟩
  obtain ⟨number, version, bears, first, made, last⟩ := numbered.marked o (objects.subset member)
  exact ⟨number, version, bears, first, made, Nat.le_trans last sequence⟩

theorem fresh (numbered : s.Numbered) {o : Document} (member : o ∈ s.objects) (number version : Nat)
    (bears : o.Bears number version) : s.sequence + 1 ≠ version := by
  obtain ⟨n, u, marks, -, -, last⟩ := numbered.marked o member
  obtain ⟨-, rfl⟩ := bears_unique marks bears
  omega

/-- What is created comes last, with a number that no object bears. -/
theorem create (numbered : s.Numbered) (shape : d.MetadataIsObject) :
    (s.create restriction d).2.Numbered := by
  have counted := (sequence_create s restriction d).1
  rcases outcome : s.create restriction d with ⟨e | stored, after⟩
  · rw [outcome] at counted
    exact numbered.of_sublist (objects_of_create_error outcome ▸ List.Sublist.refl _) counted
  obtain ⟨objects, rfl⟩ := objects_of_create outcome
  have sequence := sequence_of_create outcome
  have bears := bears_stamped (metadataIsObject_named shape (s.sequence + 1)) (s.sequence + 1)
  change after.Numbered
  constructor
  · intro o member
    rw [objects] at member
    rcases List.mem_append.mp member with old | new
    · obtain ⟨number, version, marks, first, made, last⟩ := numbered.marked o old
      exact ⟨number, version, marks, first, made, by omega⟩
    · cases List.mem_singleton.mp new
      exact ⟨_, _, bears, by omega, Nat.le_refl _, sequence.ge⟩
  · rw [objects]
    refine List.pairwise_append.mpr ⟨numbered.ordered, List.pairwise_singleton _ _, ?_⟩
    intro o old new singleton
    cases List.mem_singleton.mp singleton
    obtain ⟨number, version, marks, first, made, last⟩ := numbered.marked o old
    exact ⟨number, version, _, _, marks, bears, by omega, by omega⟩

/-- What is put in the place of an object keeps its number, and its version is that of no other
object. -/
theorem update (numbered : s.Numbered) (shape : d.MetadataIsObject) :
    (s.update restriction r d).2.Numbered := by
  have counted := (sequence_update s restriction r d).1
  rcases outcome : s.update restriction r d with ⟨e | stored, after⟩
  · rw [outcome] at counted
    exact numbered.of_sublist (objects_of_update_error outcome ▸ List.Sublist.refl _) counted
  obtain ⟨early, previous, late, before, -, -, objects, rfl⟩ := objects_of_update outcome
  have sequence := sequence_of_update outcome
  have stood : previous ∈ s.objects := before ▸ by simp
  obtain ⟨m, v, marks, first, made, last⟩ := numbered.marked previous stood
  have bears := bears_replacing shape marks (s.sequence + 1)
  have others : ∀ o ∈ early ++ late, o ∈ s.objects := by
    rw [before]
    exact (List.Sublist.append_left (List.sublist_cons_self previous late) early).subset
  change after.Numbered
  constructor
  · intro o member
    rw [objects, List.perm_middle.mem_iff] at member
    rcases List.mem_cons.mp member with rfl | old
    · exact ⟨_, _, bears, first, by omega, sequence.ge⟩
    · obtain ⟨n, u, marks, first, made, last⟩ := numbered.marked o (others o old)
      exact ⟨n, u, marks, first, made, by omega⟩
  · have ordered := numbered.ordered
    rw [before, List.pairwise_append, List.pairwise_cons] at ordered
    obtain ⟨front, ⟨following, back⟩, across⟩ := ordered
    rw [objects, List.pairwise_append, List.pairwise_cons]
    refine ⟨front, ⟨fun o inLate => ?_, back⟩, fun o inEarly other member => ?_⟩
    · exact (following o inLate).of_left marks bears
        (numbered.fresh (others o (List.mem_append_right early inLate)))
    · rcases List.mem_cons.mp member with rfl | inLate
      · exact (across o inEarly previous List.mem_cons_self).of_right marks bears
          (numbered.fresh (others o (List.mem_append_left late inEarly)))
      · exact across o inEarly other (List.mem_cons_of_mem _ inLate)

theorem delete (numbered : s.Numbered) : (s.delete restriction r).2.Numbered := by
  have counted := sequence_delete s restriction r
  rcases outcome : s.delete restriction r with ⟨e | done, after⟩
  · rw [outcome] at counted
    exact numbered.of_sublist (objects_of_delete_error outcome ▸ List.Sublist.refl _) counted.ge
  · rw [outcome] at counted
    refine numbered.of_sublist ?_ counted.ge
    rw [(deleted_of_delete outcome).objects]
    exact List.filter_sublist

/-- No two objects have the same uid. -/
theorem uids_distinct (numbered : s.Numbered) : (s.objects.map Document.uid?).Nodup := by
  refine List.pairwise_map.mpr (numbered.ordered.imp ?_)
  rintro a b ⟨m, v, n, u, one, other, lt, -⟩ same
  rw [one.uid?, other.uid?] at same
  exact Nat.ne_of_lt lt (uid_injective (Option.some.inj same))

/-- No two objects have the same version. -/
theorem versions_distinct (numbered : s.Numbered) :
    (s.objects.map Document.resourceVersion?).Nodup := by
  refine List.pairwise_map.mpr (numbered.ordered.imp ?_)
  rintro a b ⟨m, v, n, u, one, other, -, different⟩ same
  rw [one.resourceVersion?, other.resourceVersion?] at same
  exact different (number_of_text (Option.some.inj same))

/-- Creation times are ordered as the numbers in the uids. -/
theorem ordered_by_creation (numbered : s.Numbered) (few : s.sequence < 2 ^ 32) {a b : Document}
    (one : a ∈ s.objects) (other : b ∈ s.objects) :
    ∃ (m n : Nat) (t u : Time.Instant), a.uid? = some ("uid-" ++ toString m) ∧
      b.uid? = some ("uid-" ++ toString n) ∧ a.created? = some t ∧ b.created? = some u ∧
      t.compare u = compare m n := by
  obtain ⟨m, v, marks, -, made, last⟩ := numbered.marked a one
  obtain ⟨n, u, marks', -, made', last'⟩ := numbered.marked b other
  exact ⟨m, n, _, _, marks.uid?, marks'.uid?, created?_of_bears marks (by omega),
    created?_of_bears marks' (by omega), compare_creationTime m n⟩

/-- An update that succeeds renews an object where it stands. -/
theorem renewed_of_update (numbered : s.Numbered) (shape : d.MetadataIsObject)
    {stored : Document} (success : s.update restriction r d = (.ok stored, after)) :
    ∃ early previous late, s.objects = early ++ previous :: late ∧
      previous.isNamedBy r = true ∧ after.objects = early ++ stored :: late ∧
      stored.Renews previous := by
  obtain ⟨early, previous, late, before, -, named, objects, rfl⟩ := objects_of_update success
  obtain ⟨number, version, marks, -, -, last⟩ := numbered.marked previous (before ▸ by simp)
  have bears := bears_replacing shape marks (s.sequence + 1)
  refine ⟨early, previous, late, before, named, objects, ?_⟩
  exact ⟨bears.uid?.trans marks.uid?.symm,
    bears.creationTimestamp.trans marks.creationTimestamp.symm, version, s.sequence + 1,
    marks.resourceVersion?, bears.resourceVersion?, by omega⟩

end Numbered

/-! ## Sequences of calls -/

/-- A call that succeeds has been carried out. -/
theorem update_of_run {w left : World Store} {c : Client} {r : Reference} {d stored : Document}
    (success : (backend.update c r d).run w = (some (.ok stored), left)) :
    ∃ after, (w.backend.record (.update r d)).update c.scope.nspace r d = (.ok stored, after) ∧
      left.backend = after := by
  change (enter _ (command _)).run w = _ at success
  rw [run_enter] at success
  dsimp only at success
  split at success
  · cases success
  · obtain ⟨answer, rfl⟩ := Prod.mk.inj success
    exact ⟨_, Prod.ext (Option.some.inj answer) rfl, rfl⟩

namespace Move

/-- A move keeps the objects numbered. -/
theorem numbered_next {w : World Store} (numbered : w.backend.Numbered) (move : Move)
    (sound : move.Sound) : (move.next w).backend.Numbered := by
  have recorded (call : RecordedCall) : (w.backend.record call).Numbered :=
    ⟨numbered.marked, numbered.ordered⟩
  cases move with
  | create c d =>
    change ((enter _ (command _)).run w).2.backend.Numbered
    rw [backend_run_enter]
    split
    · exact recorded _
    · exact (recorded _).create sound
  | update c r d =>
    change ((enter _ (command _)).run w).2.backend.Numbered
    rw [backend_run_enter]
    split
    · exact recorded _
    · exact (recorded _).update sound
  | delete c r =>
    change ((enter _ (command _)).run w).2.backend.Numbered
    rw [backend_run_enter]
    split
    · exact recorded _
    · exact (recorded _).delete
  | arrange failures delay => exact ⟨numbered.marked, numbered.ordered⟩

/-- A move counts at most once. -/
theorem sequence_next (w : World Store) (move : Move) :
    (move.next w).backend.sequence ≤ w.backend.sequence + 1 := by
  cases move with
  | create c d =>
    change ((enter _ (command _)).run w).2.backend.sequence ≤ _
    rw [backend_run_enter]
    split
    · exact Nat.le_succ _
    · exact (sequence_create _ _ _).2
  | update c r d =>
    change ((enter _ (command _)).run w).2.backend.sequence ≤ _
    rw [backend_run_enter]
    split
    · exact Nat.le_succ _
    · exact (sequence_update _ _ _ _).2
  | delete c r =>
    change ((enter _ (command _)).run w).2.backend.sequence ≤ _
    rw [backend_run_enter]
    split
    · exact Nat.le_succ _
    · rw [sequence_delete]
      exact Nat.le_succ _
  | arrange failures delay => exact Nat.le_succ _

/-- From an empty store on, moves keep the objects numbered, with no more numbers than moves. -/
theorem numbered_run (w : World Store) (bare : w.backend.objects = [])
    (start : w.backend.sequence = 0) (moves : List Move) (sound : ∀ move ∈ moves, move.Sound) :
    (run moves w).backend.Numbered ∧ (run moves w).backend.sequence ≤ moves.length := by
  induction moves using List.reverseRecOn with
  | nil => exact ⟨.of_bare bare, start.le⟩
  | append_singleton before move ih =>
    obtain ⟨numbered, counted⟩ := ih fun other member => sound other (by simp [member])
    rw [run_concat]
    refine ⟨numbered_next numbered move (sound move (by simp)), ?_⟩
    have next := sequence_next (run before w) move
    rw [List.length_append, List.length_singleton]
    omega

/-- After any moves from an empty store, uids are distinct, versions are distinct numbers of calls
that have been made, updates that succeed renew an object, and the objects are ordered by creation
as their uids are numbered. -/
theorem versions_of_run (w : World Store) (bare : w.backend.objects = [])
    (start : w.backend.sequence = 0) (moves : List Move) (few : moves.length < 2 ^ 32)
    (sound : ∀ move ∈ moves, move.Sound) :
    let s := (run moves w).backend
    (∀ o ∈ s.objects, ∃ uid, o.uid? = some uid) ∧ (s.objects.map Document.uid?).Nodup ∧
    (∀ o ∈ s.objects, ∃ v : Nat, o.resourceVersion? = some (toString v) ∧ 1 ≤ v ∧
      v ≤ s.sequence) ∧ (s.objects.map Document.resourceVersion?).Nodup ∧
    (∀ c r d stored left, d.MetadataIsObject →
      (backend.update c r d).run (run moves w) = (some (.ok stored), left) →
      ∃ early previous late, s.objects = early ++ previous :: late ∧
        previous.isNamedBy r = true ∧ left.backend.objects = early ++ stored :: late ∧
        stored.Renews previous) ∧
    ∀ a ∈ s.objects, ∀ b ∈ s.objects, ∃ (m n : Nat) (t u : Time.Instant),
      a.uid? = some ("uid-" ++ toString m) ∧ b.uid? = some ("uid-" ++ toString n) ∧
      a.created? = some t ∧ b.created? = some u ∧ t.compare u = compare m n := by
  obtain ⟨numbered, counted⟩ := numbered_run w bare start moves sound
  refine ⟨?_, numbered.uids_distinct, ?_, numbered.versions_distinct, ?_, ?_⟩
  · intro o member
    obtain ⟨number, version, marks, -⟩ := numbered.marked o member
    exact ⟨_, marks.uid?⟩
  · intro o member
    obtain ⟨number, version, marks, first, made, last⟩ := numbered.marked o member
    exact ⟨version, marks.resourceVersion?, by omega, last⟩
  · intro c r d stored left shape success
    obtain ⟨after, updated, objects⟩ := update_of_run success
    have recorded : ((run moves w).backend.record (.update r d)).Numbered :=
      ⟨numbered.marked, numbered.ordered⟩
    rw [objects]
    exact recorded.renewed_of_update shape updated
  · intro a one b other
    exact numbered.ordered_by_creation (by omega) one other

/-- A widget that comes with a uid, a creation time and a version of its own. -/
def forged (name : String) : Document :=
  ⟨[("apiVersion", .string "example.io/v1"), ("kind", .string "Widget"),
    ("metadata", .object [("name", .string name), ("uid", .string "uid-1"),
      ("creationTimestamp", .string "1999-01-01T00:00:00Z"), ("resourceVersion", .string "7")])]⟩

/-- Two widgets are created, one again in vain, and the first is updated. -/
def forging : List Move :=
  [.create unrestricted (forged "a"), .create unrestricted (forged "b"),
    .create unrestricted (widget "b"),
    .update unrestricted ⟨"example.io/v1", "Widget", none, "a"⟩ (forged "a")]

theorem sound_forging : ∀ move ∈ forging, move.Sound := by
  have sound : ∀ name, (forged name).MetadataIsObject ∧ (widget name).MetadataIsObject := by
    refine fun name => ⟨fun metadata found => ?_, fun metadata found => ?_⟩
    · cases found
      rfl
    · cases found
      rfl
  simp [forging, Sound, sound]

theorem versions_of_run_of_forging :
    forging.length < 2 ^ 32 ∧ (∀ move ∈ forging, move.Sound) ∧
      (run forging emptySession).backend.objects.map Document.uid? =
        [some "uid-1", some "uid-2"] ∧
      ((run forging emptySession).backend.objects.map Document.uid?).Nodup :=
  ⟨by decide, sound_forging, by decide +kernel,
    (versions_of_run emptySession rfl rfl forging (by decide) sound_forging).2.1⟩

end Move
end Store
end ClusterGraph
