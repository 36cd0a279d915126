import Mathlib.Data.List.Nodup
import Mathlib.Data.List.Pairwise
import Mathlib.Data.Prod.Lex
import Mathlib.Data.String.Basic
import Mathlib.Order.WithBot
import ClusterGraph.Resource.Connection

/-!
# The order of a connection

Keys are compared as their ranks are in a lexicographic order: the moment of creation, seconds
before nanoseconds, then the namespace, then the name, where what is absent stands below all else
(`NodeKey.notAfter_iff`). So the nodes of a connection are the listed items in the order of their
ranks, those of equal keys as they were listed (`Connection.arranges_ordered`), and items whose keys
are distinct are arranged alike however they were listed (`Connection.ordered_eq_of_perm`).
-/
namespace ClusterGraph

namespace NodeKey

def orBottom {α : Type} : Option α → WithBot α
  | none => ⊥
  | some a => a

/-- What a key is worth: its moment, its namespace and its name, in this order. -/
def Rank : Type := WithBot (ℤ ×ₗ ℕ) ×ₗ WithBot String ×ₗ String

instance : LinearOrder Rank := Prod.Lex.instLinearOrder _ _

def moment (t : Time.Instant) : ℤ ×ₗ ℕ := toLex (t.seconds, t.nanos)

def rank (k : NodeKey) : Rank :=
  toLex (orBottom (k.created.map moment), toLex (orBottom k.nspace, k.name))

theorem orBottom_injective {α : Type} : Function.Injective (orBottom : Option α → WithBot α) := by
  intro a b same
  cases a <;> cases b <;> simp_all [orBottom]

theorem moment_injective : Function.Injective moment := by
  intro a b same
  cases a
  cases b
  simpa [moment] using same

theorem rank_injective : Function.Injective rank := by
  intro a b same
  obtain ⟨created, rest⟩ := Prod.mk.inj (toLex.injective same)
  obtain ⟨nspace, name⟩ := Prod.mk.inj (toLex.injective rest)
  have moments := Option.map_injective moment_injective (orBottom_injective created)
  cases a
  cases b
  simp_all [orBottom_injective.eq_iff]

/-! ## Comparing -/

theorem compareOption_eq {α β : Type} [LinearOrder β] (compare : α → α → Ordering) (f : α → β)
    (same : ∀ a b, compare a b = Ord.compare (f a) (f b)) (x y : Option α) :
    compareOption compare x y = Ord.compare (orBottom (x.map f)) (orBottom (y.map f)) := by
  cases x with
  | none =>
    cases y with
    | none => exact (compare_eq_iff_eq.mpr rfl).symm
    | some b => exact (compare_lt_iff_lt.mpr (WithBot.bot_lt_coe (f b))).symm
  | some a =>
    cases y with
    | none => exact (compare_gt_iff_gt.mpr (WithBot.bot_lt_coe (f a))).symm
    | some b =>
      refine (same a b).trans ?_
      rcases lt_trichotomy (f a) (f b) with less | equal | more
      · rw [compare_lt_iff_lt.mpr less]
        exact (compare_lt_iff_lt.mpr (WithBot.coe_lt_coe.mpr less)).symm
      · rw [compare_eq_iff_eq.mpr equal]
        exact (compare_eq_iff_eq.mpr (congrArg WithBot.some equal)).symm
      · rw [compare_gt_iff_gt.mpr more]
        exact (compare_gt_iff_gt.mpr (WithBot.coe_lt_coe.mpr more)).symm

theorem compare_toLex {α β : Type} [LinearOrder α] [LinearOrder β] (a a' : α) (b b' : β) :
    Ord.compare (toLex (a, b)) (toLex (a', b')) =
      (Ord.compare a a').then (Ord.compare b b') := by
  rw [Prod.Lex.compare_def]
  rfl

theorem compare_moment (a b : Time.Instant) :
    Time.Instant.compare a b = Ord.compare (moment a) (moment b) :=
  (compare_toLex a.seconds b.seconds a.nanos b.nanos).symm

theorem compareText_eq (a b : String) : compareText a b = Ord.compare a b :=
  (LinearOrder.compare_eq_compareOfLessAndEq a b).symm

theorem compare_rank (a b : NodeKey) :
    Ord.compare a.rank b.rank =
      (Ord.compare (orBottom (a.created.map moment)) (orBottom (b.created.map moment))).then
        ((Ord.compare (orBottom a.nspace) (orBottom b.nspace)).then
          (Ord.compare a.name b.name)) :=
  (compare_toLex _ _ _ _).trans (congrArg _ (compare_toLex _ _ _ _))

/-- Keys are compared by their ranks. -/
theorem compare_eq (a b : NodeKey) : compare a b = Ord.compare a.rank b.rank := by
  unfold compare
  rw [compare_rank, Ordering.then_assoc, compareText_eq, compareOption_eq _ moment compare_moment,
    compareOption_eq _ id compareText_eq, Option.map_id]
  rfl

theorem notAfter_iff (a b : NodeKey) : a.notAfter b = true ↔ a.rank ≤ b.rank := by
  unfold notAfter
  rw [compare_eq, ← Ordering.ne_gt_iff_isLE]
  exact compare_le_iff_le

end NodeKey

/-! ## Connections -/

namespace Connection
variable {α : Type} {key : α → NodeKey} {items items' : List α}

/-- A connection of items: all of them, in the order of their ranks, and those of equal keys as they
stand in the list. -/
structure Arranges (key : α → NodeKey) (items : List α) (c : Connection α) : Prop where
  perm : c.nodes.Perm items
  inOrder : c.nodes.Pairwise fun a b => (key a).rank ≤ (key b).rank
  stable : ∀ k, c.nodes.filter (fun a => key a = k) = items.filter (fun a => key a = k)
  count : c.totalCount = items.length

theorem notAfter_trans (key : α → NodeKey) (a b c : α)
    (first : (key a).notAfter (key b) = true) (second : (key b).notAfter (key c) = true) :
    (key a).notAfter (key c) = true := by
  rw [NodeKey.notAfter_iff] at *
  exact le_trans first second

theorem notAfter_total (key : α → NodeKey) (a b : α) :
    ((key a).notAfter (key b) || (key b).notAfter (key a)) = true := by
  rw [Bool.or_eq_true, NodeKey.notAfter_iff, NodeKey.notAfter_iff]
  exact le_total _ _

theorem arranges_ordered (key : α → NodeKey) (items : List α) :
    (ordered key items).Arranges key items where
  perm := List.mergeSort_perm items _
  inOrder := by
    refine (List.pairwise_mergeSort (notAfter_trans key) (notAfter_total key) items).imp ?_
    intro a b before
    exact (NodeKey.notAfter_iff _ _).mp before
  stable k := by
    -- The items of one key are in order as they are listed, so sorting keeps them as they are.
    have alike : (items.filter fun a => key a = k).Pairwise
        fun a b => (key a).notAfter (key b) = true := by
      refine List.pairwise_of_forall_mem_list fun a first b second => ?_
      have mine : key a = k := by simpa using (List.mem_filter.mp first).2
      have yours : key b = k := by simpa using (List.mem_filter.mp second).2
      rw [NodeKey.notAfter_iff, mine, yours]
    have kept := (List.sublist_mergeSort (notAfter_trans key) (notAfter_total key) alike
      List.filter_sublist).filter fun a => key a = k
    simp only [List.filter_filter, Bool.and_self] at kept
    have count := ((List.mergeSort_perm items fun a b => (key a).notAfter (key b)).filter
      fun a => key a = k).length_eq
    exact (kept.eq_of_length count.symm).symm
  count := rfl

/-- Items whose keys are distinct are arranged alike however they are listed. -/
theorem ordered_eq_of_perm (perm : items.Perm items') (distinct : (items.map key).Nodup) :
    ordered key items = ordered key items' := by
  have mine := arranges_ordered key items
  have yours := arranges_ordered key items'
  have nodes : (ordered key items).nodes = (ordered key items').nodes := by
    refine List.Perm.eq_of_pairwise ?_ mine.inOrder yours.inOrder
      (mine.perm.trans (perm.trans yours.perm.symm))
    intro a b first second below above
    have same := NodeKey.rank_injective (le_antisymm below above)
    exact List.inj_on_of_nodup_map distinct (mine.perm.subset first)
      (perm.symm.subset (yours.perm.subset second)) same
  have count : (ordered key items).totalCount = (ordered key items').totalCount := perm.length_eq
  exact congrArg₂ Connection.mk nodes count

end Connection
end ClusterGraph
