import ClusterGraph.Resource.Basic

/-!
# Connections

The nodes of a list call in a stable order, by creation time, then namespace, then name, with their
number. An absent time or namespace comes first; texts are compared by code points, which is the
order of their UTF-8 octets. Nodes with equal keys keep the order in which they were listed.
-/
namespace ClusterGraph

structure NodeKey where
  created : Option Time.Instant
  nspace : Option String
  name : String
  deriving DecidableEq, Repr

namespace NodeKey

/-- Compares values that may be absent; absence comes first. -/
def compareOption {α : Type} (compare : α → α → Ordering) : Option α → Option α → Ordering
  | none, none => .eq
  | none, some _ => .lt
  | some _, none => .gt
  | some a, some b => compare a b

def compareText (a b : String) : Ordering :=
  if a < b then .lt else if a = b then .eq else .gt

def compare (a b : NodeKey) : Ordering :=
  ((compareOption Time.Instant.compare a.created b.created).then
    (compareOption compareText a.nspace b.nspace)).then (compareText a.name b.name)

def notAfter (a b : NodeKey) : Bool := (compare a b).isLE

end NodeKey

/-- Ordered nodes and the number of items of the list call that gave them. -/
structure Connection (α : Type) where
  nodes : List α
  totalCount : Nat
  deriving Repr

def Connection.ordered {α : Type} (key : α → NodeKey) (nodes : List α) : Connection α where
  nodes := nodes.mergeSort fun a b => (key a).notAfter (key b)
  totalCount := nodes.length

def Resource.key (r : Resource) : NodeKey := ⟨r.created, r.nspace, r.name⟩

end ClusterGraph
