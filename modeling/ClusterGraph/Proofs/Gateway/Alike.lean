import ClusterGraph.Proofs.Gateway.Errand
import ClusterGraph.Proofs.Work.Alike

/-!
# Errands that go alike

The stages of an errand keep work alike, whatever relation of sessions is looked at, as long as it
holds on when the clocks move on and when both sessions halt. So an errand goes alike in two
sessions if its clients are got alike and if the calls that it makes with them go alike
(`Gateway.alike_performWith`).
-/
namespace ClusterGraph

/-- Two results that fail with the same error, or succeed with values that match. -/
inductive Concur {ε α β : Type} (values : α → β → Prop) : Except ε α → Except ε β → Prop where
  | ok (a : α) (b : β) (value : values a b) : Concur values (.ok a) (.ok b)
  | error (e : ε) : Concur values (.error e) (.error e)

theorem Concur.refl {ε α : Type} (r : Except ε α) : Concur Eq r r := by
  cases r with
  | ok a => exact .ok a a rfl
  | error e => exact .error e

theorem Concur.eq {ε α : Type} (r r' : Except ε α) (same : Concur Eq r r') : r = r' := by
  cases same with
  | ok a b value => rw [value]
  | error e => rfl

theorem Concur.eq_of_rel {ε α : Type} (r r' : Option (Except ε α))
    (same : Option.Rel (Concur Eq) r r') : r = r' := by
  cases same with
  | some same => rw [same.eq]
  | none => rfl

/-- A relation of two sessions that holds on when their clocks move on and when both halt. -/
structure Companions {β γ : Type} (sessions : World β → World γ → Prop) : Prop extends
    Work.Paced sessions where
  halts : ∀ w v, sessions w v → sessions { w with halted := true } { v with halted := true }

section Sessions
variable {β γ α δ : Type} {sessions : World β → World γ → Prop} {values : α → δ → Prop}
  {w : World β} {v : World γ}

theorem World.alike_halt (companions : Companions sessions) {a : α} {b : δ} (value : values a b)
    (state : sessions w v) : Work.Alike sessions values (World.halt a) w (World.halt b) v :=
  .both (.wait (companions.halts w v state) (fun _ _ _ => rfl)
    (fun _ _ state => state) fun _ _ state => .done value state)

theorem Request.alike_bounded (companions : Companions sessions) (r : Request) (limit : Nat)
    (operation : String) {call : Call β α} {call' : Call γ δ} (state : sessions w v)
    (alike : Work.Alike sessions (Concur values) call w call' v) :
    Work.Alike sessions (Concur values) (r.bounded limit operation call) w
      (r.bounded limit operation call') v := by
  have clock : w.now = v.now := companions.clock w v state
  refine .both ?_
  rw [clock]
  cases later? v.now limit with
  | none => exact World.alike_halt companions (.error _) state
  | some t => exact alike.bounded companions.toPaced state _ _ (.error _) (.error _)

namespace Gateway

theorem alike_stage {s : Stage} {call : Call β α} {call' : Call γ δ}
    (alike : Work.Alike sessions (Concur values) call w call' v) :
    Work.Alike sessions (Concur values) (stage s call) w (stage s call') v := by
  refine alike.bind ?_
  intro r r' w v same state
  cases same with
  | ok a b value => exact .done (.ok a b value) state
  | error e => exact .done (.error _) state

theorem alike_next {ζ η : Type} {values' : ζ → η → Prop} {first : Operation β α}
    {first' : Operation γ δ} {k : α → Operation β ζ} {k' : δ → Operation γ η}
    (alike : Work.Alike sessions (Concur values) first w first' v)
    (rest : ∀ a b w v, values a b → sessions w v →
      Work.Alike sessions (Concur values') (k a) w (k' b) v) :
    Work.Alike sessions (Concur values') (next first k) w (next first' k') v := by
  refine alike.bind ?_
  intro r r' w v same state
  cases same with
  | ok a b value => exact rest a b w v value state
  | error e => exact .done (.error e) state

end Gateway
end Sessions

/-- Whatever is called with the two clients goes alike. -/
structure Backend.CallsAlike {β : Type} (sessions : World β → World β → Prop) (b : Backend β)
    (c c' : Client) : Prop where
  list : ∀ request w v, sessions w v →
    Work.Alike sessions (Concur Eq) (b.list c request) w (b.list c' request) v
  get : ∀ reference w v, sessions w v →
    Work.Alike sessions (Concur Eq) (b.get c reference) w (b.get c' reference) v
  create : ∀ document w v, sessions w v →
    Work.Alike sessions (Concur Eq) (b.create c document) w (b.create c' document) v
  update : ∀ reference document w v, sessions w v →
    Work.Alike sessions (Concur Eq) (b.update c reference document) w
      (b.update c' reference document) v
  delete : ∀ reference w v, sessions w v →
    Work.Alike sessions (Concur Eq) (b.delete c reference) w (b.delete c' reference) v

namespace Gateway
variable {β : Type} {sessions : World β → World β → Prop} {w v : World β}

theorem alike_consult {α : Type} (companions : Companions sessions) (g : Gateway β) (r : Request)
    {s : Stage} {name : String} {call call' : Call β α} {remodel : α → Except Failure Answer}
    (state : sessions w v) (alike : Work.Alike sessions (Concur Eq) call w call' v) :
    Work.Alike sessions (Concur Eq) (g.consult r s name call remodel) w
      (g.consult r s name call' remodel) v := by
  refine alike_next (alike_stage (r.alike_bounded companions g.callTimeout name state alike)) ?_
  intro a b w v same state
  cases same
  exact .done (.refl (remodel a)) state

/-- An errand goes on alike with clients whose calls go alike. -/
theorem alike_proceedWith (companions : Companions sessions) (g : Gateway β) (r : Request)
    (c c' : Client) (e : Errand) (state : sessions w v)
    (calls : g.backend.CallsAlike sessions c c') :
    Work.Alike sessions (Concur Eq) (g.proceedWith r c e) w (g.proceedWith r c' e) v := by
  cases e with
  | get reference =>
    exact alike_consult companions g r state (calls.get _ w v state)
  | definition name =>
    exact alike_consult companions g r state (calls.get _ w v state)
  | definitions =>
    exact alike_consult companions g r state (calls.list _ w v state)
  | resources d version nspace =>
    exact alike_consult companions g r state (calls.list _ w v state)
  | create raw patches =>
    simp only [proceedWith]
    split
    · exact .done (.error _) state
    · exact alike_consult companions g r state (calls.create _ w v state)
  | update reference raw patches =>
    simp only [proceedWith]
    split
    · exact .done (.error _) state
    · exact alike_consult companions g r state (calls.update _ _ w v state)
  | delete reference =>
    simp only [proceedWith]
    split
    · exact .done (.error _) state
    · exact alike_consult companions g r state (calls.delete _ w v state)

/-- An errand goes alike if its clients are got alike, and the calls of clients that match go
alike. -/
theorem alike_performWith (companions : Companions sessions) (g : Gateway β)
    (same : Client → Client → Prop)
    (calls : ∀ c c', same c c' → g.backend.CallsAlike sessions c c')
    {provider provider' : Identity → Scope → Call β Client} (r : Request) (e : Errand)
    (state : sessions w v)
    (clients : Work.Alike sessions (Concur same) (provider r.identity r.scope) w
      (provider' r.identity r.scope) v) :
    Work.Alike sessions (Concur Eq) (g.performWith provider r e) w
      (g.performWith provider' r e) v := by
  unfold performWith
  split
  · exact .done (.error _) state
  · refine alike_next
      (alike_stage (r.alike_bounded companions g.callTimeout "client" state clients)) ?_
    intro c c' w v matching state
    exact alike_proceedWith companions g r c c' e state (calls c c' matching)

end Gateway
end ClusterGraph
