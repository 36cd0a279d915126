import ClusterGraph.Proofs.Document.Metadata
import ClusterGraph.Proofs.Gateway.Bounded

/-!
# Requests that have been cancelled

Before an errand does anything else it gets its client, and that is a bounded call, which looks for
a cancellation before it is begun. So an errand of a request that has been cancelled leaves
everything as it is, whoever asks: an expired identity keeps its clients, a client that is in the
cache is not used, and nothing is built, called or changed (`Gateway.cancelled_has_no_effect`). Only
a document that cannot be prepared is noticed before.
-/
namespace ClusterGraph

namespace Errand

/-- What is wrong with an errand is wrong with its document or with its patches. -/
theorem stage_of_flaw {e : Errand} {f : Failure} (flawed : Gateway.flaw? e = some f) :
    f.stage = .unmarshal ∨ f.stage = .patchPath := by
  cases e with
  | create raw patches | update reference raw patches =>
    simp only [Gateway.flaw?] at flawed
    cases prepared : Document.prepare raw patches with
    | error cause =>
      rw [prepared] at flawed
      cases flawed
      exact Document.stage_of_prepare raw patches f prepared
    | ok d =>
      rw [prepared] at flawed
      cases flawed
  | get reference | definition name | definitions | resources d version nspace
  | delete reference => cases flawed

end Errand

namespace Gateway
variable {β α : Type} {r : Request} {w : World β}

/-- A call of a request that has been cancelled is not begun. -/
theorem run_bounded_of_already (already : cancelled r.cancelAt w = true) {limit : Nat}
    (operation : String) (call : Call β α) :
    (r.bounded limit operation call).run w =
      if w.now + limit ≤ clockEnd then
        (some (.error (.timeout (operation ++ ": request cancelled"))), w)
      else (none, { w with halted := true }) := by
  by_cases reached : w.now + limit ≤ clockEnd
  · rw [if_pos reached, r.run_bounded_of_reached operation call reached,
      Work.run_bounded_of_cancelled already]
  · rw [if_neg reached, r.run_bounded_of_beyond operation call reached]

/-- An errand of a request that has been cancelled changes nothing, in whatever state it is begun.
It fails for what is wrong with its document, and else because it gets no client, if the clock
reaches the limit of a call. -/
theorem cancelled_has_no_effect (g : Gateway β) (r : Request) (e : Errand) (w : World β)
    (already : cancelled r.cancelAt w = true) :
    let ended := (g.perform r e).run w
    { ended.2 with halted := w.halted } = w ∧
      match flaw? e with
      | some f => (f.stage = .unmarshal ∨ f.stage = .patchPath) ∧ ended = (some (.error f), w)
      | none => w.now + g.callTimeout ≤ clockEnd →
          ended = (some (.error (.of .clientAcquisition
            (.backend (.timeout "client: request cancelled")))), w) := by
  rw [perform_eq, performWith]
  cases flawed : flaw? e with
  | some f => exact ⟨rfl, Errand.stage_of_flaw flawed, rfl⟩
  | none =>
    dsimp only
    rw [run_next, run_stage, run_bounded_of_already already]
    by_cases reached : w.now + g.callTimeout ≤ clockEnd
    · rw [if_pos reached]
      exact ⟨rfl, fun _ => rfl⟩
    · rw [if_neg reached]
      exact ⟨rfl, fun within => absurd within reached⟩

def asksForTeamWidget : Errand := .get ⟨"example.io/v1", "Widget", some "team-a", "w"⟩

/-- A request of a caller whose credential expires. -/
def expiring (cancelAt : Option Nat) : Request :=
  ⟨⟨.bearer "token-a", some ⟨500, 0⟩⟩, ⟨none⟩, none, cancelAt⟩

/-- The client of the caller is in the cache, and the credential has expired since. -/
def lapsed : World Store :=
  { ((perform ⟨Store.backend, 30000, 60000⟩ (expiring none) asksForTeamWidget).run
      (World.start ⟨0, 0⟩ (Cache.empty 600000 256) Store.empty)).2 with wall := ⟨1000, 0⟩ }

theorem cancelled_has_no_effect_of_lapsed :
    let ended := fun cancelAt =>
      ((perform ⟨Store.backend, 30000, 60000⟩ (expiring cancelAt) asksForTeamWidget).run lapsed)
    cancelled (some 0) lapsed = true ∧ lapsed.cache.index.length = 1 ∧
      ended (some 0) = (some (.error (.of .clientAcquisition
        (.backend (.timeout "client: request cancelled")))), lapsed) ∧
      (ended none).2.cache.index.length = 0 := by
  have already : cancelled (some 0) lapsed = true := by decide +kernel
  have unharmed := cancelled_has_no_effect ⟨Store.backend, 30000, 60000⟩ (expiring (some 0))
    asksForTeamWidget lapsed already
  exact ⟨already, by decide +kernel, unharmed.2 (by decide +kernel), by decide +kernel⟩

end Gateway
end ClusterGraph
