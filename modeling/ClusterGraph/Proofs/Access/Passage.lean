import ClusterGraph.Proofs.Access.Traffic

/-!
# The places on the way to a client

The work that is left to a caller is a tree of functions, about which nothing can be said by looking
at it. It is always one of a few trees, though, and each of them is a place on the way to a client:
`Passage` names the places, `Passage.work` gives the work that is left at each, and `Passage.next`
says where the next step leads. A `Course` is traffic whose callers are known by their places; it
moves exactly as the traffic does (`Traffic.run_start`).
-/
namespace ClusterGraph

/-- A place on the way to a client. A caller that has a slot and a ticket keeps both up to the end.
-/
inductive Passage where
  /-- Has yet to look whether its identity has expired. -/
  | arriving
  /-- Its identity has expired, and is about to lose its clients. -/
  | expelling
  /-- Is about to look at the clock. -/
  | dating
  | seeking (now : Nat)
  /-- Nothing goes on: the clock has ended. -/
  | stopped
  | entering (slot : Nat)
  /-- Has queued, and looks whether it is its turn. -/
  | checking (slot ticket : Nat)
  | waiting (slot ticket : Nat)
  /-- May go on: there is a client, or it is its turn to build. -/
  | proceeding (slot ticket : Nat)
  | ordering (slot ticket : Nat)
  | building (slot ticket order : Nat)
  /-- The build is over. -/
  | collecting (slot ticket order : Nat)
  /-- The build has succeeded. -/
  | stamping (slot ticket order : Nat)
  | settling (slot ticket order created : Nat)
  /-- The build has failed. -/
  | leaving (slot ticket : Nat) (e : BackendError)
  | sweeping (slot : Nat) (e : BackendError)
  | finished (result : Except BackendError Client)

/-- The key of the clients for an identity within a scope. -/
def keyFor (identity : Identity) (scope : Scope) : CacheKey := ⟨identity, scope.normalized⟩

def CacheKey.clientOf (key : CacheKey) (order : Nat) : Client := ⟨order, key.identity, key.scope⟩

namespace Passage

def first (identity : Identity) : Passage :=
  if identity.isBlank then .finished (.error (.invalidIdentity "empty credential")) else .arriving

def work (identity : Identity) (scope : Scope) : Passage → Call OrderBook Client
  | arriving => letIn OrderBook.build identity scope
  | expelling =>
    .act (World.mapCache (·.evict identity)) fun _ =>
      .done (.error (.invalidIdentity "credential expired"))
  | dating =>
    .look fun w =>
      (Work.step (World.seek (keyFor identity scope) w.now)).bind
        (visit OrderBook.build (keyFor identity scope))
  | seeking now =>
    (Work.step (World.seek (keyFor identity scope) now)).bind
      (visit OrderBook.build (keyFor identity scope))
  | stopped => visit OrderBook.build (keyFor identity scope) none
  | entering slot => visit OrderBook.build (keyFor identity scope) (some slot)
  | checking slot ticket =>
    awaitTurn OrderBook.build (keyFor identity scope) slot (.queued ticket)
  | waiting slot ticket =>
    .wait (World.mayProceed slot ticket) (World.leaveSlot slot ticket) []
      (proceed OrderBook.build (keyFor identity scope) slot ticket)
  | proceeding slot ticket => proceed OrderBook.build (keyFor identity scope) slot ticket
  | ordering slot ticket => buildInto OrderBook.build (keyFor identity scope) slot ticket
  | building slot ticket order =>
    ((OrderBook.watch ((keyFor identity scope).clientOf order)).onAbandon
      (World.leaveSlot slot ticket)).bind (conclude (keyFor identity scope) slot ticket)
  | collecting slot ticket order =>
    ((OrderBook.collect ((keyFor identity scope).clientOf order)).onAbandon
      (World.leaveSlot slot ticket)).bind (conclude (keyFor identity scope) slot ticket)
  | stamping slot ticket order =>
    conclude (keyFor identity scope) slot ticket (.ok ((keyFor identity scope).clientOf order))
  | settling slot _ order created =>
    .act (World.settleSlot slot ⟨(keyFor identity scope).clientOf order, created⟩) fun _ =>
      .done (.ok ((keyFor identity scope).clientOf order))
  | leaving slot ticket e => conclude (keyFor identity scope) slot ticket (.error e)
  | sweeping slot e =>
    .act (World.mapCache (·.sweep (keyFor identity scope) slot)) fun _ => .done (.error e)
  | finished r => .done r

/-- Where the next step of a caller with a key leads, and what it does. -/
def next (key : CacheKey) (w : World OrderBook) : Passage → Passage × World OrderBook
  | arriving => (if key.identity.isExpiredAt w.wall then expelling else dating, w)
  | expelling =>
    (finished (.error (.invalidIdentity "credential expired")),
      w.mapCache (·.evict key.identity))
  | dating => (seeking w.now, w)
  | seeking now =>
    (match (w.seek key now).1 with
      | some slot => entering slot
      | none => stopped, (w.seek key now).2)
  | entering slot =>
    (match (w.enter slot).1 with
      | .hit client => finished (.ok client)
      | .queued ticket => checking slot ticket, (w.enter slot).2)
  | checking slot ticket =>
    (if w.mayProceed slot ticket then proceeding slot ticket else waiting slot ticket, w)
  | waiting slot ticket =>
    (if w.mayProceed slot ticket then proceeding slot ticket else waiting slot ticket, w)
  | proceeding slot ticket =>
    (match w.cache.held? slot with
      | some entry => finished (.ok entry.client)
      | none => ordering slot ticket, w)
  | ordering slot ticket =>
    (building slot ticket w.backend.length,
      w.mapBackend (OrderBook.place key.identity key.scope))
  | building slot ticket order =>
    (if w.backend.isOver order then collecting slot ticket order
      else building slot ticket order, w)
  | collecting slot ticket order =>
    (match w.backend.result (key.clientOf order) with
      | .ok _ => stamping slot ticket order
      | .error e => leaving slot ticket e, w)
  | stamping slot ticket order => (settling slot ticket order w.now, w)
  | settling slot _ order created =>
    (finished (.ok (key.clientOf order)), w.settleSlot slot ⟨key.clientOf order, created⟩)
  | leaving slot ticket e => (sweeping slot e, w.leaveSlot slot ticket)
  | sweeping slot e => (finished (.error e), w.mapCache (·.sweep key slot))
  | p => (p, w)

def isWaiting : Passage → Bool
  | waiting _ _ => true
  | building _ _ _ => true
  | stopped => true
  | _ => false

/-- What is undone when a caller is dropped at a place. -/
def undo (w : World OrderBook) : Passage → World OrderBook
  | waiting slot ticket => w.leaveSlot slot ticket
  | building slot ticket order =>
    (w.mapBackend (OrderBook.finish order .abandoned)).leaveSlot slot ticket
  | _ => w

def slot? : Passage → Option Nat
  | entering slot => some slot
  | checking slot _ => some slot
  | waiting slot _ => some slot
  | proceeding slot _ => some slot
  | ordering slot _ => some slot
  | building slot _ _ => some slot
  | collecting slot _ _ => some slot
  | stamping slot _ _ => some slot
  | settling slot _ _ _ => some slot
  | leaving slot _ _ => some slot
  | sweeping slot _ => some slot
  | _ => none

/-- The build that a caller has started, as long as it may still give a client. -/
def order? : Passage → Option Nat
  | building _ _ order => some order
  | collecting _ _ order => some order
  | stamping _ _ order => some order
  | settling _ _ order _ => some order
  | _ => none

variable (identity : Identity) (scope : Scope)

theorem work_first : (first identity).work identity scope =
    acquireFrom OrderBook.build identity scope := by
  unfold first acquireFrom
  split <;> rfl

/-- A build that gives a client gives the client of that build. -/
theorem result_eq_ok (client c : Client) (b : OrderBook) (h : b.result client = .ok c) :
    c = client := by
  unfold OrderBook.result at h
  split at h
  · exact (Except.ok.inj h).symm
  · cases h
  · cases h

/-- `next` is what the work at a place does next. -/
theorem advance_work (p : Passage) (w : World OrderBook) :
    (p.work identity scope).advance w =
      ((p.next (keyFor identity scope) w).1.work identity scope,
        (p.next (keyFor identity scope) w).2) := by
  cases p with
  | arriving =>
    by_cases h : identity.isExpiredAt w.wall = true
    · have step : next (keyFor identity scope) w arriving = (expelling, w) := by
        simp [next, keyFor, h]
      rw [step]
      simp [work, letIn, Work.look, Work.advance, h]
    · have step : next (keyFor identity scope) w arriving = (dating, w) := by
        simp [next, keyFor, h]
      rw [step]
      simp [work, letIn, Work.look, Work.advance, h, keyFor]
  | seeking now =>
    simp only [work, next, Work.step, Work.bind, Work.advance]
    cases (w.seek (keyFor identity scope) now).1 <;> rfl
  | entering slot =>
    simp only [work, next, visit, Work.step, Work.bind, Work.advance]
    cases (w.enter slot).1 <;> rfl
  | checking slot ticket =>
    simp only [work, next, awaitTurn, Work.look, Work.advance, id]
    split <;> rfl
  | waiting slot ticket =>
    simp only [work, next, Work.advance]
    split <;> rfl
  | proceeding slot ticket =>
    simp only [work, next, proceed, Work.look, Work.advance, id]
    cases w.cache.held? slot <;> rfl
  | building slot ticket order =>
    simp only [work, next, OrderBook.watch, Work.onAbandon, Work.bind, Work.advance,
      CacheKey.clientOf]
    split <;> rfl
  | collecting slot ticket order =>
    simp only [work, next, OrderBook.collect, Work.look, Work.onAbandon, Work.bind, Work.advance,
      id]
    cases h : w.backend.result ((keyFor identity scope).clientOf order) with
    | error e => rfl
    | ok c => rw [result_eq_ok _ _ _ h]
  | stopped => rfl
  | expelling => rfl
  | dating => rfl
  | ordering slot ticket => rfl
  | stamping slot ticket order => rfl
  | settling slot ticket order created => rfl
  | leaving slot ticket e => rfl
  | sweeping slot e => rfl
  | finished r => rfl

theorem isWaiting_work (p : Passage) : (p.work identity scope).isWaiting = p.isWaiting := by
  cases p <;> rfl

theorem undo_work (p : Passage) (w : World OrderBook) :
    (p.work identity scope).undo w = p.undo w := by
  cases p <;> rfl

/-- Only a caller at its end has a result. -/
theorem work_eq_done (p : Passage) (r : Except BackendError Client)
    (h : p.work identity scope = .done r) : p = finished r := by
  cases p with
  | finished s => exact congrArg finished (Work.done.inj h)
  | _ => cases h

/-! ### Where a step leads -/

variable (key : CacheKey) (w : World OrderBook)

/-- A caller keeps its slot, or has just been given it. -/
theorem slot?_next (p : Passage) (n : Nat) (h : (p.next key w).1.slot? = some n) :
    p.slot? = some n ∨ ∃ now, p = seeking now ∧ (w.seek key now).1 = some n := by
  cases p with
  | seeking now =>
    simp only [next] at h
    split at h
    · next slot found =>
      cases h
      exact Or.inr ⟨now, rfl, found⟩
    · cases h
  | checking slot ticket | waiting slot ticket | building slot ticket order
  | collecting slot ticket order =>
    simp only [next] at h
    split at h <;> exact Or.inl h
  | entering slot | proceeding slot ticket =>
    simp only [next] at h
    split at h
    · cases h
    · exact Or.inl h
  | arriving =>
    simp only [next] at h
    split at h <;> cases h
  | expelling | dating | settling slot ticket order created | sweeping slot e => cases h
  | _ => exact Or.inl h

/-- A caller keeps its build, or has just started it. -/
theorem order?_next (p : Passage) (n : Nat) (h : (p.next key w).1.order? = some n) :
    p.order? = some n ∨ ∃ slot ticket, p = ordering slot ticket ∧ n = w.backend.length := by
  cases p with
  | ordering slot ticket => exact Or.inr ⟨slot, ticket, rfl, (Option.some.inj h).symm⟩
  | building slot ticket order =>
    simp only [next] at h
    split at h <;> exact Or.inl h
  | collecting slot ticket order =>
    simp only [next] at h
    split at h
    · exact Or.inl h
    · cases h
  | stamping slot ticket order => exact Or.inl h
  | arriving | seeking now | entering slot | checking slot ticket | waiting slot ticket
  | proceeding slot ticket =>
    simp only [next] at h
    split at h <;> cases h
  | _ => cases h

omit key w in
theorem order?_first (i : Identity) : (first i).order? = none := by
  unfold first
  split <;> rfl

/-- A caller had its client before, or takes it from its slot, or puts it there. -/
theorem client_of_next (p : Passage) (c : Client) (h : (p.next key w).1 = finished (.ok c)) :
    p = finished (.ok c) ∨
      (∃ slot entry, p.slot? = some slot ∧ w.cache.held? slot = some entry ∧ c = entry.client) ∨
        ∃ slot ticket order created,
          p = settling slot ticket order created ∧ c = key.clientOf order := by
  cases p with
  | entering slot =>
    cases found : w.cache.held? slot with
    | some entry =>
      simp only [next, World.enter, found] at h
      cases h
      exact Or.inr (Or.inl ⟨slot, entry, rfl, found, rfl⟩)
    | none =>
      simp only [next, World.enter, found] at h
      cases h
  | proceeding slot ticket =>
    simp only [next] at h
    split at h
    · next entry found =>
      cases h
      exact Or.inr (Or.inl ⟨slot, entry, rfl, found, rfl⟩)
    · cases h
  | settling slot ticket order created =>
    cases h
    exact Or.inr (Or.inr ⟨slot, ticket, order, created, rfl, rfl⟩)
  | finished r => exact Or.inl h
  | arriving | seeking now | checking slot ticket | waiting slot ticket
  | building slot ticket order | collecting slot ticket order =>
    simp only [next] at h
    split at h <;> cases h
  | _ => cases h

/-- Only an expired identity is about to lose its clients. -/
theorem expired_of_next_expelling (p : Passage) (h : (p.next key w).1 = expelling) :
    key.identity.isExpiredAt w.wall = true := by
  cases p with
  | arriving =>
    simp only [next] at h
    split at h
    · next expired => exact expired
    · cases h
  | seeking now | entering slot | checking slot ticket | waiting slot ticket
  | proceeding slot ticket | building slot ticket order | collecting slot ticket order =>
    simp only [next] at h
    split at h <;> cases h
  | _ => cases h

/-- A step changes the builds only if it starts one. -/
theorem backend_next (p : Passage) :
    (p.next key w).2.backend = w.backend ∨
      ∃ slot ticket, p = ordering slot ticket ∧
        (p.next key w).2.backend = w.backend.place key.identity key.scope := by
  cases p with
  | seeking now =>
    left
    simp only [next, World.seek]
    split <;> rfl
  | entering slot =>
    left
    simp only [next, World.enter]
    split <;> rfl
  | ordering slot ticket => exact Or.inr ⟨slot, ticket, rfl, rfl⟩
  | _ => exact Or.inl rfl

theorem wall_next (p : Passage) : (p.next key w).2.wall = w.wall := by
  cases p with
  | seeking now =>
    simp only [next, World.seek]
    split <;> rfl
  | entering slot =>
    simp only [next, World.enter]
    split <;> rfl
  | _ => rfl

end Passage

/-! ## Traffic by places -/

/-- A caller and its place; none once it was dropped. -/
structure Visit where
  identity : Identity
  scope : Scope
  place : Option Passage

namespace Visit

/-- The key of the client that the caller asks for. -/
def key (v : Visit) : CacheKey := keyFor v.identity v.scope

def caller (v : Visit) : Caller :=
  ⟨v.identity, v.scope, v.place.map (Passage.work v.identity v.scope)⟩

theorem place_of_result? (v : Visit) (r : Except BackendError Client)
    (h : v.caller.result? = some r) : v.place = some (.finished r) := by
  obtain ⟨identity, scope, place⟩ := v
  cases place with
  | none => cases h
  | some p =>
    simp only [Caller.result?, caller, Option.map_some] at h
    split at h
    · rename_i s hs
      cases h
      rw [Passage.work_eq_done identity scope p r (Option.some.inj hs)]
    · cases h

end Visit

/-- Traffic whose callers are known by their places. -/
structure Course where
  world : World OrderBook
  visits : List Visit

namespace Course

def traffic (c : Course) : Traffic := ⟨c.world, c.visits.map Visit.caller⟩

def start (ttl maxEntries : Nat) (order : KeyOrder) (wall : Time.Instant) : Course :=
  ⟨World.start wall (Cache.empty ttl maxEntries order) [], []⟩

def step (c : Course) : Move → Course
  | .call identity scope =>
    { c with visits := c.visits ++ [⟨identity, scope, some (Passage.first identity)⟩] }
  | .go k =>
    match c.visits[k]? with
    | some ⟨identity, scope, some p⟩ =>
      let (p, world) := p.next (keyFor identity scope) c.world
      ⟨world, c.visits.set k ⟨identity, scope, some p⟩⟩
    | _ => c
  | .drop k =>
    match c.visits[k]? with
    | some ⟨identity, scope, some p⟩ =>
      if p.isWaiting then ⟨p.undo c.world, c.visits.set k ⟨identity, scope, none⟩⟩ else c
    | _ => c
  | .succeed n => { c with world := c.world.mapBackend (OrderBook.finish n .succeeded) }
  | .fail n e => { c with world := c.world.mapBackend (OrderBook.finish n (.failed e)) }
  | .pass d => { c with world := { c.world with now := c.world.now + d } }
  | .setWall wall => { c with world := { c.world with wall := wall } }
  | .evict identity => { c with world := c.world.mapCache (·.evict identity) }
  | .purge => { c with world := c.world.purge.2 }

def run (c : Course) (moves : List Move) : Course := moves.foldl step c

/-- The traffic that a course describes moves as the course does. -/
theorem traffic_step (c : Course) (m : Move) : (c.step m).traffic = c.traffic.step m := by
  cases m with
  | call identity scope =>
    simp [traffic, step, Traffic.step, Visit.caller, Passage.work_first]
  | go k =>
    simp only [traffic, step, Traffic.step, List.getElem?_map]
    cases hk : c.visits[k]? with
    | none => rfl
    | some v =>
      obtain ⟨identity, scope, place⟩ := v
      cases place with
      | none => rfl
      | some p =>
        simp only [Option.map_some, Visit.caller, Passage.advance_work, List.map_set]
  | drop k =>
    simp only [traffic, step, Traffic.step, List.getElem?_map]
    cases hk : c.visits[k]? with
    | none => rfl
    | some v =>
      obtain ⟨identity, scope, place⟩ := v
      cases place with
      | none => rfl
      | some p =>
        simp only [Option.map_some, Visit.caller, Passage.isWaiting_work, Passage.undo_work]
        split
        · simp [Visit.caller]
        · rfl
  | _ => rfl

theorem traffic_run (c : Course) (moves : List Move) :
    (c.run moves).traffic = c.traffic.run moves := by
  induction moves generalizing c with
  | nil => rfl
  | cons m rest ih =>
    change ((c.step m).run rest).traffic = (c.traffic.step m).run rest
    rw [ih (c.step m), traffic_step]

/-! ### What a move can do -/

inductive Takes (c : Course) : Move → Course → Prop where
  | call (identity : Identity) (scope : Scope) :
    Takes c (.call identity scope)
      ⟨c.world, c.visits ++ [⟨identity, scope, some (Passage.first identity)⟩]⟩
  | go (k : Nat) (identity : Identity) (scope : Scope) (p : Passage)
      (found : c.visits[k]? = some ⟨identity, scope, some p⟩) :
    Takes c (.go k) ⟨(p.next (keyFor identity scope) c.world).2,
      c.visits.set k ⟨identity, scope, some (p.next (keyFor identity scope) c.world).1⟩⟩
  | drop (k : Nat) (identity : Identity) (scope : Scope) (p : Passage)
      (found : c.visits[k]? = some ⟨identity, scope, some p⟩) (waits : p.isWaiting = true) :
    Takes c (.drop k) ⟨p.undo c.world, c.visits.set k ⟨identity, scope, none⟩⟩
  | stay (m : Move) : Takes c m c
  | finish (m : Move) (n : Nat) (p : Progress) :
    Takes c m ⟨c.world.mapBackend (OrderBook.finish n p), c.visits⟩
  | pass (d : Nat) : Takes c (.pass d) ⟨{ c.world with now := c.world.now + d }, c.visits⟩
  | setWall (wall : Time.Instant) :
    Takes c (.setWall wall) ⟨{ c.world with wall := wall }, c.visits⟩
  | evict (identity : Identity) :
    Takes c (.evict identity) ⟨c.world.mapCache (·.evict identity), c.visits⟩
  | purge :
    Takes c .purge ⟨c.world.mapCache fun k => k.purge c.world.now c.world.wall, c.visits⟩
  | halt : Takes c .purge ⟨{ c.world with halted := true }, c.visits⟩

theorem takes_step (c : Course) (m : Move) : c.Takes m (c.step m) := by
  cases m with
  | call identity scope => exact .call identity scope
  | go k =>
    simp only [step]
    split
    · next identity scope p found => exact .go k identity scope p found
    · exact .stay _
  | drop k =>
    simp only [step]
    split
    · next identity scope p found =>
      split
      · next waits => exact .drop k identity scope p found waits
      · exact .stay _
    · exact .stay _
  | succeed n | fail n e => exact .finish _ n _
  | pass d => exact .pass d
  | setWall wall => exact .setWall wall
  | evict identity => exact .evict identity
  | purge =>
    simp only [step, World.purge]
    split
    · exact .halt
    · exact .purge

/-! ### Numbers that callers have -/

def numberOf? (number? : Passage → Option Nat) (c : Course) (k : Nat) : Option Nat :=
  ((c.visits[k]?).bind Visit.place).bind number?

/-- No two callers have the same number. -/
def Distinct (number? : Passage → Option Nat) (c : Course) : Prop :=
  ∀ j k n, c.numberOf? number? j = some n → c.numberOf? number? k = some n → j = k

variable (number? : Passage → Option Nat)

theorem numberOf?_of_place (c : Course) (k : Nat) (v : Visit) (p : Passage)
    (found : c.visits[k]? = some v) (place : v.place = some p) :
    c.numberOf? number? k = number? p := by
  simp [numberOf?, found, place]

theorem place_of_numberOf? (c : Course) (k n : Nat) (h : c.numberOf? number? k = some n) :
    ∃ v p, c.visits[k]? = some v ∧ v.place = some p ∧ number? p = some n := by
  unfold numberOf? at h
  obtain ⟨p, at_place, mine⟩ := Option.bind_eq_some_iff.mp h
  obtain ⟨v, found, place⟩ := Option.bind_eq_some_iff.mp at_place
  exact ⟨v, p, found, place, mine⟩

theorem numberOf?_of_set (c : Course) (w : World OrderBook) (k : Nat) (new : Visit) (j n : Nat)
    (h : numberOf? number? ⟨w, c.visits.set k new⟩ j = some n) :
    (j = k ∧ new.place.bind number? = some n) ∨ (j ≠ k ∧ c.numberOf? number? j = some n) := by
  unfold numberOf? at h
  rw [List.getElem?_set] at h
  split at h
  · next here =>
    split at h
    · exact Or.inl ⟨here.symm, h⟩
    · cases h
  · next elsewhere => exact Or.inr ⟨fun same => elsewhere same.symm, h⟩

/-- Numbers stay distinct when one caller gets to another place with its own number, or with one
beyond those of all others. -/
theorem distinct_of_set (c : Course) (w : World OrderBook) (k : Nat) (new : Visit) (beyond : Nat)
    (distinct : c.Distinct number?) (below : ∀ j n, c.numberOf? number? j = some n → n < beyond)
    (keeps : ∀ n, new.place.bind number? = some n →
      c.numberOf? number? k = some n ∨ n = beyond) :
    Distinct number? ⟨w, c.visits.set k new⟩ := by
  have others (j n : Nat) (elsewhere : j ≠ k) (theirs : c.numberOf? number? j = some n)
      (mine : new.place.bind number? = some n) : False := by
    rcases keeps n mine with old | new_number
    · exact elsewhere (distinct j k n theirs old)
    · have bound := below j n theirs
      omega
  intro i j n hi hj
  rcases numberOf?_of_set number? c w k new i n hi with ⟨rfl, mine⟩ | ⟨other, theirs⟩
  · rcases numberOf?_of_set number? c w i new j n hj with ⟨rfl, _⟩ | ⟨other, theirs⟩
    · rfl
    · exact (others j n other theirs mine).elim
  · rcases numberOf?_of_set number? c w k new j n hj with ⟨rfl, mine⟩ | ⟨_, also⟩
    · exact (others i n other theirs mine).elim
    · exact distinct i j n theirs also

/-- Whoever has just called has no number yet. -/
theorem numberOf?_of_call (c : Course) (identity : Identity) (scope : Scope)
    (none_yet : number? (Passage.first identity) = none) (j n : Nat)
    (h : (c.step (.call identity scope)).numberOf? number? j = some n) :
    c.numberOf? number? j = some n := by
  unfold numberOf? at h ⊢
  rw [step, List.getElem?_append] at h
  split at h
  · exact h
  · obtain ⟨p, at_place, mine⟩ := Option.bind_eq_some_iff.mp h
    obtain ⟨v, found, place⟩ := Option.bind_eq_some_iff.mp at_place
    cases List.mem_singleton.mp (List.mem_of_getElem? found)
    cases place
    rw [none_yet] at mine
    cases mine

end Course

/-- Every run of traffic is that of a course. -/
theorem Traffic.run_start (ttl maxEntries : Nat) (order : KeyOrder) (wall : Time.Instant)
    (moves : List Move) : (Traffic.start ttl maxEntries order wall).run moves =
      ((Course.start ttl maxEntries order wall).run moves).traffic :=
  (Course.traffic_run (Course.start ttl maxEntries order wall) moves).symm

end ClusterGraph
