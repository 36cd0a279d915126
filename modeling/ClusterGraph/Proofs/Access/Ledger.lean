import ClusterGraph.Proofs.Access.Acquisition
import ClusterGraph.Proofs.Access.Changes

/-!
# The ledger of a cache

A list of clients in the order in which they were built tells what a cache does if every caller is
done before the next one comes. A caller gets the client of its key unless that is stale. Else the
client is struck out, the front of the ledger is cut until there is room, and a client is built; if
that succeeds, it is written at the end. Where several clients at the front were built at the same
time, an order of the keys tells which of them is cut; where they were not, the order does not
matter (`Ledger.cut_eq_drop`).

Here are the ledger, what is done with a cache, and what every use keeps: no key stands in the
ledger twice, and the ledger is in order and within its bound (`Ledger.Sound.use`).
-/
namespace ClusterGraph

/-! ## Builds -/

/-- What becomes of one build: how long it takes, and the error with which it fails, if it does. -/
structure Trial where
  takes : Nat
  failure : Option BackendError
  deriving DecidableEq

namespace Trial

def result (trial : Trial) (client : Client) : Except BackendError Client :=
  match trial.failure with
  | some e => .error e
  | none => .ok client

/-- Builds as a trial says, over a backend that counts the builds. -/
def build (trial : Trial) : Factory Nat := fun identity scope =>
  .act (World.mapBackend (· + 1)) fun w =>
    (Work.sleep trial.takes).bind fun _ =>
      .done (trial.result ⟨w.backend, identity, scope⟩)

theorem run_build (trial : Trial) (identity : Identity) (scope : Scope) (w : World Nat) :
    (trial.build identity scope).run w =
      (some (trial.result ⟨w.backend, identity, scope⟩),
        { w with now := w.now + trial.takes, backend := w.backend + 1 }) :=
  Work.run_bind_of_some (World.run_sleep trial.takes (w.mapBackend (· + 1))) _

end Trial

/-! ## What is done with a cache -/

/-- What is done with a cache: a client is asked for, an identity is evicted, stale clients are
purged, or time passes. -/
inductive Use where
  | get (identity : Identity) (scope : Scope) (trial : Trial)
  | evict (identity : Identity)
  | purge
  | pass (delay : Nat)
  | setWall (moment : Time.Instant)

/-- What comes of it: a client or an error, or the number of clients that were removed. -/
inductive Use.Outcome where
  | got (result : Except BackendError Client)
  | removed (count : Nat)
  | nothing

/-- What comes of one use of the cache, and what is left. A caller for whom everything ends gets
nothing at all. -/
def World.use (w : World Nat) : Use → Option Use.Outcome × World Nat
  | .get identity scope trial =>
    let (result, w') := (acquireFrom trial.build identity scope).run w
    (result.map .got, w')
  | .evict identity =>
    let cache := w.cache.evict identity
    (some (.removed (w.cache.size - cache.size)), { w with cache := cache })
  | .purge =>
    let (count?, w') := w.purge
    (count?.map .removed, w')
  | .pass delay => (some .nothing, { w with now := w.now + delay })
  | .setWall moment => (some .nothing, { w with wall := moment })

def World.uses (w : World Nat) : List Use → List (Option Use.Outcome) × World Nat
  | [] => ([], w)
  | use :: rest =>
    let (outcome, w') := w.use use
    let (outcomes, last) := w'.uses rest
    (outcome :: outcomes, last)

/-- Clients in the order in which they were built. -/
structure Ledger where
  ttl : Nat
  maxEntries : Nat
  order : KeyOrder
  entries : List (CacheKey × CacheEntry)
  now : Nat
  builds : Nat

namespace Ledger

/-- A ledger without clients, at the start of the clock. -/
def empty (ttl maxEntries : Nat) (order : KeyOrder) : Ledger := ⟨ttl, maxEntries, order, [], 0, 0⟩

/-- The entry of a key, unless its client is stale. -/
def live? (l : Ledger) (key : CacheKey) : Option (CacheKey × CacheEntry) :=
  (l.entries.find? fun e => e.1 = key).filter fun e => l.now < e.2.created + l.ttl

/-- Of the clients that were built when the first one was, that whose key comes first. -/
def front? (rank : CacheKey → Nat) :
    List (CacheKey × CacheEntry) → Option (CacheKey × CacheEntry)
  | [] => none
  | first :: rest =>
    ((first :: rest).filter fun e => e.2.created = first.2.created).argmin fun e => rank e.1

/-- Strikes out one client after another at the front. -/
def cut (rank : CacheKey → Nat) : Nat → List (CacheKey × CacheEntry) → List (CacheKey × CacheEntry)
  | 0, es => es
  | n + 1, es =>
    match front? rank es with
    | some e => cut rank n (es.filter fun o => o.1 ≠ e.1)
    | none => es

/-- What is left when there is room for a client of a key. -/
def others (l : Ledger) (key : CacheKey) : List (CacheKey × CacheEntry) :=
  let others := l.entries.filter fun e => e.1 ≠ key
  cut (l.order (l.builds + 1)) (others.length + 1 - max l.maxEntries 1) others

/-- The client of a key, which is built if it is not there. -/
def get (l : Ledger) (key : CacheKey) (trial : Trial) : Except BackendError Client × Ledger :=
  match l.live? key with
  | some e => (.ok e.2.client, l)
  | none =>
    let result := trial.result (key.clientOf l.builds)
    let now := l.now + trial.takes
    let added :=
      match result with
      | .ok client => [(key, ⟨client, now⟩)]
      | .error _ => []
    (result, { l with entries := l.others key ++ added, now := now, builds := l.builds + 1 })

def keep (l : Ledger) (stays : CacheKey × CacheEntry → Bool) : Use.Outcome × Ledger :=
  (.removed (l.entries.countP fun e => !stays e), { l with entries := l.entries.filter stays })

def use (l : Ledger) : Use → Use.Outcome × Ledger
  | .get identity scope trial =>
    let (result, l') := l.get (keyFor identity scope) trial
    (.got result, l')
  | .evict identity => l.keep fun e => e.1.identity ≠ identity
  | .purge => l.keep fun e => l.now < e.2.created + l.ttl
  | .pass delay => (.nothing, { l with now := l.now + delay })
  | .setWall _ => (.nothing, l)

def uses (l : Ledger) : List Use → List Use.Outcome × Ledger
  | [] => ([], l)
  | use :: rest =>
    let (outcome, l') := l.use use
    let (outcomes, last) := l'.uses rest
    (outcome :: outcomes, last)

/-! ## The front of a ledger -/

section Front
variable {rank : CacheKey → Nat} {es : List (CacheKey × CacheEntry)} {e : CacheKey × CacheEntry}

theorem mem_of_front? (found : front? rank es = some e) : e ∈ es := by
  cases es with
  | nil => cases found
  | cons first rest => exact (List.mem_filter.mp (List.argmin_mem found)).1

theorem front?_eq_none_iff : front? rank es = none ↔ es = [] := by
  cases es with
  | nil => simp [front?]
  | cons first rest => simp [front?]

/-- In a ledger that is in order, the front is the eldest client. -/
theorem eldest?_eq_front? (inOrder : es.Pairwise fun a b => a.2.created ≤ b.2.created) :
    Cache.eldest? rank es = front? rank es := by
  cases es with
  | nil => rfl
  | cons first rest =>
    rw [Cache.eldest?_eq_argmin, front?]
    induction rest using List.reverseRecOn with
    | nil => simp
    | append_singleton rest last ih =>
      rw [← List.cons_append, List.pairwise_append] at inOrder
      obtain ⟨before, -, after⟩ := inOrder
      rw [← List.cons_append, List.argmin_concat, ih before, List.filter_append]
      -- Both sides have the same client so far, which was built when the first one was.
      cases found : ((first :: rest).filter fun e => e.2.created = first.2.created).argmin
          fun e => rank e.1 with
      | none =>
        have listed := List.argmin_eq_none.mp found
        simp at listed
      | some b =>
        have atFirst : b.2.created = first.2.created := by
          simpa using (List.mem_filter.mp (List.argmin_mem found)).2
        have later := after first List.mem_cons_self last (List.mem_singleton_self last)
        by_cases same : last.2.created = first.2.created
        · have listed : [last].filter (fun e => e.2.created = first.2.created) = [last] := by
            simp [same]
          rw [listed, List.argmin_concat, found]
          simp only [Prod.Lex.toLex_lt_toLex, same, atFirst, lt_irrefl, true_and, false_or]
        · have unlisted : [last].filter (fun e => e.2.created = first.2.created) = [] := by
            simp [same]
          rw [unlisted, List.append_nil, found]
          refine if_neg fun earlier => ?_
          simp only [Prod.Lex.toLex_lt_toLex, atFirst] at earlier
          omega

theorem cut_sublist (rank : CacheKey → Nat) (n : Nat) (es : List (CacheKey × CacheEntry)) :
    (cut rank n es).Sublist es := by
  induction n generalizing es with
  | zero => exact List.Sublist.refl es
  | succ n ih =>
    unfold cut
    split
    · exact (ih _).trans List.filter_sublist
    · exact List.Sublist.refl es

theorem length_cut (rank : CacheKey → Nat) (n : Nat) (es : List (CacheKey × CacheEntry)) :
    (cut rank n es).length ≤ es.length - n := by
  induction n generalizing es with
  | zero => exact Nat.le_refl _
  | succ n ih =>
    unfold cut
    split
    · next e found =>
      have fewer : (es.filter fun o => o.1 ≠ e.1).length < es.length :=
        List.length_filter_lt_length_iff_exists.mpr ⟨e, mem_of_front? found, by simp⟩
      have left := ih (es.filter fun o => o.1 ≠ e.1)
      omega
    · next none =>
      rw [front?_eq_none_iff.mp none]
      exact Nat.zero_le _

/-- Where no two clients were built at the same time, the first ones are cut. -/
theorem cut_eq_drop (rank : CacheKey → Nat) (n : Nat) (es : List (CacheKey × CacheEntry))
    (distinct : (es.map Prod.fst).Nodup)
    (apart : es.Pairwise fun a b => a.2.created < b.2.created) : cut rank n es = es.drop n := by
  induction n generalizing es with
  | zero => rfl
  | succ n ih =>
    cases es with
    | nil => rfl
    | cons first rest =>
      obtain ⟨later, apart⟩ := List.pairwise_cons.mp apart
      obtain ⟨new, distinct⟩ := List.nodup_cons.mp distinct
      have alone : rest.filter (fun e => e.2.created = first.2.created) = [] :=
        List.filter_eq_nil_iff.mpr fun e member => by
          have := later e member
          simp
          omega
      have found : front? rank (first :: rest) = some first := by simp [front?, alone]
      have left : (first :: rest).filter (fun o => o.1 ≠ first.1) = rest := by
        have all : rest.filter (fun o => o.1 ≠ first.1) = rest :=
          List.filter_eq_self.mpr fun e member => by
            have different : e.1 ≠ first.1 := fun same => new (same ▸ List.mem_map_of_mem member)
            simpa using different
        simpa using all
      rw [cut, found]
      dsimp only
      rw [left, ih rest distinct apart, List.drop_succ_cons]

end Front

/-! ## Ledgers that are in order -/

/-- No key stands in the ledger twice, the clients stand there in the order in which they were
built, none was built in the future, and there are not too many. -/
structure Sound (l : Ledger) : Prop where
  distinct : (l.entries.map Prod.fst).Nodup
  inOrder : l.entries.Pairwise fun a b => a.2.created ≤ b.2.created
  past : ∀ e ∈ l.entries, e.2.created ≤ l.now
  few : l.entries.length ≤ max l.maxEntries 1

variable {l : Ledger}

theorem sound_empty (ttl maxEntries : Nat) (order : KeyOrder) :
    (empty ttl maxEntries order).Sound :=
  ⟨List.nodup_nil, List.Pairwise.nil, List.forall_mem_nil _, Nat.zero_le _⟩

/-- A later ledger with fewer clients is in order. -/
theorem Sound.lose {entries : List (CacheKey × CacheEntry)} (sound : l.Sound)
    (fewer : entries.Sublist l.entries) {now : Nat} (later : l.now ≤ now) (builds : Nat) :
    Sound { l with entries := entries, now := now, builds := builds } where
  distinct := sound.distinct.sublist (fewer.map Prod.fst)
  inOrder := sound.inOrder.sublist fewer
  past e member := Nat.le_trans (sound.past e (fewer.subset member)) later
  few := Nat.le_trans fewer.length_le sound.few

theorem others_sublist (l : Ledger) (key : CacheKey) : (l.others key).Sublist l.entries :=
  (cut_sublist _ _ _).trans List.filter_sublist

theorem ne_of_mem_others {key : CacheKey} {e : CacheKey × CacheEntry}
    (member : e ∈ l.others key) : e.1 ≠ key := by
  have other := List.mem_filter.mp ((cut_sublist _ _ _).subset member)
  simpa using other.2

theorem length_others (l : Ledger) (key : CacheKey) :
    (l.others key).length + 1 ≤ max l.maxEntries 1 := by
  have left := length_cut (l.order (l.builds + 1))
    ((l.entries.filter fun e => e.1 ≠ key).length + 1 - max l.maxEntries 1)
    (l.entries.filter fun e => e.1 ≠ key)
  unfold others
  dsimp only
  omega

/-- Keys stay distinct if another one is put at the end. -/
theorem nodup_keys_concat {α : Type} {es : List (CacheKey × α)} {key : CacheKey} (value : α)
    (distinct : (es.map Prod.fst).Nodup) (others : ∀ e ∈ es, e.1 ≠ key) :
    ((es ++ [(key, value)]).map Prod.fst).Nodup := by
  rw [List.map_append, List.nodup_append]
  refine ⟨distinct, by simp, ?_⟩
  intro k member k' new
  obtain ⟨e, there, rfl⟩ := List.mem_map.mp member
  obtain rfl : k' = key := by simpa using new
  exact others e there

/-- A client that is built now is written at the end. -/
theorem Sound.add (sound : l.Sound) (key : CacheKey) (takes : Nat) :
    Sound { l with
      entries := l.others key ++ [(key, ⟨key.clientOf l.builds, l.now + takes⟩)]
      now := l.now + takes, builds := l.builds + 1 } where
  distinct :=
    nodup_keys_concat _ (sound.distinct.sublist ((l.others_sublist key).map Prod.fst))
      fun _ => ne_of_mem_others
  inOrder := by
    refine List.pairwise_append.mpr ⟨sound.inOrder.sublist (l.others_sublist key), by simp, ?_⟩
    intro e member e' new
    obtain rfl : e' = _ := List.mem_singleton.mp new
    have before := sound.past e ((l.others_sublist key).subset member)
    exact Nat.le_trans before (Nat.le_add_right _ _)
  past e member := by
    rcases List.mem_append.mp member with old | new
    · have before := sound.past e ((l.others_sublist key).subset old)
      exact Nat.le_trans before (Nat.le_add_right _ _)
    · obtain rfl : e = _ := List.mem_singleton.mp new
      exact Nat.le_refl _
  few := by
    have room := l.length_others key
    simpa using room

theorem Sound.get (sound : l.Sound) (key : CacheKey) (trial : Trial) :
    (l.get key trial).2.Sound := by
  unfold Ledger.get
  split
  · exact sound
  · unfold Trial.result
    cases trial.failure with
    | none => exact sound.add key trial.takes
    | some e =>
      have fewer : (l.others key ++ []).Sublist l.entries := by
        rw [List.append_nil]
        exact l.others_sublist key
      exact sound.lose fewer (Nat.le_add_right _ _) (l.builds + 1)

theorem Sound.use (sound : l.Sound) (u : Use) : (l.use u).2.Sound := by
  cases u with
  | get identity scope trial => exact sound.get (keyFor identity scope) trial
  | evict identity => exact sound.lose List.filter_sublist (Nat.le_refl _) l.builds
  | purge => exact sound.lose List.filter_sublist (Nat.le_refl _) l.builds
  | pass delay => exact sound.lose (List.Sublist.refl _) (Nat.le_add_right _ _) l.builds
  | setWall moment => exact sound

theorem settings_use (l : Ledger) (u : Use) :
    (l.use u).2.ttl = l.ttl ∧ (l.use u).2.maxEntries = l.maxEntries := by
  cases u with
  | get identity scope trial =>
    simp only [use, get]
    split <;> exact ⟨rfl, rfl⟩
  | _ => exact ⟨rfl, rfl⟩

theorem maxEntries_uses (l : Ledger) (us : List Use) :
    (l.uses us).2.maxEntries = l.maxEntries := by
  induction us generalizing l with
  | nil => rfl
  | cons u rest ih => exact (ih (l.use u).2).trans (l.settings_use u).2

theorem now_le_use (l : Ledger) (u : Use) : l.now ≤ (l.use u).2.now := by
  cases u with
  | get identity scope trial =>
    simp only [use, get]
    split
    · exact Nat.le_refl _
    · exact Nat.le_add_right _ _
  | pass delay => exact Nat.le_add_right _ _
  | _ => exact Nat.le_refl _

theorem now_le_uses (l : Ledger) (us : List Use) : l.now ≤ (l.uses us).2.now := by
  induction us generalizing l with
  | nil => exact Nat.le_refl _
  | cons u rest ih => exact Nat.le_trans (l.now_le_use u) (ih (l.use u).2)

/-- Nobody is in the ledger who did not ask. -/
theorem mem_entries_use {u : Use} {e : CacheKey × CacheEntry}
    (member : e ∈ (l.use u).2.entries) :
    e ∈ l.entries ∨ ∃ identity scope trial, u = .get identity scope trial ∧
      e.1.identity = identity := by
  cases u with
  | get identity scope trial =>
    simp only [use, get] at member
    split at member
    · exact .inl member
    · rcases List.mem_append.mp member with old | new
      · exact .inl ((l.others_sublist _).subset old)
      · refine .inr ⟨identity, scope, trial, rfl, ?_⟩
        split at new
        · obtain rfl : e = _ := List.mem_singleton.mp new
          rfl
        · cases new
  | evict identity => exact .inl (List.mem_filter.mp member).1
  | purge => exact .inl (List.mem_filter.mp member).1
  | _ => exact .inl member

end Ledger
end ClusterGraph
