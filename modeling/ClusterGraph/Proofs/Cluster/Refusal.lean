import ClusterGraph.Proofs.Cluster.Outgoing

/-!
# Calls that a client refuses

A client refuses a call for one of six reasons (`ClusterCall.Refused`): a list call for another
namespace before anything is sent, every other call only after the lookup, when it knows whether the
kind is namespaced. A refused call has no request of its own (`outgoing_eq_error_iff`). Any other
call has one, unless its target cannot be sent, which takes a character that no request may hold. A
name that is empty is sent like any other.
-/
namespace ClusterGraph

/-- The answer to a call for another namespace than the one of the client. -/
def ClusterClient.elsewhere (r n : String) : BackendError :=
  .forbidden ("client restricted to namespace " ++ r ++ ", got " ++ n)

/-- The answer of a restricted client to a call for a kind without namespaces. -/
def ClusterClient.clusterWide (r kind : String) : BackendError :=
  .forbidden ("client restricted to namespace " ++ r ++ ", kind " ++ kind ++ " is cluster scoped")

def ClusterClient.homeless : BackendError :=
  .status 400 "BadRequest" "namespace required for namespaced kind"

/-- Why a client does not send the request of a call, and what it answers. -/
inductive ClusterCall.Refused (c : ClusterClient) (server : Server) (call : ClusterCall) :
    BackendError → Prop where
  /-- All objects of another namespace. -/
  | listElsewhere {r n : String} (all : call.isList = true)
      (own : c.restriction = some r) (asked : call.nspace? = some n) (other : r ≠ n) :
      Refused c server call (ClusterClient.elsewhere r n)
  /-- A kind whose resource type is not found. -/
  | undiscovered {k : KindName} {e : BackendError} (begun : call.isBarred c = false)
      (looked : call.lookup? = some k)
      (failed : ((Discovery.ask k).run server).1 = .error e) :
      Refused c server call e
  /-- An object of another namespace. -/
  | objectElsewhere {type : ResourceType} {r n : String} (single : call.isList = false)
      (found : ((Discovery.ask call.kindName).run server).1 = .ok (type, true))
      (own : c.restriction = some r) (asked : call.nspace? = some n) (other : r ≠ n) :
      Refused c server call (ClusterClient.elsewhere r n)
  /-- An object of no namespace, though its kind has some. -/
  | homeless {type : ResourceType} (single : call.isList = false)
      (found : ((Discovery.ask call.kindName).run server).1 = .ok (type, true))
      (free : c.restriction = none) (unasked : call.nspace? = none) :
      Refused c server call ClusterClient.homeless
  /-- An object of a kind without namespaces. -/
  | clusterWide {type : ResourceType} {r : String} (single : call.isList = false)
      (found : ((Discovery.ask call.kindName).run server).1 = .ok (type, false))
      (own : c.restriction = some r) :
      Refused c server call (ClusterClient.clusterWide r call.kindName.kind)
  /-- A document that no request can hold. -/
  | unencodable {path : String} {e : BackendError} (placed : call.place c server = .ok path)
      (unwritten : call.body = .error e) :
      Refused c server call e

/-! ## A server with one resource type -/

/-- A server that answers every request with a list of one resource type, whose objects live in
namespaces. -/
def Server.ofWidgets : Server := fun _ =>
  .ok ⟨200, "\x7b\"groupVersion\":\"example.io/v1\",\"resources\":[\x7b\"name\":\"widgets\","
    ++ "\"singularName\":\"\",\"namespaced\":true,\"kind\":\"Widget\",\"verbs\":[]\x7d]\x7d"⟩

theorem Discovery.run_ask_ofWidgets :
    ((ask ⟨"example.io", "v1", "Widget"⟩).run Server.ofWidgets).1 =
      .ok (⟨"example.io", "example.io/v1", "widgets"⟩, true) := by
  have read : ((ask ⟨"example.io", "v1", "Widget"⟩).run Server.ofWidgets).1.toOption =
      some (⟨"example.io", "example.io/v1", "widgets"⟩, true) := by
    decide +kernel
  cases outcome : ((ask ⟨"example.io", "v1", "Widget"⟩).run Server.ofWidgets).1 with
  | error e =>
    rw [outcome] at read
    cases read
  | ok found =>
    rw [outcome] at read
    exact congrArg Except.ok (Option.some.inj read)

/-! ## The namespace of a call -/

namespace ClusterClient
variable {c : ClusterClient}

theorem nspaceFor_eq_error_iff {requested : Option String} {e : BackendError} :
    c.nspaceFor requested = .error e ↔
      ∃ r n, c.restriction = some r ∧ requested = some n ∧ r ≠ n ∧ e = elsewhere r n := by
  unfold nspaceFor
  cases c.restriction with
  | none => exact ⟨nofun, fun ⟨_, _, own, _⟩ => nomatch own⟩
  | some r =>
    cases requested with
    | none => exact ⟨nofun, fun ⟨_, _, _, asked, _⟩ => nomatch asked⟩
    | some n =>
      dsimp only
      split
      · next same =>
        refine ⟨nofun, ?_⟩
        rintro ⟨_, _, ⟨⟩, ⟨⟩, other, -⟩
        exact absurd same other
      · next other =>
        constructor
        · rintro ⟨⟩
          exact ⟨r, n, rfl, rfl, other, rfl⟩
        · rintro ⟨_, _, ⟨⟩, ⟨⟩, -, rfl⟩
          rfl

/-- A call that is not refused goes to the namespace of the client, or else to its own. -/
theorem nspaceFor_eq_ok_iff {requested nspace : Option String} :
    c.nspaceFor requested = .ok nspace ↔
      nspace = c.restriction.or requested ∧
        ∀ r n, c.restriction = some r → requested = some n → r = n := by
  unfold nspaceFor
  cases c.restriction with
  | none =>
    exact ⟨fun same => ⟨(Except.ok.inj same).symm, nofun⟩, fun same => same.1 ▸ rfl⟩
  | some r =>
    cases requested with
    | none =>
      exact ⟨fun same => ⟨(Except.ok.inj same).symm, nofun⟩, fun same => same.1 ▸ rfl⟩
    | some n =>
      dsimp only
      split
      · next same =>
        constructor
        · rintro ⟨⟩
          exact ⟨rfl, by rintro _ _ ⟨⟩ ⟨⟩; exact same⟩
        · rintro ⟨rfl, -⟩
          rfl
      · next other => exact ⟨nofun, fun ⟨_, same⟩ => absurd (same r n rfl rfl) other⟩

/-- The objects of a kind without namespaces have a path for a client that is not restricted. -/
theorem collection_clusterWide {kind : String} {nspace : Option String} {type : ResourceType}
    {e : BackendError} :
    c.collection kind nspace (type, false) = .error e ↔
      ∃ r, c.restriction = some r ∧ e = clusterWide r kind := by
  unfold collection
  cases c.restriction with
  | none => exact ⟨nofun, fun ⟨_, own, _⟩ => nomatch own⟩
  | some r =>
    constructor
    · rintro ⟨⟩
      exact ⟨r, rfl, rfl⟩
    · rintro ⟨_, ⟨⟩, rfl⟩
      rfl

/-- The objects of a namespaced kind have a path for a client that knows their namespace. -/
theorem collection_namespaced {kind : String} {nspace : Option String} {type : ResourceType}
    {e : BackendError} :
    c.collection kind nspace (type, true) = .error e ↔
      (∃ r n, c.restriction = some r ∧ nspace = some n ∧ r ≠ n ∧ e = elsewhere r n) ∨
        c.restriction = none ∧ nspace = none ∧ e = homeless := by
  rw [← nspaceFor_eq_error_iff]
  unfold collection
  cases known : c.nspaceFor nspace with
  | error e' =>
    constructor
    · rintro ⟨⟩
      exact Or.inl rfl
    · rintro (⟨⟨⟩⟩ | ⟨free, rfl, -⟩)
      · rfl
      · unfold nspaceFor at known
        rw [free] at known
        cases known
  | ok ns =>
    obtain ⟨rfl, -⟩ := nspaceFor_eq_ok_iff.mp known
    cases c.restriction with
    | some r => exact ⟨nofun, nofun⟩
    | none =>
      cases nspace with
      | some n => exact ⟨nofun, nofun⟩
      | none =>
        constructor
        · rintro ⟨⟩
          exact Or.inr ⟨rfl, rfl, rfl⟩
        · rintro (⟨⟨⟩⟩ | ⟨-, -, rfl⟩)
          rfl

end ClusterClient

/-! ## Calls without a request of their own -/

namespace ClusterCall
variable {c : ClusterClient} {server : Server} {call : ClusterCall} {e : BackendError}

/-- A call on one object looks up the kind of the object first. -/
theorem lookup?_of_single (single : call.isList = false) : call.lookup? = some call.kindName := by
  cases call <;> first | rfl | cases single

/-- Only a list call is refused before it is begun. -/
theorem isBarred_of_single (single : call.isList = false) : call.isBarred c = false := by
  cases call <;> first | rfl | cases single

theorem place_of_single (single : call.isList = false) :
    call.place c server = located c server call.kindName call.nspace? := by
  cases call <;> first | rfl | cases single

/-- The path of the objects of a call on one object, once the resource type is known. -/
theorem place_of_found {found : ResourceType × Bool} (single : call.isList = false)
    (known : ((Discovery.ask call.kindName).run server).1 = .ok found) :
    call.place c server = c.collection call.kindName.kind call.nspace? found := by
  rw [place_of_single single, located, known]
  rfl

/-- A list call for another namespace is not begun. -/
theorem isBarred_of_elsewhere {r n : String} (all : call.isList = true)
    (own : c.restriction = some r) (asked : call.nspace? = some n) (other : r ≠ n) :
    call.isBarred c = true := by
  cases call with
  | list q =>
    exact (isBarred_iff c).mpr
      ⟨q, _, rfl, ClusterClient.nspaceFor_eq_error_iff.mpr ⟨r, n, own, asked, other, rfl⟩⟩
  | get q | create d | update q d | delete q => cases all

theorem outgoing_of_place_error (unplaced : call.place c server = .error e) :
    call.outgoing c server = .error e := by
  unfold outgoing
  rw [unplaced]
  rfl

/-- A refused call has no request of its own. -/
theorem Refused.outgoing_eq (refused : Refused c server call e) :
    call.outgoing c server = .error e := by
  cases refused with
  | @listElsewhere r n all own asked other =>
    apply outgoing_of_place_error
    have barred := ClusterClient.nspaceFor_eq_error_iff.mpr ⟨r, n, own, asked, other, rfl⟩
    cases call with
    | list q =>
      simp only [nspace?] at barred
      simp only [place, barred]
      rfl
    | get q | create d | update q d | delete q => cases all
  | undiscovered begun looked failed =>
    exact outgoing_of_place_error (place_of_undiscovered c server begun looked failed)
  | @objectElsewhere _ r n single found own asked other =>
    apply outgoing_of_place_error
    rw [place_of_found single found]
    exact ClusterClient.collection_namespaced.mpr (Or.inl ⟨r, n, own, asked, other, rfl⟩)
  | homeless single found free unasked =>
    apply outgoing_of_place_error
    rw [place_of_found single found]
    exact ClusterClient.collection_namespaced.mpr (Or.inr ⟨free, unasked, rfl⟩)
  | @clusterWide _ r single found own =>
    apply outgoing_of_place_error
    rw [place_of_found single found]
    exact ClusterClient.collection_clusterWide.mpr ⟨r, own, rfl⟩
  | unencodable placed unwritten =>
    unfold outgoing addressed
    rw [placed, unwritten]
    rfl

theorem refused_of_single (single : call.isList = false)
    (unplaced : call.place c server = .error e) : Refused c server call e := by
  have begun : call.isBarred c = false := isBarred_of_single single
  cases outcome : ((Discovery.ask call.kindName).run server).1 with
  | error e' =>
    have looked := lookup?_of_single single
    cases unplaced.symm.trans (place_of_undiscovered c server begun looked outcome)
    exact .undiscovered begun looked outcome
  | ok found =>
    rw [place_of_found single outcome] at unplaced
    obtain ⟨type, _ | _⟩ := found
    · obtain ⟨r, own, rfl⟩ := ClusterClient.collection_clusterWide.mp unplaced
      exact .clusterWide single outcome own
    · obtain ⟨r, n, own, asked, other, rfl⟩ | ⟨free, unasked, rfl⟩ :=
        ClusterClient.collection_namespaced.mp unplaced
      · exact .objectElsewhere single outcome own asked other
      · exact .homeless single outcome free unasked

theorem refused_of_list {q : ListRequest} (unplaced : place c server (.list q) = .error e) :
    Refused c server (.list q) e := by
  simp only [place] at unplaced
  cases refusal : c.nspaceFor q.nspace with
  | error e' =>
    rw [refusal] at unplaced
    cases unplaced
    obtain ⟨r, n, own, asked, other, rfl⟩ := ClusterClient.nspaceFor_eq_error_iff.mp refusal
    exact .listElsewhere rfl own asked other
  | ok nspace =>
    have begun : isBarred c (.list q) = false := by simp [isBarred, refusal, Except.toOption]
    simp only [refusal, listed] at unplaced
    cases named : q.plural with
    | some plural =>
      rw [named] at unplaced
      cases unplaced
    | none =>
      rw [named] at unplaced
      have looked : lookup? (.list q) = some ⟨q.group, q.version, q.kind⟩ := by
        simp only [lookup?, named]
      cases outcome : ((Discovery.ask ⟨q.group, q.version, q.kind⟩).run server).1 with
      | error e' =>
        rw [outcome] at unplaced
        cases unplaced
        exact .undiscovered begun looked outcome
      | ok found =>
        rw [outcome] at unplaced
        cases unplaced

/-- A call without a path for its objects is refused. -/
theorem refused_of_place_error (unplaced : call.place c server = .error e) :
    Refused c server call e := by
  cases call with
  | list q => exact refused_of_list unplaced
  | get q | create d | update q d | delete q => exact refused_of_single rfl unplaced

/-- A call has no request of its own exactly if it is refused, or its target cannot be sent. -/
theorem outgoing_eq_error_iff :
    call.outgoing c server = .error e ↔
      Refused c server call e ∨
        e = unsendable ∧ ∃ path text, call.place c server = .ok path ∧ call.body = .ok text ∧
          Target.sent? (path ++ call.ending) = none := by
  constructor
  · intro unsent
    cases placed : call.place c server with
    | error e' =>
      cases unsent.symm.trans (outgoing_of_place_error placed)
      exact Or.inl (refused_of_place_error placed)
    | ok path =>
      cases written : call.body with
      | error e' =>
        cases unsent.symm.trans (Refused.unencodable placed written).outgoing_eq
        exact Or.inl (.unencodable placed written)
      | ok text =>
        rw [outgoing_of_written c server placed written] at unsent
        cases addressee : Target.sent? (path ++ call.ending) with
        | some target =>
          rw [addressee] at unsent
          cases unsent
        | none =>
          rw [addressee] at unsent
          cases unsent
          exact Or.inr ⟨rfl, path, text, rfl, rfl, addressee⟩
  · rintro (refused | ⟨rfl, path, text, placed, written, addressee⟩)
    · exact refused.outgoing_eq
    · rw [outgoing_of_written c server placed written, addressee]

/-! ## What is sent -/

theorem requests_eq_append (c : ClusterClient) (server : Server) (call : ClusterCall) :
    call.requests c server = call.lookups c server ++ call.objectRequests c server := by
  rw [requests_eq, objectRequests_eq]

/-- At most one lookup is sent, for the kind that has to be looked up. -/
theorem lookups_spec (c : ClusterClient) (server : Server) (call : ClusterCall) :
    (call.lookups c server).length ≤ 1 ∧
      ∀ q ∈ call.lookups c server, q.method = "GET" ∧
        ∃ k, call.lookup? = some k ∧ Target.sent? (Discovery.target k) = some q.target := by
  unfold lookups
  cases call.lookup? with
  | none => exact ⟨Nat.zero_le 1, nofun⟩
  | some k =>
    dsimp only
    split
    · exact ⟨Nat.zero_le 1, nofun⟩
    · rw [Discovery.requests_eq]
      cases sent : Target.sent? (Discovery.target k) with
      | none => exact ⟨Nat.zero_le 1, nofun⟩
      | some target =>
        refine ⟨Nat.le_refl 1, fun q member => ?_⟩
        cases List.mem_singleton.mp member
        exact ⟨rfl, k, rfl, sent⟩

/-- At most one request of the call itself is sent, for the objects that it is about. -/
theorem objectRequests_spec (c : ClusterClient) (server : Server) (call : ClusterCall) :
    (call.objectRequests c server).length ≤ 1 ∧
      ∀ q ∈ call.objectRequests c server, q.method = call.method ∧ call.body = .ok q.body ∧
        ∃ path, call.place c server = .ok path ∧
          Target.sent? (path ++ call.ending) = some q.target := by
  rw [objectRequests_eq]
  cases own : call.outgoing c server with
  | error e => exact ⟨Nat.zero_le 1, nofun⟩
  | ok q =>
    refine ⟨Nat.le_refl 1, fun q' member => ?_⟩
    cases List.mem_singleton.mp member
    obtain ⟨path, text, target, placed, written, sent, rfl⟩ := (outgoing_eq_ok_iff c server).mp own
    exact ⟨rfl, written, path, placed, sent⟩

/-- A call without a request of its own is answered by its refusal. -/
theorem answer_of_unsent (unsent : call.outgoing c server = .error e) :
    call.answer c server = .error e ∧ call.objectRequests c server = [] := by
  rw [answer_eq, objectRequests_eq, unsent]
  exact ⟨rfl, rfl⟩

/-- A refused list call asks for nothing at all. -/
theorem requests_of_listElsewhere {r n : String} (all : call.isList = true)
    (own : c.restriction = some r) (asked : call.nspace? = some n) (other : r ≠ n) :
    call.requests c server = [] := by
  have refused : Refused c server call _ := .listElsewhere all own asked other
  rw [requests_eq_append, (answer_of_unsent refused.outgoing_eq).2, lookups,
    isBarred_of_elsewhere all own asked other]
  cases call.lookup? <;> rfl

/-- Whatever a server answers, a call sends at most one lookup and then at most one request of its
own. A refused call sends none of its own, and a list call for another namespace sends nothing. A
call that succeeds has sent one of its own. A call that has not is refused, or has a target that
cannot be sent. -/
theorem sends_nothing_after_refusal (c : ClusterClient) (server : Server) (call : ClusterCall) :
    call.requests c server = call.lookups c server ++ call.objectRequests c server ∧
      ((call.lookups c server).length ≤ 1 ∧
        ∀ q ∈ call.lookups c server, q.method = "GET" ∧
          ∃ k, call.lookup? = some k ∧ Target.sent? (Discovery.target k) = some q.target) ∧
      ((call.objectRequests c server).length ≤ 1 ∧
        ∀ q ∈ call.objectRequests c server, q.method = call.method ∧ call.body = .ok q.body ∧
          ∃ path, call.place c server = .ok path ∧
            Target.sent? (path ++ call.ending) = some q.target) ∧
      (∀ e, Refused c server call e →
        call.answer c server = .error e ∧ call.objectRequests c server = []) ∧
      (∀ r n, call.isList = true → c.restriction = some r → call.nspace? = some n → r ≠ n →
        call.requests c server = []) ∧
      (∀ objects, call.answer c server = .ok objects →
        (call.objectRequests c server).length = 1) ∧
      (call.objectRequests c server = [] → ∃ e, call.answer c server = .error e ∧
        (Refused c server call e ∨
          e = unsendable ∧ ∃ path text, call.place c server = .ok path ∧ call.body = .ok text ∧
            Target.sent? (path ++ call.ending) = none)) := by
  refine ⟨call.requests_eq_append c server, call.lookups_spec c server,
    call.objectRequests_spec c server, ?_, ?_, ?_, ?_⟩
  · intro e refused
    exact answer_of_unsent refused.outgoing_eq
  · intro r n all own asked other
    exact requests_of_listElsewhere all own asked other
  · intro objects success
    cases own : call.outgoing c server with
    | error e =>
      rw [(answer_of_unsent own).1] at success
      cases success
    | ok q =>
      rw [objectRequests_eq, own]
      rfl
  · intro silent
    cases own : call.outgoing c server with
    | error e => exact ⟨e, (answer_of_unsent own).1, outgoing_eq_error_iff.mp own⟩
    | ok q =>
      rw [objectRequests_eq, own] at silent
      cases silent

/-- An object of one namespace, asked for by a client of another one. -/
def trespass : ClusterCall := .get ⟨"example.io/v1", "Widget", some "team-b", "w"⟩

theorem sends_nothing_after_refusal_of_trespass :
    Refused ⟨some "team-a"⟩ Server.ofWidgets trespass (ClusterClient.elsewhere "team-a" "team-b") ∧
      trespass.answer ⟨some "team-a"⟩ Server.ofWidgets =
        .error (ClusterClient.elsewhere "team-a" "team-b") ∧
      trespass.objectRequests ⟨some "team-a"⟩ Server.ofWidgets = [] ∧
      (trespass.requests ⟨some "team-a"⟩ Server.ofWidgets).length = 1 := by
  have kind : trespass.kindName = ⟨"example.io", "v1", "Widget"⟩ := by decide
  have found := Discovery.run_ask_ofWidgets
  rw [← kind] at found
  have refused : Refused ⟨some "team-a"⟩ Server.ofWidgets trespass
      (ClusterClient.elsewhere "team-a" "team-b") :=
    .objectElsewhere rfl found rfl rfl (by decide)
  obtain ⟨parts, -, -, silent, -⟩ :=
    sends_nothing_after_refusal ⟨some "team-a"⟩ Server.ofWidgets trespass
  obtain ⟨answer, none_sent⟩ := silent _ refused
  refine ⟨refused, answer, none_sent, ?_⟩
  rw [parts, none_sent, List.append_nil]
  exact (Discovery.length_requests Server.ofWidgets trespass.kindName).2 _ found

end ClusterCall
end ClusterGraph
