import ClusterGraph.Cluster.Client

/-!
# What a call sends

A client looks up the resource type of a kind, unless a list call names the plural. Then it sends at
most one request of the call itself, whose method, target and body are known by then
(`ClusterCall.outgoing`), and its answer is made of the answer to that request alone
(`ClusterCall.run_call`).
-/
namespace ClusterGraph

/-! ## Requests of dialogues -/

theorem Dialogue.run_bind {α β : Type} (server : Server) (d : Dialogue α) (k : α → Dialogue β) :
    (d.bind k).run server =
      (((k (d.run server).1).run server).1,
        (d.run server).2 ++ ((k (d.run server).1).run server).2) := by
  induction d with
  | done a => rfl
  | send request next ih =>
    simp only [Dialogue.bind, run, ih, List.cons_append]

/-- Nothing is sent after an error. -/
theorem Consultation.run_next {α β : Type} (server : Server) (first : Consultation α)
    (f : α → Consultation β) :
    (first.next f).run server =
      match (first.run server).1 with
      | .ok a => (((f a).run server).1, (first.run server).2 ++ ((f a).run server).2)
      | .error e => (.error e, (first.run server).2) := by
  unfold next
  rw [Dialogue.run_bind]
  cases (first.run server).1 with
  | ok a => rfl
  | error e => exact congrArg (Prod.mk _) (List.append_nil _)

/-- What is made of the answer sends nothing. -/
theorem Consultation.run_next_done {α β : Type} (server : Server) (first : Consultation α)
    (f : α → Except BackendError β) :
    (first.next fun a => .done (f a)).run server =
      ((first.run server).1.bind f, (first.run server).2) := by
  rw [run_next]
  cases (first.run server).1 with
  | ok a => exact congrArg (Prod.mk _) (List.append_nil _)
  | error e => rfl

def reading {α : Type} (read : String → Option α) (reply : Except String ServerReply) :
    Except BackendError α := do
  let body ← ServerReply.content reply
  match read body with
  | some a => return a
  | none => .error undecodable

def unsendable : BackendError :=
  .transport "Failed to build request: failed to build request: invalid uri character"

/-- The request with what can be sent of a target, if it has a body. -/
def addressed (method text : String) (body : Except BackendError String) :
    Except BackendError ServerRequest := do
  let body ← body
  match Target.sent? text with
  | some target => return ⟨method, target, body⟩
  | none => .error unsendable

def settled {α : Type} (server : Server) (read : Except String ServerReply → Except BackendError α)
    (request : Except BackendError ServerRequest) : Except BackendError α × List ServerRequest :=
  match request with
  | .ok q => (read (server q), [q])
  | .error e => (.error e, [])

/-! ## Calls -/

inductive ClusterCall where
  | list (request : ListRequest)
  | get (reference : Reference)
  | create (document : Document)
  | update (reference : Reference) (document : Document)
  | delete (reference : Reference)

namespace ClusterCall

def requests (c : ClusterClient) (server : Server) : ClusterCall → List ServerRequest
  | list r => ((c.list r).run server).2
  | get r => ((c.get r).run server).2
  | create d => ((c.create d).run server).2
  | update r d => ((c.update r d).run server).2
  | delete r => ((c.delete r).run server).2

/-- The kind whose resource type has to be looked up first. -/
def lookup? : ClusterCall → Option KindName
  | list r =>
    match r.plural with
    | some _ => none
    | none => some ⟨r.group, r.version, r.kind⟩
  | get r => some (.ofApiVersion r.apiVersion r.kind)
  | create d => some (.ofApiVersion d.apiVersion d.kind)
  | update r _ => some (.ofApiVersion r.apiVersion r.kind)
  | delete r => some (.ofApiVersion r.apiVersion r.kind)

/-- The requests but for the one that looks up the resource type, which is the first. -/
def objectRequests (c : ClusterClient) (server : Server) (call : ClusterCall) :
    List ServerRequest :=
  match call.lookup? with
  | some _ => (call.requests c server).drop 1
  | none => call.requests c server

/-- The resource type that a call is about: the one that is found, or that of the plural named. -/
def type? (server : Server) (call : ClusterCall) : Option ResourceType :=
  match call.lookup?, call with
  | some k, _ => ((Discovery.ask k).run server).1.toOption.map Prod.fst
  | none, list r => r.plural.map (.ofPlural ⟨r.group, r.version, r.kind⟩)
  | none, _ => none

def name? : ClusterCall → Option String
  | list _ => none
  | get r => some r.name
  | create _ => none
  | update r _ => some r.name
  | delete r => some r.name

/-- What stands in a target behind the path of the objects. -/
def ending : ClusterCall → String
  | list _ => "?"
  | get r => "/" ++ r.name
  | create _ => "?"
  | update r _ => "/" ++ r.name ++ "?"
  | delete r => "/" ++ r.name ++ "?"

def method : ClusterCall → String
  | list _ => "GET"
  | get _ => "GET"
  | create _ => "POST"
  | update _ _ => "PUT"
  | delete _ => "DELETE"

def body : ClusterCall → Except BackendError String
  | list _ => .ok ""
  | get _ => .ok ""
  | create d => Wire.body d
  | update _ d => Wire.body d
  | delete _ => .ok "\x7b\x7d"

def isList : ClusterCall → Bool
  | list _ => true
  | _ => false

def kindName : ClusterCall → KindName
  | list r => ⟨r.group, r.version, r.kind⟩
  | get r => .ofApiVersion r.apiVersion r.kind
  | create d => .ofApiVersion d.apiVersion d.kind
  | update r _ => .ofApiVersion r.apiVersion r.kind
  | delete r => .ofApiVersion r.apiVersion r.kind

def nspace? : ClusterCall → Option String
  | list r => r.nspace
  | get r => r.nspace
  | create d => d.nspace?
  | update r _ => r.nspace
  | delete r => r.nspace

def located (c : ClusterClient) (server : Server) (k : KindName) (nspace : Option String) :
    Except BackendError String :=
  ((Discovery.ask k).run server).1.bind (c.collection k.kind nspace)

def listed (server : Server) (r : ListRequest) : Except BackendError ResourceType :=
  match r.plural with
  | some plural => .ok (.ofPlural ⟨r.group, r.version, r.kind⟩ plural)
  | none => ((Discovery.ask ⟨r.group, r.version, r.kind⟩).run server).1.map Prod.fst

def place (c : ClusterClient) (server : Server) : ClusterCall → Except BackendError String
  | list r =>
    (c.nspaceFor r.nspace).bind fun nspace => (listed server r).map fun t => t.path nspace
  | call => located c server call.kindName call.nspace?

def outgoing (c : ClusterClient) (server : Server) (call : ClusterCall) :
    Except BackendError ServerRequest :=
  (call.place c server).bind fun path => addressed call.method (path ++ call.ending) call.body

def documentOf (apiVersion kind : String) (reply : Except String ServerReply) :
    Except BackendError Document :=
  (reading Wire.read? reply).bind (Wire.document apiVersion kind)

/-- What a call makes of the answer to its own request. -/
def understood : ClusterCall → Except String ServerReply → Except BackendError (List Document)
  | list r, reply =>
    (reading Wire.readList? reply).bind fun items => items.mapM (Wire.document r.apiVersion r.kind)
  | get r, reply => (documentOf r.apiVersion r.kind reply).map fun d => [d]
  | create d, reply => (documentOf d.apiVersion d.kind reply).map fun d => [d]
  | update r _, reply => (documentOf r.apiVersion r.kind reply).map fun d => [d]
  | delete _, reply => (reading Wire.answersDeletion reply).map fun _ => []

/-- What a client answers to a call: the objects that it gives back. -/
def answer (c : ClusterClient) (server : Server) : ClusterCall → Except BackendError (List Document)
  | list r => ((c.list r).run server).1
  | get r => ((c.get r).run server).1.map fun d => [d]
  | create d => ((c.create d).run server).1.map fun d => [d]
  | update r d => ((c.update r d).run server).1.map fun d => [d]
  | delete r => ((c.delete r).run server).1.map fun _ => []

/-- A list call that asks for another namespace is not begun. -/
def isBarred (c : ClusterClient) : ClusterCall → Bool
  | list r => (c.nspaceFor r.nspace).toOption.isNone
  | _ => false

def lookups (c : ClusterClient) (server : Server) (call : ClusterCall) : List ServerRequest :=
  match call.lookup? with
  | some k => if call.isBarred c then [] else ((Discovery.ask k).run server).2
  | none => []

end ClusterCall

/-! ## Runs -/

section Runs
variable {α γ : Type} (server : Server)

theorem settled_map (read : Except String ServerReply → Except BackendError α) (f : α → γ)
    (request : Except BackendError ServerRequest) :
    settled server (fun reply => (read reply).map f) request =
      ((settled server read request).1.map f, (settled server read request).2) := by
  cases request <;> rfl

theorem settled_bind (read : Except String ServerReply → Except BackendError α)
    (f : α → Except BackendError γ) (request : Except BackendError ServerRequest) :
    settled server (fun reply => (read reply).bind f) request =
      ((settled server read request).1.bind f, (settled server read request).2) := by
  cases request <;> rfl

/-- A lookup asks for the group and version of the kind. -/
theorem Discovery.requests_eq (k : KindName) :
    ((ask k).run server).2 =
      (Target.sent? (target k)).toList.map fun text => ⟨"GET", text, ""⟩ := by
  unfold ask
  split
  · next unsent =>
    rw [unsent]
    rfl
  · next text sent =>
    rw [Consultation.run_next, sent]
    split
    · next list _ => cases find? list k.kind <;> rfl
    · rfl

/-- A lookup sends one request if it finds anything, and no more than one in any case. -/
theorem Discovery.length_requests (k : KindName) :
    ((ask k).run server).2.length ≤ 1 ∧
      ∀ found, ((ask k).run server).1 = .ok found → ((ask k).run server).2.length = 1 := by
  rw [requests_eq]
  cases unsent : Target.sent? (target k) with
  | some text => exact ⟨Nat.le_refl 1, fun _ _ => rfl⟩
  | none =>
    refine ⟨Nat.zero_le 1, fun found success => ?_⟩
    unfold ask at success
    rw [unsent] at success
    cases success

/-- What is sent after a lookup. -/
theorem Discovery.drop_requests (k : KindName) (own : List ServerRequest)
    (silent : ∀ e, ((ask k).run server).1 = .error e → own = []) :
    (((ask k).run server).2 ++ own).drop 1 = own := by
  obtain ⟨bound, one⟩ := length_requests server k
  cases outcome : ((ask k).run server).1 with
  | ok found =>
    rw [← one found outcome, List.drop_left]
  | error e =>
    rw [silent e outcome, List.append_nil]
    exact List.drop_eq_nil_of_le bound

end Runs

namespace ClusterClient
variable {α : Type} (server : Server) (c : ClusterClient)

theorem run_request (method text body : String) (read : String → Option α) :
    (request method text body read).run server =
      settled server (reading read) (addressed method text (.ok body)) := by
  unfold request addressed
  cases Target.sent? text with
  | none => rfl
  | some target => rfl

theorem run_submit (method text : String) (d : Document) :
    (submit method text d).run server =
      settled server (reading Wire.read?) (addressed method text (Wire.body d)) := by
  unfold submit
  cases Wire.body d with
  | error e => rfl
  | ok body => exact run_request server method text body Wire.read?

theorem run_received (apiVersion kind : String) (call : Consultation (Entries Json)) :
    (received apiVersion kind call).run server =
      ((call.run server).1.bind (Wire.document apiVersion kind), (call.run server).2) :=
  Consultation.run_next_done server call _

theorem run_locate (apiVersion kind : String) (nspace : Option String) :
    (c.locate apiVersion kind nspace).run server =
      (ClusterCall.located c server (.ofApiVersion apiVersion kind) nspace,
        ((Discovery.ask (.ofApiVersion apiVersion kind)).run server).2) :=
  Consultation.run_next_done server _ _

/-- A call that is about one object, after its lookup. -/
theorem run_locate_next (apiVersion kind : String) (nspace : Option String)
    (f : String → Consultation α) (read : Except String ServerReply → Except BackendError α)
    (request : String → Except BackendError ServerRequest)
    (runs : ∀ path, (f path).run server = settled server read (request path)) :
    ((c.locate apiVersion kind nspace).next f).run server =
      let own := settled server read
        ((ClusterCall.located c server (.ofApiVersion apiVersion kind) nspace).bind request)
      (own.1, ((Discovery.ask (.ofApiVersion apiVersion kind)).run server).2 ++ own.2) := by
  rw [Consultation.run_next, run_locate]
  cases ClusterCall.located c server (.ofApiVersion apiVersion kind) nspace with
  | ok path =>
    dsimp only
    rw [runs]
    rfl
  | error e => exact congrArg (Prod.mk _) (List.append_nil _).symm

end ClusterClient

namespace ClusterCall
variable {α : Type} (c : ClusterClient) (server : Server)

/-- A call that is about one object sends its own request after its lookup. -/
theorem run_object (call : ClusterCall) (apiVersion kind : String) (nspace : Option String)
    (f : String → Consultation α) (read : Except String ServerReply → Except BackendError α)
    (form : α → List Document)
    (looked : call.lookups c server =
      ((Discovery.ask (.ofApiVersion apiVersion kind)).run server).2)
    (placed : call.place c server = located c server (.ofApiVersion apiVersion kind) nspace)
    (reads : call.understood = fun reply => (read reply).map form)
    (runs : ∀ path, (f path).run server =
      settled server read (addressed call.method (path ++ call.ending) call.body)) :
    let ran := ((c.locate apiVersion kind nspace).next f).run server
    let own := settled server call.understood (call.outgoing c server)
    (ran.1.map form, ran.2) = (own.1, call.lookups c server ++ own.2) := by
  dsimp only
  rw [looked, ClusterClient.run_locate_next server c apiVersion kind nspace f read _ runs, reads,
    settled_map, outgoing, placed]

/-- The objects of a list call, once its resource type is known. -/
theorem run_list_of_type (r : ListRequest) (type : Consultation ResourceType)
    (nspace : Option String) :
    (type.next fun t =>
        (ClusterClient.request "GET" (t.path nspace ++ "?") "" Wire.readList?).next fun items =>
          .done (items.mapM (Wire.document r.apiVersion r.kind))).run server =
      let own := settled server (list r).understood
        ((type.run server).1.bind fun t => addressed "GET" (t.path nspace ++ "?") (.ok ""))
      (own.1, (type.run server).2 ++ own.2) := by
  rw [Consultation.run_next]
  cases (type.run server).1 with
  | ok t =>
    dsimp only
    rw [Consultation.run_next_done, ClusterClient.run_request, ← settled_bind]
    rfl
  | error e => exact congrArg (Prod.mk _) (List.append_nil _).symm

/-- A list call sends its own request after its lookup, if it needs one and is not barred. -/
theorem run_list (r : ListRequest) :
    (c.list r).run server =
      let own := settled server (list r).understood ((list r).outgoing c server)
      (own.1, (list r).lookups c server ++ own.2) := by
  cases own : c.nspaceFor r.nspace with
  | error e =>
    have unlisted : c.list r = Consultation.fail e := by
      unfold ClusterClient.list
      rw [own]
    have unlooked : (list r).lookups c server = [] := by
      unfold lookups
      have barred : (list r).isBarred c = true := by simp [isBarred, own, Except.toOption]
      rw [barred]
      cases (list r).lookup? <;> rfl
    have unsent : (list r).outgoing c server = .error e := by
      simp only [outgoing, place, own]
      rfl
    rw [unlisted, unlooked, unsent]
    rfl
  | ok nspace =>
    have sent : (list r).outgoing c server =
        (listed server r).bind fun t => addressed "GET" (t.path nspace ++ "?") (.ok "") := by
      simp only [outgoing, place, own]
      cases listed server r <;> rfl
    unfold ClusterClient.list lookups
    have begun : (list r).isBarred c = false := by simp [isBarred, own, Except.toOption]
    rw [own, sent, begun]
    dsimp only
    rw [run_list_of_type]
    simp only [listed, lookup?]
    cases r.plural with
    | some plural => rfl
    | none =>
      dsimp only
      rw [Consultation.run_next_done]
      cases ((Discovery.ask ⟨r.group, r.version, r.kind⟩).run server).1 <;> rfl

/-- A call that gives back a document sends its own request after its lookup. -/
theorem run_document (call : ClusterCall) (apiVersion kind : String) (nspace : Option String)
    (f : String → Consultation (Entries Json))
    (looked : call.lookups c server =
      ((Discovery.ask (.ofApiVersion apiVersion kind)).run server).2)
    (placed : call.place c server = located c server (.ofApiVersion apiVersion kind) nspace)
    (reads : call.understood = fun reply => (documentOf apiVersion kind reply).map fun d => [d])
    (runs : ∀ path, (f path).run server = settled server (reading Wire.read?)
      (addressed call.method (path ++ call.ending) call.body)) :
    let ran := ((c.locate apiVersion kind nspace).next fun path =>
      ClusterClient.received apiVersion kind (f path)).run server
    let own := settled server call.understood (call.outgoing c server)
    (ran.1.map fun d => [d], ran.2) = (own.1, call.lookups c server ++ own.2) := by
  refine run_object c server call apiVersion kind nspace _ (documentOf apiVersion kind)
    (fun d => [d]) looked placed reads fun path => ?_
  rw [ClusterClient.run_received, runs, ← settled_bind]
  rfl

/-- A call is answered by what comes of its own request. -/
theorem run_call (call : ClusterCall) :
    (call.answer c server, call.requests c server) =
      let own := settled server call.understood (call.outgoing c server)
      (own.1, call.lookups c server ++ own.2) := by
  cases call with
  | list r => exact run_list c server r
  | get r =>
    refine run_document c server (.get r) r.apiVersion r.kind r.nspace
      (fun path => ClusterClient.request "GET" (path ++ "/" ++ r.name) "" Wire.read?) rfl rfl rfl
      fun path => ?_
    rw [ClusterClient.run_request, String.append_assoc]
    rfl
  | create d =>
    exact run_document c server (.create d) d.apiVersion d.kind d.nspace?
      (fun path => ClusterClient.submit "POST" (path ++ "?") d) rfl rfl rfl
      fun path => ClusterClient.run_submit server "POST" (path ++ "?") d
  | update r d =>
    refine run_document c server (.update r d) r.apiVersion r.kind r.nspace
      (fun path => ClusterClient.submit "PUT" (path ++ "/" ++ r.name ++ "?") d) rfl rfl rfl
      fun path => ?_
    rw [String.append_assoc, String.append_assoc]
    exact ClusterClient.run_submit server "PUT" _ d
  | delete r =>
    refine run_object c server (.delete r) r.apiVersion r.kind r.nspace
      (fun path => ClusterClient.request "DELETE" (path ++ "/" ++ r.name ++ "?") "\x7b\x7d"
        Wire.answersDeletion) (reading Wire.answersDeletion) (fun _ => []) rfl rfl rfl
      fun path => ?_
    rw [ClusterClient.run_request, String.append_assoc, String.append_assoc]
    rfl

theorem answer_eq (call : ClusterCall) :
    call.answer c server = (settled server call.understood (call.outgoing c server)).1 :=
  congrArg Prod.fst (run_call c server call)

theorem requests_eq (call : ClusterCall) :
    call.requests c server =
      call.lookups c server ++ (settled server call.understood (call.outgoing c server)).2 :=
  congrArg Prod.snd (run_call c server call)

/-- Once its path and its body are known, the request of a call is a matter of its target. -/
theorem outgoing_of_written {call : ClusterCall} {path text : String}
    (placed : call.place c server = .ok path) (written : call.body = .ok text) :
    call.outgoing c server =
      match Target.sent? (path ++ call.ending) with
      | some target => .ok ⟨call.method, target, text⟩
      | none => .error unsendable := by
  unfold outgoing addressed
  rw [placed, written]
  rfl

theorem outgoing_eq_ok_iff {call : ClusterCall} {q : ServerRequest} :
    call.outgoing c server = .ok q ↔
      ∃ path text target, call.place c server = .ok path ∧ call.body = .ok text ∧
        Target.sent? (path ++ call.ending) = some target ∧ q = ⟨call.method, target, text⟩ := by
  constructor
  · intro own
    cases placed : call.place c server with
    | error e =>
      unfold outgoing at own
      rw [placed] at own
      cases own
    | ok path =>
      cases written : call.body with
      | error e =>
        unfold outgoing addressed at own
        rw [placed, written] at own
        cases own
      | ok text =>
        rw [outgoing_of_written c server placed written] at own
        cases sent : Target.sent? (path ++ call.ending) with
        | none =>
          rw [sent] at own
          cases own
        | some target =>
          rw [sent] at own
          cases own
          exact ⟨path, text, target, rfl, rfl, sent, rfl⟩
  · rintro ⟨path, text, target, placed, written, sent, rfl⟩
    rw [outgoing_of_written c server placed written, sent]

theorem isBarred_iff {call : ClusterCall} :
    call.isBarred c = true ↔
      ∃ r e, call = .list r ∧ c.nspaceFor r.nspace = .error e := by
  cases call with
  | list r =>
    simp only [isBarred, list.injEq, exists_and_left, exists_eq_left']
    cases c.nspaceFor r.nspace <;> simp [Except.toOption]
  | get r | create d | update r d | delete r => simp [isBarred]

/-- Where nothing is found, a call that is begun has no place. -/
theorem place_of_undiscovered {call : ClusterCall} {k : KindName} {e : BackendError}
    (begun : call.isBarred c = false) (looked : call.lookup? = some k)
    (failed : ((Discovery.ask k).run server).1 = .error e) : call.place c server = .error e := by
  cases call with
  | list r =>
    simp only [lookup?] at looked
    cases named : r.plural with
    | some plural =>
      rw [named] at looked
      cases looked
    | none =>
      rw [named] at looked
      cases looked
      simp only [place, listed, named, failed]
      cases own : c.nspaceFor r.nspace with
      | error e =>
        rw [(isBarred_iff c).mpr ⟨r, e, rfl, own⟩] at begun
        cases begun
      | ok nspace => rfl
  | get r | create d | update r d | delete r =>
    cases looked
    simp only [place, kindName, located, failed]
    rfl

/-- The request of a call itself, if there is one, is all that is sent after the lookup. -/
theorem objectRequests_eq (call : ClusterCall) :
    call.objectRequests c server =
      (settled server call.understood (call.outgoing c server)).2 := by
  have unsent {e : BackendError} (placed : call.place c server = .error e) :
      (settled server call.understood (call.outgoing c server)).2 = [] := by
    unfold outgoing
    rw [placed]
    rfl
  unfold objectRequests
  rw [requests_eq, lookups]
  cases looked : call.lookup? with
  | none => rfl
  | some k =>
    dsimp only
    split
    · next barred =>
      obtain ⟨r, e, rfl, own⟩ := (isBarred_iff c).mp barred
      have placed : (list r).place c server = .error e := by
        simp only [place, own]
        rfl
      rw [unsent placed]
      rfl
    · next begun =>
      exact Discovery.drop_requests server k _ fun e failed =>
        unsent (place_of_undiscovered c server (eq_false_of_ne_true begun) looked failed)

end ClusterCall
end ClusterGraph
