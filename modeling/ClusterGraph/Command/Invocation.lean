import ClusterGraph.Command.Parameter

/-!
# Invocations

What a command line asks for. It has two levels: words before the command, then the words of the
command. At each level a parameter is named with two dashes, and its value follows an equals sign
or is the next word; after two dashes alone every word stands for itself. A parameter that is not
given at a level takes its value from the environment.

A value is examined only when the word after it has been understood so far that it opens something
new. So of two faults the one in a word that is not understood comes first, even if it is the later
one.
-/
namespace ClusterGraph

inductive Level where
  | top
  | schema
  | query
  deriving DecidableEq, Repr

namespace Level

def parameters : Level → List Parameter
  | top | schema => Parameter.shared
  | query => Parameter.ofQuery ++ Parameter.shared

def parameter? (level : Level) (word : String) : Option Parameter :=
  level.parameters.find? fun p => p.word = word

def ofWord? (word : String) : Option Level :=
  if word = "sdl" then some schema else if word = "query" then some query else none

def helpWord : String := "help"

def request? (level : Level) (word : String) : Option Refusal :=
  if word = "help" then some .helpAsked
  else if level = top ∧ word = "version" then some .versionAsked
  else none

def letterRequest? (level : Level) (letter : Char) : Option Refusal :=
  if letter = 'h' then some .helpAsked
  else if level = top ∧ letter = 'V' then some .versionAsked
  else none

end Level

inductive Word where
  | plain
  | dashes
  | long (name : String) (value : Option String)
  | short (letter : Char)
  deriving DecidableEq, Repr

def Word.of (word : String) : Word :=
  match word.toList with
  | ['-', '-'] => dashes
  | '-' :: '-' :: cs =>
    long (.ofList (cs.takeWhile (· != '=')))
      (match cs.dropWhile (· != '=') with
      | [] => none
      | _ :: value => some (.ofList value))
  | '-' :: c :: _ => short c
  | _ => plain

structure Reading where
  given : Assignments
  /-- The parameter that was named last, with its value unless the next word is to be that. -/
  pending : Option (Parameter × Option String)
  document : Option String
  deriving DecidableEq, Repr

namespace Reading

def empty : Reading := ⟨[], none, none⟩

def isAwaiting (r : Reading) : Bool :=
  match r.pending with
  | some (_, none) => true
  | _ => false

def settle (r : Reading) : Except Refusal Reading :=
  match r.pending with
  | none => .ok r
  | some (_, none) => .error .missingValue
  | some (p, some value) => do return { r with given := ← r.given.assign p value, pending := none }

/-- Refuses for a reason, unless the last parameter gives one. -/
def refuse (r : Reading) (reason : Refusal) : Except Refusal Reading := do
  let _ ← r.settle
  .error reason

def name (level : Level) (r : Reading) (word : String) (value : Option String) :
    Except Refusal Reading :=
  match level.parameter? word with
  | some p => do
    let r ← r.settle
    match value with
    | some v => return { r with given := ← r.given.assign p v }
    | none => return { r with pending := some (p, none) }
  | none =>
    match level.request? word, value with
    | some reason, none => r.refuse reason
    | some _, some _ => .error .needlessValue
    | none, _ => .error .unknownArgument

/-- A word stands for itself. Only a query takes one, as its document. -/
def add (level : Level) (r : Reading) (word : String) : Except Refusal Reading :=
  match level, r.document with
  | .query, none => do return { (← r.settle) with document := some word }
  | .top, _ => .error .unknownCommand
  | _, _ => .error .unknownArgument

/-- A word after two dashes stands for itself. A command is out of place there. -/
def addPlain (level : Level) (r : Reading) (word : String) : Except Refusal Reading :=
  if level = .top ∧ (word = Level.helpWord ∨ (Level.ofWord? word).isSome) then
    .error .unknownArgument
  else r.add level word

def help : List String → Refusal
  | [] => .helpAsked
  | [word] =>
    if word = Level.helpWord ∨ (Level.ofWord? word).isSome then .helpAsked else .unknownCommand
  | _ => .unknownCommand

/-- Reads the words of a level, up to a command if it is the top level. -/
def words (level : Level) : Reading → List String →
    Except Refusal (Reading × Option (Level × List String))
  | r, [] => .ok (r, none)
  | r, word :: rest =>
    let mayOpen := decide (level = .top) && !r.isAwaiting
    if mayOpen && word = Level.helpWord then .error (help rest)
    else
      match (Level.ofWord? word).filter fun _ => mayOpen with
      | some command => .ok (r, some (command, rest))
      | none =>
        match Word.of word, r.pending with
        | .dashes, _ => do return (← rest.foldlM (addPlain level) r, none)
        | .long name value, _ => do words level (← r.name level name value) rest
        | .short letter, _ =>
          match level.letterRequest? letter with
          | some reason => do words level (← r.refuse reason) rest
          | none => .error .unknownArgument
        | .plain, some (p, none) => words level { r with pending := some (p, some word) } rest
        | .plain, _ => do words level (← r.add level word) rest

end Reading

def Parameter.inherited? (environment : String → Option String) (p : Parameter) : Option String :=
  p.environmentName?.bind environment

/-- The end of a level: the last parameter gets its value, and what the environment gives to the
others has to be taken. -/
def Reading.finish (environment : String → Option String) (level : Level) (r : Reading) :
    Except Refusal Reading := do
  let r ← r.settle
  (level.parameters.filter fun p => !r.given.has p).forM fun p =>
    match p.inherited? environment with
    | some value => p.accept value
    | none => .ok ()
  return r

def Reading.isPresent (environment : String → Option String) (r : Reading) (p : Parameter) : Bool :=
  r.given.has p || (p.inherited? environment).isSome

/-- The arguments of a query exclude each other: a document and a file, a token and a user. Groups
need a user, or else a token. -/
def Reading.checkQuery (environment : String → Option String) (r : Reading) :
    Except Refusal Unit :=
  let present := r.isPresent environment
  if present .file && r.document.isSome || present .token && present .user then .error .conflict
  else if present .group && !present .user && !present .token then .error .missingCompanion
  else .ok ()

/-- How the program works, in seconds where it is a time. -/
structure Settings where
  callTimeout : Nat
  requestTimeout : Nat
  cacheTtl : Nat
  cacheEntries : Nat
  log : String
  metricsAddress : Option SocketAddress
  deriving DecidableEq, Repr

def Settings.ofValues (value? : Parameter → Option String) : Settings :=
  let number (p : Parameter) (default : Nat) : Nat :=
    ((value? p).bind Parameter.number?).getD default
  { callTimeout := number .callTimeout 30
    requestTimeout := number .requestTimeout 60
    cacheTtl := number .cacheTtl 600
    cacheEntries := number .cacheEntries 256
    log := (value? .log).getD "info"
    metricsAddress := (value? .metricsAddress).bind SocketAddress.parse? }

structure QueryArguments where
  document : Option String
  file : Option String
  /-- Values for variables. -/
  values : Option String
  token : Option String
  user : Option String
  groups : List String
  nspace : Option String
  deriving DecidableEq, Repr

inductive Command where
  /-- Write the schema. -/
  | schema
  /-- Answer a query. -/
  | query (arguments : QueryArguments)
  deriving DecidableEq, Repr

structure Invocation where
  settings : Settings
  command : Command
  deriving DecidableEq, Repr

/-- What a command line asks for in an environment. The words of the command are understood in full
before the last parameter in front of it gets its value. Of two values for a parameter the one
after the command counts. -/
def Invocation.read (environment : String → Option String) (words : List String) :
    Except Refusal Invocation := do
  let (top, command?) ← Reading.empty.words .top words
  match command? with
  | none =>
    let top ← top.finish environment .top
    if Parameter.shared.any (top.isPresent environment) then .error .missingCommand
    else .error .nothingGiven
  | some (level, rest) =>
    let (inner, _) ← Reading.empty.words level rest
    let inner ← inner.finish environment level
    if level = .query then inner.checkQuery environment
    let top ← top.finish environment .top
    let value? (p : Parameter) : Option String :=
      inner.given.value? p <|> top.given.value? p <|> p.inherited? environment
    let arguments : QueryArguments :=
      { document := inner.document
        file := value? .file
        values := value? .values
        token := value? .token
        user := value? .user
        groups := inner.given.values .group
        nspace := value? .nspace }
    return ⟨.ofValues value?, if level = .query then .query arguments else .schema⟩

end ClusterGraph
