import PatronGateway.Config.Loader
import PatronGateway.Gateway.Services
import PatronGateway.Log.Filter
import PatronGateway.Net.ListenError
import PatronGateway.Program.EnvFile

/-!
# Starting the program

The program reads a file of variables, finds its configuration, builds a gateway
and listens.  Each step may be the last one.  `launch` is everything up to
listening; it needs only the arguments, the variables and the files that the
program is started with, and it tells what is logged on the way.

What is logged is filtered twice: until the configuration is known everything from
`info` on is shown, and from then on what the configuration says, unless a variable
decides it from the beginning.
-/

namespace PatronGateway
namespace Program

open Config (Directory LoadError Variables)
open Gateway (BuildError Services)
open Http (Charset)
open Log (Event Filter Level)
open Net (ListenError)

/-- What the program is started with. -/
structure Inputs where
  arguments : List String
  environment : Variables
  files : Directory

/-- What named the file of the configuration. -/
inductive PathSource where
  | argument
  | environment
  | nobody
  deriving DecidableEq, Repr

/-- How the log tells what named the file. -/
def PathSource.text : PathSource → String
  | argument => "CLI argument (--config)"
  | environment => "environment variable (PATRON_EDGE_CONFIG)"
  | nobody => "default"

/-- What stands behind the first `--config` that something stands behind. -/
def argumentPath? : List String → Option String
  | "--config" :: path :: _ => some path
  | _ :: rest => argumentPath? rest
  | [] => none

/-- The variable that names the file of the configuration. -/
def pathVariable : String :=
  "PATRON_EDGE_CONFIG"

/-- The file of the configuration, and what named it. -/
def configPath (arguments : List String) (vs : Variables) : String × PathSource :=
  match argumentPath? arguments with
  | some path => (path, .argument)
  | none =>
    match (vs.lookup pathVariable).filter fun path => !path.isEmpty with
    | some path => (path, .environment)
    | none => (Config.defaultPath, .nobody)

/-- The variable that decides what is logged. -/
def filterVariable : String :=
  "RUST_LOG"

/-- The filter of the variables, if they have a readable one. -/
def filterOf? (vs : Variables) : Option Filter :=
  (vs.lookup filterVariable).bind Filter.read?

/-- The filter under a level of the configuration. -/
def filterFor (vs : Variables) (level : String) : Filter :=
  (filterOf? vs).getD (.ofLevel ((Level.ofName? level).getD .error))

/-- The program as a source of events. -/
def programSource : String :=
  "patron_edge"

/-- The caches as a source of events. -/
def cacheSource : String :=
  "patron_edge_cache::handle"

/-- The gateway as a source of events. -/
def serverSource : String :=
  "patron_edge_server::server"

/-- The log as a source of events. -/
def logSource : String :=
  "patron_edge_server::observability"

/-- The word for a truth value. -/
def truthWord (b : Bool) : String :=
  if b then "true" else "false"

/-- A configuration was loaded. -/
def loadedEvent (path : String) (source : PathSource) : Event :=
  ⟨.info, programSource, "Configuration loaded", [⟨"path", path⟩, ⟨"source", source.text⟩]⟩

/-- It is known what is logged from now on. -/
def filterEvent (vs : Variables) (level : String) : Event :=
  if (filterOf? vs).isSome then
    ⟨.debug, logSource, filterVariable ++ " is set; logging.level ignored", []⟩
  else ⟨.debug, logSource, "Log level applied", [⟨"level", level⟩]⟩

/-- The gateway is about to be built. -/
def startingEvent (c : Config) : Event :=
  ⟨.info, programSource, "Starting patron edge gateway",
    [⟨"okapi.url", c.okapi.url⟩,
      ⟨"auth.enabled", truthWord c.auth.enabled⟩,
      ⟨"identity_cache.capacity", toString c.cache.identity.capacity⟩,
      ⟨"public_key_cache.capacity", toString c.cache.publicKeys.capacity⟩]⟩

/-- A cache is there. -/
def cacheEvent (name : String) (s : Cache.Settings) : Event :=
  ⟨.info, cacheSource, "Cache initialized",
    [⟨"cache", "\"" ++ name ++ "\""⟩,
      ⟨"capacity", toString s.capacity⟩,
      ⟨"present_ttl", s.presentTtl.brief⟩,
      ⟨"absent_ttl", s.absentTtl.brief⟩]⟩

/-- Nobody is asked for a token. -/
def openEvent : Event :=
  ⟨.warn, serverSource, "Bearer token authentication is disabled", []⟩

/-- The gateway listens. -/
def listeningEvent (c : Config) : Event :=
  ⟨.info, serverSource, "listening on " ++ c.addressText, []⟩

/-- Somebody has interrupted the program. -/
def interruptedEvent : Event :=
  ⟨.info, serverSource, "shutdown signal received", []⟩

/-- Why the program ends without having served. -/
inductive Failure where
  | configuration (error : LoadError)
  | services (error : BuildError)
  | listening (error : ListenError)
  deriving DecidableEq, Repr

/-- What the program says about a failure. -/
def Failure.message : Failure → String
  | configuration e => "Configuration error: " ++ e.message
  | services e => "Server initialization failed: " ++ e.message
  | listening e => "Server error: " ++ e.message

/-- The code with which the program ends after a failure. -/
def Failure.exitCode : Failure → Nat
  | configuration _ | services _ => 2
  | listening _ => 1

/-- A gateway that is ready to listen, and what is logged of it. -/
structure Ready where
  config : Config
  services : Services
  filter : Filter

/-- What comes of starting the program: what it warns of, what it logs, and whether
it is ready to listen. -/
structure Launch where
  warnings : List String
  log : List Event
  result : Except Failure Ready

/-- The warning about a file of variables that is faulty. -/
def envFileWarning (f : LineFault) : String :=
  "Warning: Failed to load .env file: " ++ f.message

/-- The variables that the program goes by, and the warnings about their file. -/
def gatherVariables (i : Inputs) : Variables × List String :=
  match i.files.entry? ".env" with
  | some (.file _ text) =>
    let (vs, fault) := EnvFile.load i.environment text
    (vs, fault.toList.map envFileWarning)
  | _ => (i.environment, [])

/-- What happens once the configuration is known. -/
def build (tables : Charset.Tables) (vs : Variables) (c : Config) :
    List Event × Except Failure Ready :=
  let filter := filterFor vs c.logging.level
  let caches := [filterEvent vs c.logging.level, startingEvent c,
    cacheEvent Cache.IdentitySlot.name c.cache.identity,
    cacheEvent Cache.KeySlot.name c.cache.publicKeys]
  match Services.ofConfig tables c with
  | .error e => (caches.filter filter.shows, .error (.services e))
  | .ok services =>
    let events := caches ++ if services.tokens.isNone then [openEvent] else []
    (events.filter filter.shows, .ok ⟨c, services, filter⟩)

/-- Starts the program, up to listening. -/
def launch (tables : Charset.Tables) (i : Inputs) : Launch :=
  let (vs, warnings) := gatherVariables i
  let (path, source) := configPath i.arguments vs
  match Config.load i.files vs (some path) with
  | .error e => ⟨warnings, [], .error (.configuration e)⟩
  | .ok c =>
    let loaded := [loadedEvent path source].filter (filterFor vs "info").shows
    let (events, result) := build tables vs c
    ⟨warnings, loaded ++ events, result⟩

/-- What is logged once the gateway listens; it does not if its address could not
be bound. -/
def Ready.listen (r : Ready) (bound : Except ListenError Unit) : Except Failure (List Event) :=
  match bound with
  | .error e => .error (.listening e)
  | .ok () => .ok ([listeningEvent r.config].filter r.filter.shows)

/-- What is logged when somebody interrupts the program. -/
def Ready.interrupt (r : Ready) : List Event :=
  [interruptedEvent].filter r.filter.shows

end Program
end PatronGateway
