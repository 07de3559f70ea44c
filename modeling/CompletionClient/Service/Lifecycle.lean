import CompletionClient.Service.RunQueue
/-!
# The lifecycle of the language server

The service owns at most one language server at a time.  It starts one
lazily, when a request needs it, and starts a new one the same way after the
old one terminated:

    absent → starting → running → terminated → (starting on next use)

`Lifecycle` is what the service knows of its server: the phase, the current
server (by index), the heartbeat task while it runs, the launch task while a
launch is under way, the request and cancellation counters, and the version
that the last installation check found.
-/

namespace CompletionClient.Service

/-- Where the language server stands. -/
inductive Phase where
  /-- Never started. -/
  | absent
  /-- A launch is under way, or the server has not reported that it listens. -/
  | starting
  /-- The server listens. -/
  | running
  /-- The server terminated. -/
  | terminated
  deriving DecidableEq, Inhabited

/-- The name of a phase. -/
def Phase.name : Phase → String
  | .absent => "ABSENT"
  | .starting => "STARTING"
  | .running => "RUNNING"
  | .terminated => "TERMINATED"

/-- The request and cancellation counters. -/
structure Counters where
  /-- The id of the latest completion request. -/
  requests : Nat := 0
  /-- How many cancel notices were sent. -/
  cancellations : Nat := 0
  deriving DecidableEq, Inhabited

/-- What the service knows of its language server. -/
structure Lifecycle where
  /-- The phase. -/
  phase : Phase := .absent
  /-- The current server, by index. -/
  server : Option Nat := none
  /-- The heartbeat task of the current server. -/
  heartbeat : Option CellId := none
  /-- The launch task while a launch is under way. -/
  launch : Option CellId := none
  /-- The counters. -/
  counters : Counters := {}
  /-- The version of the language server that the last check found, as it
  reported it. -/
  serverVersion : Value := .str "1.2.104"
  deriving Inhabited

end CompletionClient.Service
