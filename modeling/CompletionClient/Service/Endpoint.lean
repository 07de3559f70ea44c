import CompletionClient.Metadata
/-!
# Scripted language servers

The service talks to language servers through a small interface: start one,
send it a request, terminate it, and hear from it when it listens (a launch
report) and when it ends (a termination report).  To run the service
without processes, each server here is *scripted*: how it behaves is set by
knobs shared by all servers (`Script`), and it records what it receives.

* Starting waits for the oldest queued start *gate*, if one is queued; then it
  fails with the scripted start error, if one is set (once, if so scripted),
  or marks the server started and, if so scripted, reports the launch.  Any
  value but `null` is a start error, and it is the message of the fault.
* A request to a server that was not started fails.  Otherwise it is
  recorded; it fails if its method is among the failing ones (values, of
  which only texts can name a method); a completion
  request waits for the oldest queued completion gate, if one is queued, and
  is then answered by the scripted reply, or by one suggestion named after
  the request's id.
* A gate is opened by the caller of the service, oldest closed one first,
  whether or not anyone still waits for it.
-/

namespace CompletionClient.Service

/-- One scripted language server. -/
structure Endpoint where
  /-- Whether its start succeeded. -/
  started : Bool := false
  /-- Whether it was terminated. -/
  terminated : Bool := false
  /-- The metadata that its launch report passes on to the heartbeat. -/
  launchMetadata : Metadata
  deriving Inhabited

/-- The knobs shared by all scripted servers. -/
structure Script where
  /-- Methods whose requests fail. -/
  failing : List Value := []
  /-- The fault message of a failing start; `null` when starts do not fail. -/
  startError : Value := .null
  /-- Whether a start error clears itself when it strikes. -/
  startErrorOnce : Bool := false
  /-- Whether a successful start reports the launch. -/
  launchOnStart : Bool := true
  /-- The reply to completion requests, if not the default one. -/
  reply : Option Value := none
  deriving Inhabited

/-- A gate that holds back a start or a completion reply until it is opened. -/
structure Gate where
  /-- Whether it is open. -/
  isOpen : Bool := false
  /-- The cells of those who wait for it. -/
  waiters : List Nat := []
  deriving Inhabited

/-- Gates in the order they were queued, and those not yet taken by a waiter. -/
structure GateQueue where
  /-- All gates. -/
  gates : Array Gate := #[]
  /-- The gates not yet taken, oldest first, by index. -/
  untaken : List Nat := []
  deriving Inhabited

namespace GateQueue

/-- Queues a closed gate. -/
def hold (q : GateQueue) : GateQueue :=
  { gates := q.gates.push {}, untaken := q.untaken ++ [q.gates.size] }

/-- The oldest closed gate, if any. -/
def oldestClosed? (q : GateQueue) : Option Nat :=
  (List.range q.gates.size).find? fun i => !(q.gates.getD i {}).isOpen

end GateQueue

/-- The default reply to a completion request: one suggestion named after
the request's id, replacing row 1 from column 2 to column 8. -/
def defaultReply (requestId : Value) : Value :=
  let point (col : String) : Value := .obj [("row", .str "1"), ("col", .str col)]
  .obj [("completionItems", .list [.obj [
    ("completion", .obj [("completionId", .str ("c" ++ requestId.display)),
                         ("text", .str ("suggestion " ++ requestId.display))]),
    ("range", .obj [("startPosition", point "2"), ("endPosition", point "8")])]])]

end CompletionClient.Service
