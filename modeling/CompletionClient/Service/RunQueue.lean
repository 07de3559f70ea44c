import CompletionClient.Wire.Response
/-!
# Cooperative tasks

The service runs as cooperative tasks on one thread.  A task runs until it
finishes or waits for a *cell*: a one-shot result that some other part of
the service will deliver.  Tasks are cells themselves, so a task can wait for
another task.

When a cell gets its result, every *listener* registered on it is put, in the
order of registration, at the end of the run queue (`RunQueue.ready`); a
listener added to a cell that already has its result is queued at once.  The
queue runs first in, first out.  Waiting for a cell that has its result does
not wait at all.

Cancelling a task that waits for a pending cell cancels that cell, which wakes
the task with the cancellation.  A task that is not waiting for a pending cell
is marked instead (`Cell.cancelPending`), and the cancellation replaces what
it is woken with next; a task that has not started yet then never runs.

The run queue is parametrised by the type of the tasks' program points, so
that the service's activities (`CompletionClient.Service.Activity`) can be
defined over it.
-/

namespace CompletionClient.Service

/-- What a finished task or cell delivers. -/
inductive Reply where
  /-- Nothing. -/
  | unit
  /-- A language server, by its index. -/
  | server (index : Nat)
  /-- Suggestions for the editor. -/
  | suggestions (items : List Suggestion)
  deriving Inhabited

/-- How a cell ended. -/
inductive Outcome where
  /-- With a reply. -/
  | value (r : Reply)
  /-- With a fault. -/
  | failed (f : Fault)
  /-- By cancellation. -/
  | cancelled
  deriving Inhabited

/-- The index of a cell in the run queue. -/
abbrev CellId := Nat

/-- What is done when a cell gets its result. -/
inductive Listener where
  /-- Wake the task with the cell's result. -/
  | resume (task : CellId)
  /-- Pass the result on to another cell, unless that one was cancelled:
  how a caller waits for a launch without being able to cancel it. -/
  | relay (outer : CellId)
  /-- Give a waiting cell an empty result: how the end of a task is awaited
  without taking its result. -/
  | signal (waiter : CellId)
  /-- Count one more finished task towards a cell that waits for all of them. -/
  | tally (gathering : CellId)
  /-- Drop a finished task from the service's background tasks. -/
  | forget (task : CellId)
  deriving Inhabited, DecidableEq

/-- One entry of the run queue. -/
inductive Wake where
  /-- Start a task. -/
  | start (task : CellId)
  /-- Run a listener of a cell that got its result. -/
  | notify (listener : Listener) (source : CellId)
  deriving Inhabited, DecidableEq

/-- A one-shot result, and for a task its program point. -/
structure Cell (Point : Type) where
  /-- The result, once there is one. -/
  result : Option Outcome := none
  /-- Who is told of the result, in order. -/
  listeners : List Listener := []
  /-- For a task, where it stands. -/
  point : Option Point := none
  /-- For a task, the cell it waits for. -/
  waitsFor : Option CellId := none
  /-- For a task, whether a cancellation is due at its next step. -/
  cancelPending : Bool := false
  /-- For a cell that waits for several tasks, how many are still running. -/
  remaining : Nat := 0
  deriving Inhabited

/-- Cells and the queue of what is ready to run. -/
structure RunQueue (Point : Type) where
  /-- All cells, by index. -/
  cells : Array (Cell Point) := #[]
  /-- What is ready to run, first in, first out. -/
  ready : List Wake := []
  deriving Inhabited

namespace RunQueue

variable {Point : Type}

/-- The cell at an index. -/
def cell (q : RunQueue Point) (c : CellId) : Cell Point := q.cells.getD c {}

/-- Changes the cell at an index. -/
def modifyCell (q : RunQueue Point) (c : CellId) (f : Cell Point → Cell Point) : RunQueue Point :=
  { q with cells := q.cells.modify c f }

/-- The result of a cell, if it has one. -/
def result? (q : RunQueue Point) (c : CellId) : Option Outcome := (q.cell c).result

/-- Whether a cell has its result. -/
def isDone (q : RunQueue Point) (c : CellId) : Bool := (q.result? c).isSome

/-- Puts an entry at the end of the queue. -/
def enqueue (q : RunQueue Point) (w : Wake) : RunQueue Point := { q with ready := q.ready ++ [w] }

/-- A new pending cell. -/
def newCell (q : RunQueue Point) : RunQueue Point × CellId :=
  ({ q with cells := q.cells.push {} }, q.cells.size)

/-- A new task at its first program point, queued to start. -/
def spawn (q : RunQueue Point) (p : Point) : RunQueue Point × CellId :=
  let id := q.cells.size
  (({ q with cells := q.cells.push { point := some p } }).enqueue (.start id), id)

/-- Registers a listener; one on a cell with its result is queued at once. -/
def listen (q : RunQueue Point) (c : CellId) (l : Listener) : RunQueue Point :=
  if q.isDone c then q.enqueue (.notify l c)
  else q.modifyCell c fun cell => { cell with listeners := cell.listeners ++ [l] }

/-- Gives a pending cell its result and queues its listeners; a cell that has
a result keeps it. -/
def finish (q : RunQueue Point) (c : CellId) (o : Outcome) : RunQueue Point :=
  if q.isDone c then q
  else
    let cell := q.cell c
    let q := q.modifyCell c fun cell => { cell with result := some o, listeners := [] }
    cell.listeners.foldl (fun q l => q.enqueue (.notify l c)) q

/-- Cancels a cell.  A task waiting for a pending cell cancels that cell; any
other pending task is marked to be cancelled at its next step; a pending
plain cell is cancelled at once.  Cancelling what has a result does nothing.
`depth` bounds a chain of tasks waiting for tasks. -/
def cancel (q : RunQueue Point) (c : CellId) : Nat → RunQueue Point
  | 0 => q
  | depth + 1 =>
    if q.isDone c then q
    else
      let cell := q.cell c
      if cell.point.isSome then
        match cell.waitsFor with
        | some w =>
          if q.isDone w then q.modifyCell c fun cell => { cell with cancelPending := true }
          else if (q.cell w).point.isSome then q.cancel w depth
          else q.finish w .cancelled
        | none => q.modifyCell c fun cell => { cell with cancelPending := true }
      else q.finish c .cancelled

/-- Cancels a task or cell, through at most four tasks waiting for each other. -/
def cancelTask (q : RunQueue Point) (c : CellId) : RunQueue Point := q.cancel c 4

/-- Takes the first entry of the queue. -/
def pop? (q : RunQueue Point) : Option (Wake × RunQueue Point) :=
  match q.ready with
  | [] => none
  | w :: rest => some (w, { q with ready := rest })

/-- Queuing puts the entry last. -/
@[simp] theorem ready_enqueue (q : RunQueue Point) (w : Wake) :
    (q.enqueue w).ready = q.ready ++ [w] := rfl

/-- A new cell takes the next free index. -/
@[simp] theorem newCell_id (q : RunQueue Point) : q.newCell.2 = q.cells.size := rfl

/-- A new task takes the next free index. -/
@[simp] theorem spawn_id (q : RunQueue Point) (p : Point) : (q.spawn p).2 = q.cells.size := rfl

/-- A new task is queued to start after everything already queued. -/
theorem ready_spawn (q : RunQueue Point) (p : Point) :
    (q.spawn p).1.ready = q.ready ++ [.start q.cells.size] := rfl

/-- A cell with a result keeps it: finishing it again changes nothing. -/
theorem finish_of_isDone {q : RunQueue Point} {c : CellId} (o : Outcome) (h : q.isDone c = true) :
    q.finish c o = q := by
  simp [finish, h]

/-- Taking the first entry leaves the rest of the queue. -/
theorem pop?_cons (q : RunQueue Point) (w : Wake) (rest : List Wake) (h : q.ready = w :: rest) :
    q.pop? = some (w, { q with ready := rest }) := by
  simp [pop?, h]

end RunQueue

end CompletionClient.Service
