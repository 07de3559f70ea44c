import CompletionClient.Proofs.Service.Queue
import CompletionClient.Proofs.Service.Run
/-!
# What the service's actions do to the world

For every action of `Act` one lemma, or one per branch, gives the value it
returns and the world it leaves, as a change of named fields of the world it
started from.  Later proofs rewrite with these and never unfold an action.

The primitive actions (cells, tasks, listeners, the lifecycle) are equations
by definition.  A `for` loop whose body only acts is the fold of its body
(`run_forIn_unit`).  The lifecycle's handlers are split by whether the server
they are given is the current one: a report of another server changes
nothing (`run_clearServer_of_ne`, `run_handleLaunch_of_ne`).
-/

namespace CompletionClient.Service

/-- The run queue with the heartbeat task, if there is one, cancelled. -/
def World.beatCancelled (w : World) : RunQueue Point :=
  match w.life.heartbeat with
  | some h => w.queue.cancelTask h
  | none => w.queue

/-- The world in which the task `t` woke: its wait and any cancellation due are cleared. -/
def World.wakeUp (w : World) (t : CellId) : World :=
  { w with queue := w.queue.modifyCell t fun cell => { cell with cancelPending := false, waitsFor := none } }

namespace Act

variable (w : World)

/-! ## Primitive actions -/

theorem run_isDone (c : CellId) : StateT.run (isDone c) w = (w.queue.isDone c, w) := rfl

theorem run_spawnBackground (p : Point) :
    StateT.run (spawnBackground p) w =
      (w.queue.cells.size,
        { w with queue := (w.queue.spawn p).1.listen w.queue.cells.size (.forget w.queue.cells.size),
                 background := w.background ++ [w.queue.cells.size] }) := rfl

theorem run_onLife (f : Lifecycle → Lifecycle) :
    StateT.run (onLife f) w = ((), { w with life := f w.life }) := rfl

theorem run_isSuperseded (j : Nat) :
    StateT.run (isSuperseded j) w = ((w.jobs.getD j default).superseded, w) := rfl

theorem run_shield (l : CellId) :
    StateT.run (shield l) w =
      (.waitOn w.queue.cells.size,
        { w with queue := w.queue.newCell.1.listen l (.relay w.queue.cells.size) }) := rfl

/-- A loop whose body only acts, and always goes on, leaves the world its body leaves, item after
item. -/
theorem run_forIn_unit {α : Type} (l : List α) (f : α → Act (ForInStep PUnit))
    (hf : ∀ x w, (StateT.run (f x) w).1 = .yield PUnit.unit) :
    StateT.run (forIn l PUnit.unit fun x _ => f x) w = ((), l.foldl (fun w x => w.exec (f x)) w) := by
  induction l generalizing w with
  | nil => rfl
  | cons x l ih =>
    simp only [List.forIn_cons, StateT.run_bind, List.foldl_cons]
    rw [← ih]
    have hx : StateT.run (f x) w = (.yield PUnit.unit, w.exec (f x)) := by
      rw [← hf x w]
      rfl
    rw [hx]
    rfl

/-! ## The lifecycle -/

theorem run_clearServer_of_current {s : Nat} (h : w.life.server = some s) :
    StateT.run (clearServer s) w =
      ((), { w with
        life := { w.life with server := none, heartbeat := none, phase := .terminated,
                              counters := if w.resetOnRestart then {} else w.life.counters },
        queue := w.beatCancelled }) := by
  cases hh : w.life.heartbeat <;> cases hr : w.resetOnRestart <;>
    simp only [clearServer, StateT.run_bind, StateT.run_get, onLife, setPhase, cancel, onQueue,
      StateT.run_modify, World.beatCancelled, h, hh, hr, if_true, if_false, pure_bind,
      reduceCtorEq] <;> rfl

theorem run_clearServer_of_ne {s : Nat} (h : w.life.server ≠ some s) :
    StateT.run (clearServer s) w = ((), w) := by
  simp only [clearServer, StateT.run_bind, StateT.run_get, h, if_false, pure_bind]
  rfl

theorem run_handleLaunch_of_current {s : Nat} (h : w.life.server = some s) :
    StateT.run (handleLaunch s) w =
      let q := w.beatCancelled
      ((), { w with
        life := { w.life with phase := .running, heartbeat := some q.cells.size },
        launches := w.launches ++ [w.servers.size - 1],
        queue := (q.spawn (.heartbeat s (w.servers.getD s default).launchMetadata)).1 }) := by
  cases hh : w.life.heartbeat <;>
    simp only [handleLaunch, StateT.run_bind, StateT.run_get, onLife, setPhase, cancel, onQueue,
      spawn, StateT.run_modify, StateT.run_modifyGet, World.beatCancelled, h, hh, if_true,
      pure_bind] <;> rfl

theorem run_handleLaunch_of_ne {s : Nat} (h : w.life.server ≠ some s) :
    StateT.run (handleLaunch s) w = ((), w) := by
  simp only [handleLaunch, StateT.run_bind, StateT.run_get, h, if_false, pure_bind]
  rfl

theorem handleTermination_eq (s : Nat) : handleTermination s = clearServer s := rfl

/-! ## Scripted servers -/

theorem run_receive (s : Nat) (r : Request) :
    StateT.run (receive s r) w =
      if (w.servers.getD s default).started then
        (if w.script.failing.any (·.isText r.method) then .error (.transport (.str (r.method ++ " failed")))
          else .ok (),
         { w with received := w.received ++ [(s, r)] })
      else (.error (.transport (.str "Language server is not started")), w) := by
  by_cases h1 : (w.servers.getD s default).started = true <;>
    by_cases h2 : (w.script.failing.any fun x => x.isText r.method) = true <;>
    simp only [receive, StateT.run_bind, StateT.run_get, StateT.run_pure, StateT.run_modify, h1, h2,
      Bool.not_true, Bool.not_false, Bool.false_eq_true, if_true, if_false, pure_bind] <;> rfl

/-- A reply gate: none is queued. -/
theorem run_claimReplyGate_of_nil (h : w.replyGates.untaken = []) :
    StateT.run claimReplyGate w = (none, w) := by
  simp only [claimReplyGate, claimGate, StateT.run_bind, StateT.run_get, h, pure_bind]
  rfl

/-- A reply gate that is open already lets the reply through. -/
theorem run_claimReplyGate_of_open {g : Nat} {rest : List Nat} (h : w.replyGates.untaken = g :: rest)
    (ho : (w.replyGates.gates.getD g {}).isOpen = true) :
    StateT.run claimReplyGate w = (none, { w with replyGates := { w.replyGates with untaken := rest } }) := by
  simp only [claimReplyGate, claimGate, StateT.run_bind, StateT.run_get, StateT.run_modify, h, ho,
    pure_bind, if_true]
  rfl

/-- A closed reply gate is waited for through a new cell. -/
theorem run_claimReplyGate_of_closed {g : Nat} {rest : List Nat} (h : w.replyGates.untaken = g :: rest)
    (ho : (w.replyGates.gates.getD g {}).isOpen = false) :
    StateT.run claimReplyGate w =
      (some w.queue.cells.size,
        { w with queue := w.queue.newCell.1,
                 replyGates := { gates := w.replyGates.gates.modify g fun gate =>
                                   { gate with waiters := gate.waiters ++ [w.queue.cells.size] },
                                 untaken := rest } }) := by
  simp only [claimReplyGate, claimGate, StateT.run_bind, StateT.run_get, StateT.run_modify, h, ho,
    pure_bind, Bool.false_eq_true, if_false, newCell, StateT.run_modifyGet]
  rfl

/-- A start gate: none is queued. -/
theorem run_claimStartGate_of_nil (h : w.startGates.untaken = []) :
    StateT.run claimStartGate w = (none, w) := by
  simp only [claimStartGate, claimGate, StateT.run_bind, StateT.run_get, h, pure_bind]
  rfl

/-- A start gate that is open already lets the start through. -/
theorem run_claimStartGate_of_open {g : Nat} {rest : List Nat} (h : w.startGates.untaken = g :: rest)
    (ho : (w.startGates.gates.getD g {}).isOpen = true) :
    StateT.run claimStartGate w = (none, { w with startGates := { w.startGates with untaken := rest } }) := by
  simp only [claimStartGate, claimGate, StateT.run_bind, StateT.run_get, StateT.run_modify, h, ho,
    pure_bind, if_true]
  rfl

/-- A closed start gate is waited for through a new cell. -/
theorem run_claimStartGate_of_closed {g : Nat} {rest : List Nat} (h : w.startGates.untaken = g :: rest)
    (ho : (w.startGates.gates.getD g {}).isOpen = false) :
    StateT.run claimStartGate w =
      (some w.queue.cells.size,
        { w with queue := w.queue.newCell.1,
                 startGates := { gates := w.startGates.gates.modify g fun gate =>
                                   { gate with waiters := gate.waiters ++ [w.queue.cells.size] },
                                 untaken := rest } }) := by
  simp only [claimStartGate, claimGate, StateT.run_bind, StateT.run_get, StateT.run_modify, h, ho,
    pure_bind, Bool.false_eq_true, if_false, newCell, StateT.run_modifyGet]
  rfl

/-- Opening a reply gate when every one is open does nothing. -/
theorem run_openReplyGate_of_none (h : w.replyGates.oldestClosed? = none) :
    StateT.run (openGate (·.replyGates) fun w q => { w with replyGates := q }) w = (false, w) := by
  simp only [openGate, StateT.run_bind, StateT.run_get, h, pure_bind]
  rfl

/-- Opening the oldest closed reply gate gives each of its waiters an empty result. -/
theorem run_openReplyGate_of_some {g : Nat} (h : w.replyGates.oldestClosed? = some g) :
    StateT.run (openGate (·.replyGates) fun w q => { w with replyGates := q }) w =
      (true, ((w.replyGates.gates.getD g {}).waiters.foldl (fun w c => w.exec (finish c (.value .unit)))
        { w with replyGates := { w.replyGates with gates := w.replyGates.gates.modify g fun gate =>
                                  { gate with isOpen := true } } })) := by
  simp only [openGate, StateT.run_bind, StateT.run_get, StateT.run_modify, h, pure_bind]
  rw [run_forIn_unit _ _ _ (fun _ _ => rfl)]
  rfl

/-- Opening a start gate when every one is open does nothing. -/
theorem run_openStartGate_of_none (h : w.startGates.oldestClosed? = none) :
    StateT.run (openGate (·.startGates) fun w q => { w with startGates := q }) w = (false, w) := by
  simp only [openGate, StateT.run_bind, StateT.run_get, h, pure_bind]
  rfl

/-- Opening the oldest closed start gate gives each of its waiters an empty result. -/
theorem run_openStartGate_of_some {g : Nat} (h : w.startGates.oldestClosed? = some g) :
    StateT.run (openGate (·.startGates) fun w q => { w with startGates := q }) w =
      (true, ((w.startGates.gates.getD g {}).waiters.foldl (fun w c => w.exec (finish c (.value .unit)))
        { w with startGates := { w.startGates with gates := w.startGates.gates.modify g fun gate =>
                                  { gate with isOpen := true } } })) := by
  simp only [openGate, StateT.run_bind, StateT.run_get, StateT.run_modify, h, pure_bind]
  rw [run_forIn_unit _ _ _ (fun _ _ => rfl)]
  rfl

/-! ## Launching -/

/-- A caller of a server while a launch is under way waits for that launch. -/
theorem run_ensureStarted_of_pending {l : CellId} (h : w.life.launch = some l)
    (hl : w.queue.isDone l = false) :
    StateT.run ensureStarted w = StateT.run (shield l) w := by
  simp only [ensureStarted, StateT.run_bind, StateT.run_get, h, hl, pure_bind]
  rfl

/-- A caller of a server with no launch under way takes the current server. -/
theorem run_ensureStarted_of_ready {s : Nat} (h : ∀ l, w.life.launch = some l → w.queue.isDone l = true)
    (hs : w.life.server = some s) :
    StateT.run ensureStarted w = (.ready s, w) := by
  cases hl : w.life.launch with
  | none => simp only [ensureStarted, StateT.run_bind, StateT.run_get, hl, hs, pure_bind]; rfl
  | some l =>
    simp only [ensureStarted, StateT.run_bind, StateT.run_get, hl, h l hl, hs, pure_bind, if_true]
    rfl

/-- A caller of a server with no server and no launch under way starts a launch and waits for it. -/
theorem run_ensureStarted_of_absent (h : ∀ l, w.life.launch = some l → w.queue.isDone l = true)
    (hs : w.life.server = none) :
    StateT.run ensureStarted w =
      StateT.run (shield w.queue.cells.size)
        { w with life := { w.life with launch := some w.queue.cells.size },
                 queue := (w.queue.spawn .launch).1 } := by
  cases hl : w.life.launch with
  | none =>
    simp only [ensureStarted, StateT.run_bind, StateT.run_get, hl, hs, pure_bind, spawn,
      StateT.run_modifyGet, onLife, StateT.run_modify]
    rfl
  | some l =>
    simp only [ensureStarted, StateT.run_bind, StateT.run_get, hl, h l hl, hs, pure_bind, if_true,
      spawn, StateT.run_modifyGet, onLife, StateT.run_modify]
    rfl

/-- A launch that succeeds ends with no launch under way. -/
theorem run_launchEnd_value (previous : Phase) (r : Reply) :
    StateT.run (launchEnd previous (.value r)) w =
      (.done (.value r), { w with life := { w.life with launch := none } }) := rfl

/-- A launch that fails restores the phase it found, unless a server is current. -/
theorem run_launchEnd_of_not_value (previous : Phase) {o : Outcome} (h : ∀ r, o ≠ .value r) :
    StateT.run (launchEnd previous o) w =
      (.done o, { w with life := { w.life with
        phase := if w.life.server.isNone then previous else w.life.phase, launch := none } }) := by
  cases o with
  | value r => exact absurd rfl (h r)
  | failed f =>
    cases hs : w.life.server <;>
      simp only [launchEnd, StateT.run_bind, StateT.run_get, hs, Option.isNone_none, Option.isNone_some,
        Bool.false_eq_true, if_true, if_false, setPhase, onLife, StateT.run_modify, pure_bind] <;> rfl
  | cancelled =>
    cases hs : w.life.server <;>
      simp only [launchEnd, StateT.run_bind, StateT.run_get, hs, Option.isNone_none, Option.isNone_some,
        Bool.false_eq_true, if_true, if_false, setPhase, onLife, StateT.run_modify, pure_bind] <;> rfl

theorem run_launchAbort (previous : Phase) (s : Nat) (o : Outcome) :
    StateT.run (launchAbort previous s o) w =
      StateT.run (launchEnd previous o)
        { w.exec (clearServer s) with managerFolders := (w.exec (clearServer s)).managerFolders - 1 } :=
  rfl

/-- A start that goes through marks the server started, reports its launch if so scripted, and
ends the launch with that server. -/
theorem run_launchStarted_of_null (previous : Phase) (s : Nat) (h : w.script.startError = .null) :
    StateT.run (launchStarted previous s) w =
      let w₁ := { w with servers := w.servers.modify s fun e => { e with started := true } }
      StateT.run (launchEnd previous (.value (.server s)))
        (if w.script.launchOnStart then w₁.exec (handleLaunch s) else w₁) := by
  cases hl : w.script.launchOnStart <;>
    simp only [launchStarted, StateT.run_bind, StateT.run_get, h, hl, onServer, StateT.run_modify,
      pure_bind, if_true, if_false, Bool.false_eq_true]
  -- the report runs in the world the start left, which is `exec` unfolded
  case true => rfl

/-- A start that fails aborts the launch with the scripted fault, which clears itself if so scripted. -/
theorem run_launchStarted_of_error (previous : Phase) (s : Nat) (h : w.script.startError ≠ .null) :
    StateT.run (launchStarted previous s) w =
      StateT.run (launchAbort previous s (.failed (.transport w.script.startError)))
        (if w.script.startErrorOnce then { w with script := { w.script with startError := .null } } else w) := by
  cases he : w.script.startError with
  | null => exact absurd he h
  | _ =>
    cases ho : w.script.startErrorOnce <;>
      simp only [launchStarted, StateT.run_bind, StateT.run_get, he, ho, StateT.run_modify, pure_bind,
        if_true, if_false, Bool.false_eq_true]

/-- The world in which a launch has checked the installation and set the phase to starting. -/
def launchChecked (w : World) (version : Option Value) : World :=
  { w with life := { w.life with phase := .starting, serverVersion := version.getD w.life.serverVersion } }

/-- A launch whose installation check fails ends with that fault. -/
theorem run_launchBegin_of_error {f : Fault} (h : w.installation = .error f) :
    StateT.run launchBegin w = StateT.run (launchEnd w.life.phase (.failed f)) (launchChecked w none) := by
  simp only [launchBegin, StateT.run_bind, StateT.run_get, h, setPhase, pure_bind]
  rfl

/-- A launch that finds no server installed ends with that fault. -/
theorem run_launchBegin_of_notInstalled {st : InstallStatus} (h : w.installation = .ok st)
    (hk : st.kind = .notInstalled) :
    StateT.run launchBegin w =
      StateT.run (launchEnd w.life.phase (.failed .notInstalled)) (launchChecked w none) := by
  simp only [launchBegin, StateT.run_bind, StateT.run_get, h, hk, setPhase, pure_bind]
  rfl

/-- A launch that finds an outdated server ends with that fault, keeping the version found. -/
theorem run_launchBegin_of_outdated {st : InstallStatus} (h : w.installation = .ok st)
    (hk : st.kind = .outdated) :
    StateT.run launchBegin w =
      StateT.run (launchEnd w.life.phase (.failed (.outdated st.version st.required)))
        (launchChecked w (some st.version)) := by
  simp only [launchBegin, StateT.run_bind, StateT.run_get, h, hk, setPhase, onLife, StateT.run_modify,
    pure_bind]
  rw [← h]
  rfl

/-- A launch whose metadata cannot be built ends with that fault. -/
theorem run_launchBegin_of_metadata {st : InstallStatus} {f : Fault} (h : w.installation = .ok st)
    (hk : st.kind ≠ .notInstalled ∧ st.kind ≠ .outdated)
    (hm : (launchChecked w (some st.version)).source.build (launchChecked w (some st.version)).credentials
      (.int (Int.ofNat w.life.counters.requests)) st.version = .error f) :
    StateT.run launchBegin w =
      StateT.run (launchEnd w.life.phase (.failed f)) (launchChecked w (some st.version)) := by
  obtain ⟨h1, h2⟩ := hk
  cases hkind : st.kind with
  | notInstalled => exact absurd hkind h1
  | outdated => exact absurd hkind h2
  | installed | unsupported =>
    simp only [launchBegin, StateT.run_bind, StateT.run_get, h, hkind, setPhase, onLife,
      StateT.run_modify, StateT.run_pure, pure_bind, buildMetadata]
    simp only [launchChecked, Option.getD_some] at hm
    simp only [hm]
    rw [← h]
    rfl

/-- The world in which a launch has made its server: a manager folder, a new server with the
launch metadata, and that server current. -/
def launchMade (w : World) (version : Value) (md : Metadata) : World :=
  let w₁ := launchChecked w (some version)
  { w₁ with managerFolders := w₁.managerFolders + 1, servers := w₁.servers.push { launchMetadata := md },
            life := { w₁.life with server := some w₁.servers.size } }

/-- A launch that makes its server waits for the oldest start gate, if one is queued and closed,
and otherwise starts the server. -/
theorem run_launchBegin_of_made {st : InstallStatus} {md : Metadata} (h : w.installation = .ok st)
    (hk : st.kind ≠ .notInstalled ∧ st.kind ≠ .outdated)
    (hm : (launchChecked w (some st.version)).source.build (launchChecked w (some st.version)).credentials
      (.int (Int.ofNat w.life.counters.requests)) st.version = .ok md) (hf : w.folderError = none) :
    StateT.run launchBegin w =
      StateT.run (do
        match ← claimStartGate with
        | some c => return .wait c (.launchAwaitingStart w.life.phase w.servers.size)
        | none => launchStarted w.life.phase w.servers.size) (launchMade w st.version md) := by
  obtain ⟨h1, h2⟩ := hk
  cases hkind : st.kind with
  | notInstalled => exact absurd hkind h1
  | outdated => exact absurd hkind h2
  | installed | unsupported =>
    simp only [launchBegin, StateT.run_bind, StateT.run_get, h, hkind, setPhase, onLife,
      StateT.run_modify, StateT.run_pure, pure_bind, buildMetadata]
    simp only [launchChecked, Option.getD_some] at hm
    simp only [hm, StateT.run_bind, StateT.run_get, pure_bind]
    split
    · next heq => rw [hf] at heq; cases heq
    · simp only [StateT.run_bind, StateT.run_get, StateT.run_modify, pure_bind]
      rw [← h]
      rfl

/-- A launch whose manager folder the file system refuses ends with the system's error, keeping the
version found. -/
theorem run_launchBegin_of_folder {st : InstallStatus} {md : Metadata} {kind message : String}
    (h : w.installation = .ok st) (hk : st.kind ≠ .notInstalled ∧ st.kind ≠ .outdated)
    (hm : (launchChecked w (some st.version)).source.build (launchChecked w (some st.version)).credentials
      (.int (Int.ofNat w.life.counters.requests)) st.version = .ok md)
    (hf : w.folderError = some (kind, message)) :
    StateT.run launchBegin w =
      StateT.run (launchEnd w.life.phase (.failed (.system kind message))) (launchChecked w (some st.version)) := by
  obtain ⟨h1, h2⟩ := hk
  cases hkind : st.kind with
  | notInstalled => exact absurd hkind h1
  | outdated => exact absurd hkind h2
  | installed | unsupported =>
    simp only [launchBegin, StateT.run_bind, StateT.run_get, h, hkind, setPhase, onLife,
      StateT.run_modify, StateT.run_pure, pure_bind, buildMetadata]
    simp only [launchChecked, Option.getD_some] at hm
    simp only [hm, StateT.run_bind, StateT.run_get, pure_bind]
    split
    · next heq =>
      rw [hf] at heq
      cases heq
      rw [← h]
      rfl
    · next heq => rw [hf] at heq; cases heq

/-- A launch's first step either fails before it makes a server, ending with a fault in the world
where the check recorded the version it found, if it found one, or makes a server with the
metadata it built, once the installation is usable and the manager folder made. -/
theorem run_launchBegin_cases :
    (∃ v f, (v = none ∨ ∃ st, w.installation = .ok st ∧ v = some st.version) ∧
      StateT.run launchBegin w = StateT.run (launchEnd w.life.phase (.failed f)) (launchChecked w v)) ∨
    ∃ st md, w.installation = .ok st ∧
      (launchChecked w (some st.version)).source.build (launchChecked w (some st.version)).credentials
        (.int (Int.ofNat w.life.counters.requests)) st.version = .ok md ∧
      StateT.run launchBegin w =
        StateT.run (do
          match ← claimStartGate with
          | some c => return .wait c (.launchAwaitingStart w.life.phase w.servers.size)
          | none => launchStarted w.life.phase w.servers.size) (launchMade w st.version md) := by
  cases hi : w.installation with
  | error f => exact .inl ⟨none, f, .inl rfl, run_launchBegin_of_error w hi⟩
  | ok st =>
    -- the check found a version, which the failing launch records
    have hv : some st.version = none ∨
        ∃ st', (Except.ok st : Except Fault InstallStatus) = .ok st' ∧ some st.version = some st'.version :=
      .inr ⟨st, rfl, rfl⟩
    by_cases hn : st.kind = .notInstalled
    · exact .inl ⟨none, _, .inl rfl, run_launchBegin_of_notInstalled w hi hn⟩
    by_cases ho : st.kind = .outdated
    · exact .inl ⟨_, _, hv, run_launchBegin_of_outdated w hi ho⟩
    cases hm : (launchChecked w (some st.version)).source.build
        (launchChecked w (some st.version)).credentials
        (.int (Int.ofNat w.life.counters.requests)) st.version with
    | error f => exact .inl ⟨_, f, hv, run_launchBegin_of_metadata w hi ⟨hn, ho⟩ hm⟩
    | ok md =>
      cases hf : w.folderError with
      | some e => exact .inl ⟨_, _, hv, run_launchBegin_of_folder w hi ⟨hn, ho⟩ hm hf⟩
      | none => exact .inr ⟨st, md, rfl, hm, run_launchBegin_of_made w hi ⟨hn, ho⟩ hm hf⟩

/-! ## Sequencing -/

/-- An action followed by another runs the second from the world the first leaves, with the
value the first returns. -/
theorem run_bind' {α β : Type} (x : Act α) (f : α → Act β) :
    StateT.run (x >>= f) w = StateT.run (f (StateT.run x w).1) (StateT.run x w).2 := rfl

theorem run_get' : StateT.run (get : Act World) w = (w, w) := rfl

theorem exec_receive (s : Nat) (r : Request) :
    w.exec (receive s r) =
      if (w.servers.getD s default).started then { w with received := w.received ++ [(s, r)] } else w := by
  simp only [World.exec, run_receive]
  split <;> rfl

/-! ## The heartbeat and the notices -/

theorem run_heartbeatBegin (s : Nat) (md : Metadata) :
    StateT.run (heartbeatBegin s md) w =
      let w₁ := w.exec (receive s (.heartbeat md))
      (.wait w₁.queue.cells.size (.heartbeatAsleep s md), { w₁ with queue := w₁.queue.newCell.1 }) :=
  rfl

/-- The end of a heartbeat's sleep gives the cell it sleeps on an empty result; where no heartbeat
sleeps it changes nothing. -/
theorem exec_elapse (t : CellId) :
    w.exec (elapse t) = w ∨ ∃ s md c, (w.queue.cell t).result = none ∧
      (w.queue.cell t).point = some (.heartbeatAsleep s md) ∧ (w.queue.cell t).waitsFor = some c ∧
      w.exec (elapse t) = { w with queue := w.queue.finish c (.value .unit) } := by
  simp only [World.exec, elapse, StateT.run_bind, StateT.run_get, pure_bind]
  split
  · next s md c hr hp hw => exact .inr ⟨s, md, c, hr, hp, hw, rfl⟩
  · exact .inl rfl

/-- The end of a heartbeat's sleep changes the run queue alone. -/
theorem exec_elapse_queue (t : CellId) :
    w.exec (elapse t) = { w with queue := (w.exec (elapse t)).queue } := by
  rcases exec_elapse w t with he | ⟨s, md, c, -, -, -, he⟩ <;> rw [he]

/-- A cancel notice goes out, and is counted, only while a server runs. -/
theorem run_cancelNotice_of_running {s : Nat} (rid : Nat) (hs : w.life.server = some s)
    (hp : w.life.phase = .running) :
    StateT.run (cancelNotice rid) w =
      ((), ({ w with life := { w.life with counters := { w.life.counters with
                cancellations := w.life.counters.cancellations + 1 } } } : World).exec
              (receive s (.cancel (.int rid) w.source.sessionId))) := by
  simp only [cancelNotice, StateT.run_bind, StateT.run_get, hs, hp, if_true, onLife, StateT.run_modify,
    pure_bind]
  rfl

theorem run_cancelNotice_of_not_running (rid : Nat)
    (h : ∀ s, w.life.server = some s → w.life.phase ≠ .running) :
    StateT.run (cancelNotice rid) w = ((), w) := by
  cases hs : w.life.server with
  | none => simp only [cancelNotice, StateT.run_bind, StateT.run_get, hs, pure_bind]; rfl
  | some s =>
    simp only [cancelNotice, StateT.run_bind, StateT.run_get, hs, h s hs, if_false, pure_bind]
    rfl

theorem run_acceptWith (completionId : Value) (s : Nat) :
    StateT.run (acceptWith completionId s) w =
      (.done (.value .unit), match (StateT.run (buildMetadata .null) w).1 with
        | .error _ => w
        | .ok md => w.exec (receive s (.accept md completionId))) := by
  rcases hb : (StateT.run (buildMetadata .null) w).1 with f | md <;>
    simp only [acceptWith, run_bind', hb] <;> rfl

/-! ## Completion -/

/-- Superseding marks every job in flight, cancels its task, and leaves no job in flight. -/
theorem run_supersedeAll :
    StateT.run supersedeAll w =
      ((), { w.ongoing.foldl (fun w' j =>
                { w' with jobs := w'.jobs.modify j fun job => { job with superseded := true },
                          queue := w'.queue.cancelTask (w.jobs.getD j default).task }) w with
              ongoing := [] }) := by
  simp only [supersedeAll, StateT.run_bind, StateT.run_get, pure_bind]
  rw [run_forIn_unit _ _ _ (fun _ _ => rfl)]
  rfl

theorem run_completeEnd (j : Nat) (o : Outcome) :
    StateT.run (completeEnd j o) w =
      let w₁ := { w with ongoing := w.ongoing.erase j }
      (.done (match o with
        | .failed f => .failed f
        | _ => if (w₁.jobs.getD j default).superseded then .failed .superseded else o), w₁) := by
  cases o <;> rfl

/-- The world in which a completion call has superseded the calls in flight, queued a cancel
notice for the previous request and taken the next request id. -/
def completeStart (w : World) : World :=
  let w₁ := w.exec supersedeAll
  let w₂ := w₁.exec (spawnBackground (.cancelNotice w₁.life.counters.requests))
  { w₂ with life := { w₂.life with counters := { w₂.life.counters with
      requests := w₁.life.counters.requests + 1 } } }

/-- A completion call whose request builds runs a new job for it and waits for the job's task. -/
theorem run_completeBegin (call : CompletionCall) :
    StateT.run (completeBegin call) w =
      let w₃ := completeStart w
      match (StateT.run (buildRequest w₃.life.counters.requests call) w₃).1 with
      | .error f => (.done (.failed f), w₃)
      | .ok request =>
        (.wait w₃.queue.cells.size (.completeAwaitingJob w₃.jobs.size),
          { w₃ with
            queue := (w₃.queue.spawn (.job w₃.jobs.size)).1,
            jobs := w₃.jobs.push { requestId := w₃.life.counters.requests, request,
                                   cursor := call.cursor, task := w₃.queue.cells.size },
            ongoing := w₃.ongoing ++ [w₃.jobs.size] }) := by
  dsimp only
  rcases hb : (StateT.run (buildRequest (completeStart w).life.counters.requests call)
    (completeStart w)).1 with f | request
  all_goals
    dsimp only [completeBegin, completeStart, run_bind', run_get', World.exec, run_onLife] at hb ⊢
    rw [hb]
    rfl

/-- What a job's reply gives once its gate let it through: the suggestions of the reply at the
job's cursor, unless the reply does not decode or the job was superseded. -/
def replyOutcome (w : World) (j : Nat) : Outcome :=
  let job := w.jobs.getD j default
  match CompletionReply.decode (w.script.reply.getD (defaultReply (.int job.requestId))) with
  | .error f => .failed f
  | .ok reply => if job.superseded then .failed .superseded else .value (.suggestions (reply.suggestions job.cursor))

/-- Reading a job's reply changes nothing. -/
theorem run_jobReply (j : Nat) : StateT.run (jobReply j) w = (.done (replyOutcome w j), w) := by
  dsimp only [jobReply, replyOutcome, run_bind', run_get']
  cases CompletionReply.decode
      (w.script.reply.getD (defaultReply (.int (w.jobs.getD j default).requestId))) with
  | error f => rfl
  | ok reply =>
    dsimp only
    rw [run_bind', run_isSuperseded]
    cases (w.jobs.getD j default).superseded <;> rfl

theorem run_seqRight' {α β : Type} (x : Act α) (y : Act β) :
    StateT.run (x *> y) w = StateT.run y (StateT.run x w).2 := rfl

/-- Superseding changes the jobs and the queue only. -/
theorem life_supersedeAll : (w.exec supersedeAll).life = w.life := by
  simp only [World.exec, run_supersedeAll]
  -- every step of the fold keeps the lifecycle
  have : ∀ (l : List Nat) (w' : World), (l.foldl (fun w' j =>
      { w' with jobs := w'.jobs.modify j fun job => { job with superseded := true },
                queue := w'.queue.cancelTask (w.jobs.getD j default).task }) w').life = w'.life := by
    intro l
    induction l with
    | nil => intro _; rfl
    | cons j l ih => intro w'; exact ih _
  exact this _ _

/-! ## Stopping -/

theorem run_stopDrain_false : StateT.run (stopDrain false) w = (.done (.value .unit), w) := rfl

/-- A closing stop cancels the background tasks and, if there are any, waits for all of them
through a new cell that counts them. -/
theorem run_stopDrain_true :
    StateT.run (stopDrain true) w =
      let w₁ := w.background.foldl (fun w x => w.exec (cancel x)) w
      if w.background.isEmpty then (.done (.value .unit), w₁)
      else
        (.wait w₁.queue.cells.size .stopAwaitingDrain,
          w.background.foldl (fun w x => w.exec (listen x (.tally w₁.queue.cells.size)))
            { w₁ with queue := w₁.queue.newCell.1.modifyCell w₁.queue.cells.size fun cell =>
                { cell with remaining := w.background.length } }) := by
  simp only [stopDrain, Bool.not_true, Bool.false_eq_true, if_false]
  dsimp only [run_bind', run_get']
  rw [run_forIn_unit _ _ _ (fun _ _ => rfl)]
  by_cases hb : w.background.isEmpty = true
  · simp only [hb, if_true]
    rfl
  · simp only [hb, if_false, Bool.false_eq_true]
    dsimp only [run_bind', newCell, onQueue, StateT.run_modifyGet, StateT.run_modify]
    rw [run_forIn_unit _ _ _ (fun _ _ => rfl)]
    rfl

theorem run_stopTerminate (closing : Bool) (s : Nat) :
    StateT.run (stopTerminate closing s) w =
      StateT.run (stopDrain closing)
        (({ w with servers := w.servers.modify s fun e => { e with terminated := true } } : World).exec
          (clearServer s)) := rfl

theorem run_stopAfterLaunch_of_none (closing : Bool) (hs : w.life.server = none) :
    StateT.run (stopAfterLaunch closing) w = StateT.run (stopDrain closing) w := by
  simp only [stopAfterLaunch, StateT.run_bind, StateT.run_get, hs, pure_bind]

/-- A stop clears the current server; it waits for the server's heartbeat, if that was still
running, and then terminates the server. -/
theorem run_stopAfterLaunch_of_beat (closing : Bool) {s h : Nat} (hs : w.life.server = some s)
    (hh : w.life.heartbeat = some h) :
    StateT.run (stopAfterLaunch closing) w =
      if (w.exec (clearServer s)).queue.isDone h then
        StateT.run (stopTerminate closing s) (w.exec (clearServer s))
      else (.wait h (.stopAwaitingHeartbeat closing s), w.exec (clearServer s)) := by
  dsimp only [stopAfterLaunch, run_bind', run_get']
  simp only [hs, hh]
  dsimp only [run_bind', run_isDone, World.exec]
  by_cases hd : (StateT.run (clearServer s) w).2.queue.isDone h = true
  · simp only [hd, if_true]
  · simp only [hd, if_false, Bool.false_eq_true]
    rfl

theorem run_stopAfterLaunch_of_no_beat (closing : Bool) {s : Nat} (hs : w.life.server = some s)
    (hh : w.life.heartbeat = none) :
    StateT.run (stopAfterLaunch closing) w =
      StateT.run (stopTerminate closing s) (w.exec (clearServer s)) := by
  simp only [stopAfterLaunch, StateT.run_bind, StateT.run_get, hs, hh, pure_bind]
  rfl

/-- The world a stop starts from: a closing one supersedes the jobs in flight first. -/
def stopStart (w : World) (closing : Bool) : World := if closing then w.exec supersedeAll else w

theorem life_stopStart (closing : Bool) : (stopStart w closing).life = w.life := by
  cases closing
  · rfl
  · exact life_supersedeAll w

/-- A stop while a launch is under way waits for the end of the launch. -/
theorem run_stopBegin_of_launch (closing : Bool) {l : CellId} (hl : w.life.launch = some l) :
    StateT.run (stopBegin closing) w =
      let w₀ := stopStart w closing
      (.wait w₀.queue.cells.size (.stopAwaitingLaunch closing),
        { w₀ with queue := w₀.queue.newCell.1.listen l (.signal w₀.queue.cells.size) }) := by
  cases closing
  · simp only [stopBegin, Bool.false_eq_true, if_false]
    dsimp only [run_bind', run_get']
    simp only [hl]
    rfl
  · have hl' : (StateT.run supersedeAll w).2.life.launch = some l := by
      rw [← World.exec, life_supersedeAll, hl]
    simp only [stopBegin, if_true]
    dsimp only [run_bind', run_get']
    simp only [hl']
    rfl

theorem run_stopBegin_of_none (closing : Bool) (hl : w.life.launch = none) :
    StateT.run (stopBegin closing) w = StateT.run (stopAfterLaunch closing) (stopStart w closing) := by
  cases closing
  · simp only [stopBegin, Bool.false_eq_true, if_false]
    dsimp only [run_bind', run_get']
    simp only [hl]
    rfl
  · have hl' : (StateT.run supersedeAll w).2.life.launch = none := by
      rw [← World.exec, life_supersedeAll, hl]
    simp only [stopBegin, if_true]
    dsimp only [run_bind', run_get']
    simp only [hl']
    rfl

/-! ## Waking -/

section Wake

variable {t : CellId}

theorem run_start_of_done (h : (w.queue.cell t).result.isSome = true) : StateT.run (start t) w = ((), w) := by
  dsimp only [start, run_bind', run_get']
  simp only [h, if_true]
  rfl

/-- A task cancelled before it started ends at once. -/
theorem run_start_of_cancelled (h : (w.queue.cell t).result = none)
    (hc : (w.queue.cell t).cancelPending = true) :
    StateT.run (start t) w = ((), { w with queue := w.queue.finish t .cancelled }) := by
  dsimp only [start, run_bind', run_get']
  simp only [h, hc, Option.isSome_none, Bool.false_eq_true, if_false, if_true]
  rfl

/-- A task that starts runs from its point with an empty input, and records how it left off. -/
theorem run_start {p : Point} (h : (w.queue.cell t).result = none)
    (hc : (w.queue.cell t).cancelPending = false) (hp : (w.queue.cell t).point = some p) :
    StateT.run (start t) w =
      ((), (StateT.run (run p (.value .unit)) w).2.exec (advance t (StateT.run (run p (.value .unit)) w).1)) := by
  dsimp only [start, run_bind', run_get']
  simp only [h, hc, hp, Option.isSome_none, Bool.false_eq_true, if_false]
  rfl

/-- A notice to a task that no longer waits for its source does nothing. -/
theorem run_resume_of_stale {src : CellId}
    (h : (w.queue.cell t).result.isSome = true ∨ (w.queue.cell t).waitsFor ≠ some src) :
    StateT.run (resume t src) w = ((), w) := by
  dsimp only [resume, run_bind', run_get']
  have hs : ((w.queue.cell t).result.isSome || (w.queue.cell t).waitsFor != some src) = true := by
    rcases h with h | h
    · simp [h]
    · simp [h]
  simp only [hs, if_true]
  rfl

/-- A task woken by the cell it waits for runs from its point with that cell's result, or with a
cancellation due to it, and records how it left off. -/
theorem run_resume {src : CellId} {p : Point} (h : (w.queue.cell t).result = none)
    (hw : (w.queue.cell t).waitsFor = some src) (hp : (w.queue.cell t).point = some p) :
    StateT.run (resume t src) w =
      let input := if (w.queue.cell t).cancelPending then .cancelled
        else (w.queue.cell src).result.getD .cancelled
      ((), (StateT.run (run p input) (w.wakeUp t)).2.exec
        (advance t (StateT.run (run p input) (w.wakeUp t)).1)) := by
  dsimp only [resume, run_bind', run_get']
  simp only [h, hw, hp, Option.isSome_none, bne_self_eq_false, Bool.or_self, Bool.false_eq_true,
    if_false]
  rfl

theorem run_notify_resume (x src : CellId) :
    StateT.run (notify (.resume x) src) w = StateT.run (resume x src) w := rfl

/-- A relay passes the source's result on, unless its cell has one. -/
theorem run_notify_relay (c src : CellId) :
    StateT.run (notify (.relay c) src) w =
      ((), if w.queue.isDone c then w
        else { w with queue := w.queue.finish c ((w.queue.cell src).result.getD .cancelled) }) := by
  cases hd : w.queue.isDone c <;> simp only [notify, run_bind', run_get', hd] <;> rfl

theorem run_notify_signal (c src : CellId) :
    StateT.run (notify (.signal c) src) w = ((), { w with queue := w.queue.finish c (.value .unit) }) :=
  rfl

/-- A tally fills its cell on the last task it counts, and otherwise counts one task less. -/
theorem run_notify_tally (g src : CellId) :
    StateT.run (notify (.tally g) src) w =
      ((), if (w.queue.cell g).result.isSome then w
        else if (w.queue.cell g).remaining ≤ 1 then { w with queue := w.queue.finish g (.value .unit) }
        else { w with queue := w.queue.modifyCell g fun cell =>
          { cell with remaining := cell.remaining - 1 } }) := by
  cases hr : (w.queue.cell g).result <;>
    by_cases hn : (w.queue.cell g).remaining ≤ 1 <;>
    simp only [notify, run_bind', run_get', hr, hn, Option.isNone_none, Option.isNone_some,
      Option.isSome_none, Option.isSome_some, if_true, if_false, Bool.false_eq_true] <;> rfl

theorem run_notify_forget (x src : CellId) :
    StateT.run (notify (.forget x) src) w = ((), { w with background := w.background.erase x }) :=
  rfl

end Wake

end Act

end CompletionClient.Service
