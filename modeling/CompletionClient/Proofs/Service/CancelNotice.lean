import CompletionClient.Proofs.Service.RequestContext
/-!
# Cancel notices

A completion call tells the server to drop the request before it: it starts a
background task that sends a cancel notice.  The notice names the id the
request counter held when the call began, which is one below the id of the
call's own request.  That is the id of the previous call's request only while
nothing else moved the counter: a call that failed after it took its id, or a
reset when a server ended, also moves it, and a first call names the id `0`.

Whether the notice is sent is decided when its task runs, from the server that
is current then: it goes to that server, with the session id the service has
then, exactly when the server is running and started (`received_cancelNotice`).
So the first call in a service whose server already runs sends a notice for the
id `0`.
-/

namespace CompletionClient.Service

namespace Act

variable (w : World)

/-- The log after a cancel notice: one notice to the current server if it is running and
started, with the service's session id. -/
theorem received_cancelNotice (rid : Nat) :
    (w.exec (cancelNotice rid)).received =
      match w.life.server with
      | some s =>
        if w.life.phase = .running ∧ (w.servers.getD s default).started then
          w.received ++ [(s, .cancel (.int rid) w.source.sessionId)]
        else w.received
      | none => w.received := by
  cases hs : w.life.server with
  | none =>
    rw [World.exec, run_cancelNotice_of_not_running w rid fun s h => by simp [hs] at h]
  | some s =>
    by_cases hp : w.life.phase = .running
    · rw [World.exec, run_cancelNotice_of_running w rid hs hp, exec_receive]
      -- the counters changed, the servers did not
      by_cases hst : (w.servers.getD s default).started
      · simp only [hst, hp, and_self, if_true]
      · simp only [hst, hp, and_false, if_false, Bool.false_eq_true]
    · rw [World.exec, run_cancelNotice_of_not_running w rid fun s' _ => hp]
      simp only [hp, false_and, if_false]

/-- Where a completion call builds its request, its cancel notice is the first new task, in the
background, for the id the counter held; the server, the servers, the log and the session are
those it began with. -/
theorem completeStart_notice :
    ((completeStart w).queue.cell w.queue.cells.size).point = some (.cancelNotice w.life.counters.requests) ∧
      w.queue.cells.size ∈ (completeStart w).background ∧
      (completeStart w).queue.cells.size = w.queue.cells.size + 1 ∧
      (completeStart w).life.server = w.life.server ∧ (completeStart w).life.phase = w.life.phase ∧
      (completeStart w).servers = w.servers ∧ (completeStart w).received = w.received ∧
      (completeStart w).source = w.source := by
  have hlife := life_supersedeAll w
  obtain ⟨jobs, queue, hsize₀, h⟩ := exec_supersedeAll_eq w
  have hsize : (w.exec supersedeAll).queue.cells.size = w.queue.cells.size := by rw [h]; exact hsize₀
  have hbg : (w.exec supersedeAll).background = w.background := by rw [h]
  have hsrv : (w.exec supersedeAll).servers = w.servers := by rw [h]
  have hlog : (w.exec supersedeAll).received = w.received := by rw [h]
  have hsrc : (w.exec supersedeAll).source = w.source := by rw [h]
  unfold completeStart
  generalize w.exec supersedeAll = w₁ at hsize hlife hbg hsrv hlog hsrc
  simp only [World.exec, run_spawnBackground, hlife, hsize, hbg, hsrv, hlog, hsrc]
  refine ⟨?_, List.mem_append_right _ (List.mem_singleton_self _), ?_, trivial, trivial, trivial, trivial,
    trivial⟩
  · rw [RunQueue.point_listen, RunQueue.cell_spawn, if_pos hsize.symm]
  · simp only [RunQueue.size_listen, RunQueue.size_spawn, hsize]

/-- A completion call leaves its cancel notice as the first new task, in the background, and keeps
the server, the servers, the log and the session. -/
theorem completeBegin_notice (call : CompletionCall) :
    let w' := w.exec (completeBegin call)
    ((w'.queue.cell w.queue.cells.size).point = some (.cancelNotice w.life.counters.requests) ∧
      w.queue.cells.size ∈ w'.background) ∧
      w'.life.server = w.life.server ∧ w'.life.phase = w.life.phase ∧ w'.servers = w.servers ∧
      w'.received = w.received ∧ w'.source = w.source := by
  obtain ⟨hp, hb, hs, hserver, hphase, hsrv, hlog, hsrc⟩ := completeStart_notice w
  intro w'
  simp only [w', World.exec]
  rw [run_completeBegin]
  dsimp only
  split
  · exact ⟨⟨hp, hb⟩, hserver, hphase, hsrv, hlog, hsrc⟩
  · refine ⟨⟨?_, hb⟩, hserver, hphase, hsrv, hlog, hsrc⟩
    show (((completeStart w).queue.spawn _).1.cell _).point = _
    have hne : w.queue.cells.size ≠ (completeStart w).queue.cells.size := by omega
    rw [RunQueue.cell_spawn, if_neg hne, hp]

/-- The job a completion call starts asks with the id one above the counter's. -/
theorem completeBegin_requestId (call : CompletionCall) {t : CellId} {j : Nat} {w' : World}
    (h : StateT.run (completeBegin call) w = (.wait t (.completeAwaitingJob j), w')) :
    (w'.jobs.getD j default).requestId = w.life.counters.requests + 1 := by
  rw [run_completeBegin] at h
  dsimp only at h
  split at h
  · cases h
  · cases h
    simp only [Array.getD_eq_getD_getElem?, Array.getElem?_push_size, Option.getD_some]
    exact (completeStart_frame w).2.2.2.2.2

end Act

/-- A completion call begun in `w` leaves, as its first new task and in the background, a task
that sends a cancel notice for the id the request counter held, one below the id of the call's own
request.  Whenever that task's step runs, in a world `v`, it sends the notice, with `v`'s session
id, to `v`'s server exactly when that server is current, running and started, and sends nothing
otherwise. -/
theorem completeBegin_cancel_notice (w : World) (call : CompletionCall) :
    let rid := w.life.counters.requests
    let w' := w.exec (Act.completeBegin call)
    ((w'.queue.cell w.queue.cells.size).point = some (.cancelNotice rid) ∧
        w.queue.cells.size ∈ w'.background) ∧
      (∀ t j w'', StateT.run (Act.completeBegin call) w = (.wait t (.completeAwaitingJob j), w'') →
        (w''.jobs.getD j default).requestId = rid + 1) ∧
      ∀ v o, (StateT.run (Act.run (.cancelNotice rid) o) v).2.received =
        match v.life.server with
        | some s =>
          if v.life.phase = .running ∧ (v.servers.getD s default).started then
            v.received ++ [(s, .cancel (.int rid) v.source.sessionId)]
          else v.received
        | none => v.received :=
  ⟨(Act.completeBegin_notice w call).1, fun _ _ _ h => Act.completeBegin_requestId w call h,
    fun v _ => Act.received_cancelNotice v _⟩

/-- The first call in a service whose server runs: no request was built before it, yet its cancel
notice, run right after it, reaches the server and names the id `0`. -/
theorem cancel_notice_of_first_call :
    let w : World :=
      { life := { phase := .running, server := some 0 },
        servers := #[{ started := true, launchMetadata := default }], projectRoot := "/project",
        credentials := ⟨.str "key"⟩, source := ⟨.str "xcode", .str "14.0.0", none, .str "session-test"⟩,
        installation := .error .notSignedIn, resetOnRestart := true }
    let w' := w.exec (Act.completeBegin default)
    w.life.counters.requests = 0 ∧ w.jobs = #[] ∧
      (w'.queue.cell 0).point = some (.cancelNotice 0) ∧
      (StateT.run (Act.run (.cancelNotice 0) (.value .unit)) w').2.received =
        [(0, .cancel (.int 0) (.str "session-test"))] := by
  intro w w'
  obtain ⟨⟨hp, -⟩, hserver, hphase, hsrv, hlog, hsrc⟩ := Act.completeBegin_notice w default
  refine ⟨rfl, rfl, hp, ?_⟩
  show (w'.exec (Act.cancelNotice 0)).received = _
  have hs : w.life.server = some 0 := rfl
  rw [Act.received_cancelNotice, hserver, hs]
  dsimp only
  rw [if_pos ⟨hphase, by rw [hsrv]; rfl⟩, hlog, hsrc]
  rfl

end CompletionClient.Service
