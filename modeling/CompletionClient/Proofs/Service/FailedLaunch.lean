import CompletionClient.Proofs.Service.Lifecycle
/-!
# A launch that fails

A launch checks the installation, builds the launch metadata, makes a manager
folder and a server, and starts the server; any of these can fail.  The step
of the launch task that fails undoes what the launch did
(`World.launch_failure_undone`): it leaves no server, no heartbeat and no
launch under way, it puts back the phase the launch found (recorded in the
task's program point once it waits for its start, `Point.foundPhase`), it
removes the manager folder the launch made, and of the rest of the lifecycle
only the version changes, to what the check reported.

It does not leave the counters alone.  A failed start clears its server as a
termination does (`Act.clearServer`), and where ids start afresh after a
termination that resets the request and cancellation counters, whatever
calls took ids while the server was starting.  It happens exactly when the
failing step takes down a server of its own that is still current
(`Point.clearsOwn`): the server the first step made and started at once, or
the server the launch waited to start, unless its termination report cleared
it before.  A run in which a completion call waits for a launch whose start
then fails shows the request counter go from 1 to 0 in the failing step
(`failed_start_resets_counters`).

The argument splits the failing step by where it fails
(`Act.run_launchBegin_cases`): at the check, the metadata or the manager
folder, which the file system may refuse, before anything is made
(`World.launchEnd_checked_undone`), or at the start, which aborts the launch
(`World.launchAbort_undone`).  The shapes
of the lifecycle give what each needs: a launch that begins finds no server
and so no heartbeat, and one that waits to start finds no server or its own.
-/

namespace CompletionClient.Service

namespace Point

/-- The phase a launch at this point found when it began: the current one at its first point, the
one it recorded once it waits to start its server. -/
def foundPhase (current : Phase) : Point → Phase
  | .launchAwaitingStart previous _ => previous
  | _ => current

/-- How many manager folders a launch at this point has made: one once it waits to start its
server. -/
def madeFolders : Point → Nat
  | .launchAwaitingStart .. => 1
  | _ => 0

/-- Whether a failing step from this point, begun in `w` and leaving `w'`, took down a server of
its own: at its first point the server it made, once it waits the server it waits to start, if
that one is still current. -/
def clearsOwn (w w' : World) : Point → Bool
  | .launchAwaitingStart _ s => w.life.server == some s
  | _ => decide (w.servers.size < w'.servers.size)

end Point

namespace Act

variable {u : World}

theorem fst_launchEnd (previous : Phase) (o : Outcome) :
    (StateT.run (launchEnd previous o) u).1 = .done o := by
  cases o with
  | value r => rw [run_launchEnd_value]
  | failed f => rw [run_launchEnd_of_not_value _ _ fun _ h => by cases h]
  | cancelled => rw [run_launchEnd_of_not_value _ _ fun _ h => by cases h]

theorem fst_launchAbort (previous : Phase) (s : Nat) (o : Outcome) :
    (StateT.run (launchAbort previous s o) u).1 = .done o := by
  rw [run_launchAbort, fst_launchEnd]

theorem servers_launchEnd (previous : Phase) (o : Outcome) :
    (StateT.run (launchEnd previous o) u).2.servers = u.servers := by
  cases o with
  | value r => rw [run_launchEnd_value]
  | failed f => rw [run_launchEnd_of_not_value _ _ fun _ h => by cases h]
  | cancelled => rw [run_launchEnd_of_not_value _ _ fun _ h => by cases h]

theorem servers_launchAbort (previous : Phase) (s : Nat) (o : Outcome) :
    (StateT.run (launchAbort previous s o) u).2.servers = u.servers := by
  rw [run_launchAbort, servers_launchEnd]
  by_cases hc : u.life.server = some s
  · rw [World.exec, run_clearServer_of_current u hc]
  · rw [World.exec, run_clearServer_of_ne u hc]

/-- Taking a start gate changes the gates and the run queue only. -/
theorem claimStartGate_keeps :
    (StateT.run claimStartGate u).2.life = u.life ∧
      (StateT.run claimStartGate u).2.managerFolders = u.managerFolders ∧
      (StateT.run claimStartGate u).2.servers = u.servers ∧
      (StateT.run claimStartGate u).2.resetOnRestart = u.resetOnRestart ∧
      (StateT.run claimStartGate u).2.installation = u.installation := by
  cases hu : u.startGates.untaken with
  | nil => rw [run_claimStartGate_of_nil u hu]; exact ⟨rfl, rfl, rfl, rfl, rfl⟩
  | cons g rest =>
    cases ho : (u.startGates.gates.getD g {}).isOpen
    · rw [run_claimStartGate_of_closed u hu ho]; exact ⟨rfl, rfl, rfl, rfl, rfl⟩
    · rw [run_claimStartGate_of_open u hu ho]; exact ⟨rfl, rfl, rfl, rfl, rfl⟩

/-- A start of a launch's server that fails aborts the launch with the scripted fault, in a world
that differs from `u` at most by the start error, cleared if it clears itself. -/
theorem launchStarted_failed {previous : Phase} {s : Nat} {f : Fault} {w' : World}
    (hrun : StateT.run (launchStarted previous s) u = (.done (.failed f), w')) :
    ∃ u', u'.life = u.life ∧ u'.managerFolders = u.managerFolders ∧ u'.servers = u.servers ∧
      u'.resetOnRestart = u.resetOnRestart ∧ u'.installation = u.installation ∧
      StateT.run (launchAbort previous s (.failed f)) u' = (.done (.failed f), w') := by
  by_cases he : u.script.startError = .null
  · rw [run_launchStarted_of_null u previous s he] at hrun
    dsimp only at hrun
    rw [run_launchEnd_value] at hrun
    cases hrun
  · rw [run_launchStarted_of_error u previous s he] at hrun
    -- the fault is the scripted start error
    have hres := congrArg Prod.fst hrun
    rw [fst_launchAbort] at hres
    injection hres with hres
    injection hres with hres
    subst hres
    split at hrun
    · exact ⟨{ u with script := { u.script with startError := .null } }, rfl, rfl, rfl, rfl, rfl, hrun⟩
    · exact ⟨u, rfl, rfl, rfl, rfl, rfl, hrun⟩

end Act

namespace World

/-- What a failing step of a launch leaves in `w'`, against the world `w` it began in: no server,
no heartbeat and no launch under way; the phase `found`; `made` manager folders fewer; the
counters reset when `cleared` and ids start afresh, else as they were; and the version as it was,
or as the installation check reported it. -/
structure LaunchUndone (w w' : World) (found : Phase) (made : Nat) (cleared : Bool) : Prop where
  server : w'.life.server = none
  heartbeat : w'.life.heartbeat = none
  launch : w'.life.launch = none
  phase : w'.life.phase = found
  folders : w'.managerFolders = w.managerFolders - made
  counters : w'.life.counters = if w.resetOnRestart && cleared then {} else w.life.counters
  version : w'.life.serverVersion = w.life.serverVersion ∨
    ∃ st, w.installation = .ok st ∧ w'.life.serverVersion = st.version

variable {w u : World}

/-- What a failing step leaves, said against a world `u` that differs from the one it began in by
folders it made and by the version the check reported, holds against that one. -/
theorem LaunchUndone.rebase {w' : World} {found : Phase} {made k : Nat} {cleared : Bool}
    (h : LaunchUndone u w' found made cleared) (hk : k ≤ made)
    (hf : u.managerFolders = w.managerFolders + k) (hc : u.life.counters = w.life.counters)
    (hr : u.resetOnRestart = w.resetOnRestart) (hi : u.installation = w.installation)
    (hv : u.life.serverVersion = w.life.serverVersion ∨
      ∃ st, w.installation = .ok st ∧ u.life.serverVersion = st.version) :
    LaunchUndone w w' found (made - k) cleared where
  server := h.server
  heartbeat := h.heartbeat
  launch := h.launch
  phase := h.phase
  folders := by rw [h.folders, hf]; omega
  counters := by rw [h.counters, hc, hr]
  version := by
    rcases h.version with hu | ⟨st, hst, hst'⟩
    · rw [hu]; exact hv
    · rw [hi] at hst; exact .inr ⟨st, hst, hst'⟩

/-- A failed start, from a world whose server is none or the one started: the server is cleared if
current, its folder removed, and the launch ends with the phase it found. -/
theorem launchAbort_undone (previous : Phase) {s : Nat} {o : Outcome} (ho : ∀ r, o ≠ .value r)
    (hs : u.life.server = none ∨ u.life.server = some s)
    (hh : u.life.server = none → u.life.heartbeat = none) :
    (StateT.run (Act.launchAbort previous s o) u).1 = .done o ∧
      LaunchUndone u (StateT.run (Act.launchAbort previous s o) u).2 previous 1
        (u.life.server == some s) := by
  rw [Act.run_launchAbort]
  rcases hs with hn | hc
  · rw [World.exec, Act.run_clearServer_of_ne u (by rw [hn]; intro h; cases h),
      Act.run_launchEnd_of_not_value _ _ ho]
    exact ⟨rfl, hn, hh hn, rfl, by simp [hn], rfl, by simp [hn], .inl rfl⟩
  · rw [World.exec, Act.run_clearServer_of_current u hc, Act.run_launchEnd_of_not_value _ _ ho]
    exact ⟨rfl, rfl, rfl, rfl, rfl, rfl, by simp [hc], .inl rfl⟩

/-- A launch whose check fails, from a world with no server and no heartbeat, ends as it began. -/
theorem launchEnd_checked_undone {v : Option Value} {f : Fault} (hs : w.life.server = none)
    (hh : w.life.heartbeat = none)
    (hv : v = none ∨ ∃ st, w.installation = .ok st ∧ v = some st.version) :
    (StateT.run (Act.launchEnd w.life.phase (.failed f)) (Act.launchChecked w v)).1 = .done (.failed f) ∧
      (StateT.run (Act.launchEnd w.life.phase (.failed f)) (Act.launchChecked w v)).2.servers = w.servers ∧
      LaunchUndone w (StateT.run (Act.launchEnd w.life.phase (.failed f)) (Act.launchChecked w v)).2
        w.life.phase 0 false := by
  rw [Act.run_launchEnd_of_not_value _ _ fun _ h => by cases h]
  refine ⟨rfl, rfl, hs, hh, rfl, by simp [Act.launchChecked, hs], rfl, by simp [Act.launchChecked], ?_⟩
  rcases hv with rfl | ⟨st, hst, rfl⟩
  · exact .inl rfl
  · exact .inr ⟨st, hst, rfl⟩

/-- The first step of a launch that fails, from a world with no server and no heartbeat: a failed
check ends it as it began, a failed start takes down the server the step made. -/
theorem launchBegin_undone {f : Fault} {w' : World} (hs : w.life.server = none)
    (hh : w.life.heartbeat = none) (hrun : StateT.run Act.launchBegin w = (.done (.failed f), w')) :
    LaunchUndone w w' w.life.phase 0 (decide (w.servers.size < w'.servers.size)) := by
  rcases Act.run_launchBegin_cases (w := w) with ⟨v, f', hv, hrun'⟩ | ⟨st, md, hi, -, hrun'⟩
  · -- a failed check, metadata or folder: nothing made, nothing to take down
    rw [hrun'] at hrun
    obtain ⟨-, hsv, hu⟩ := launchEnd_checked_undone (f := f') hs hh hv
    rw [hrun] at hsv hu
    have hsv' : w'.servers = w.servers := hsv
    have hno : decide (w.servers.size < w'.servers.size) = false := by simp [hsv']
    rw [hno]
    exact hu
  · -- the server is made and current; its start fails at once
    rw [hrun', Act.run_bind'] at hrun
    obtain ⟨hlife, hfold, hsrv, hreset, hinst⟩ :=
      Act.claimStartGate_keeps (u := Act.launchMade w st.version md)
    cases hc : (StateT.run Act.claimStartGate (Act.launchMade w st.version md)).1 with
    | some c => rw [hc] at hrun; cases hrun
    | none =>
      rw [hc] at hrun
      obtain ⟨u, hul, huf, hus, hur, hui, habort⟩ := Act.launchStarted_failed hrun
      have hcur : u.life.server = some w.servers.size := by rw [hul, hlife]; rfl
      obtain ⟨-, hundone⟩ := launchAbort_undone (u := u) w.life.phase
        (s := w.servers.size) (o := .failed f) (fun _ h => by cases h) (.inr hcur)
        (fun h => by rw [hcur] at h; cases h)
      have hsv := Act.servers_launchAbort (u := u) w.life.phase w.servers.size (.failed f)
      rw [habort] at hundone hsv
      have hsv' : w'.servers = w.servers.push { launchMetadata := md } := by
        rw [show w'.servers = u.servers from hsv, hus, hsrv]
        rfl
      have hmade : decide (w.servers.size < w'.servers.size) = true := by simp [hsv']
      have hcl : (u.life.server == some w.servers.size) = true := by simp [hcur]
      rw [hcl] at hundone
      rw [hmade]
      refine hundone.rebase (Nat.le_refl 1) ?_ ?_ ?_ ?_ ?_
      · rw [huf, hfold]; rfl
      · rw [hul, hlife]; rfl
      · rw [hur, hreset]; rfl
      · rw [hui, hinst]; rfl
      · exact .inr ⟨st, hi, by rw [hul, hlife]; rfl⟩

variable {b : Option CellId} {t : CellId} {p : Point}

/-- The step of a launch task that ends the launch with a fault, from a world where the lifecycle
has its shapes and the task stands as they allow: no server, no heartbeat and no launch are left,
the phase is the one the launch found, the manager folder it made is gone, the version is as it
was or as the check reported it, and the counters are as they were unless the step took down a
server of its own, which resets them where ids start afresh. -/
theorem launch_failure_undone (hL : w.LifeShape b) {input : Outcome} (ho : w.OwnShape t p input)
    (hd : p.duty = .launch) {f : Fault} {w' : World}
    (hrun : StateT.run (Act.run p input) w = (.done (.failed f), w')) :
    LaunchUndone w w' (p.foundPhase w.life.phase) p.madeFolders (p.clearsOwn w w') := by
  have hbeat : w.life.server = none → w.life.heartbeat = none := fun hs => (hL.of_no_server hs).1
  cases p with
  | launch =>
    have hs := (ho.fresh rfl).1
    exact launchBegin_undone hs (hbeat hs) hrun
  | launchAwaitingStart previous s =>
    obtain ⟨-, hsrv, -⟩ := ho.starting previous s rfl
    -- the start failed: the launch aborts, from `w` or from `w` with its start error cleared
    have abort : ∀ u : World, u.life = w.life → u.managerFolders = w.managerFolders →
        u.resetOnRestart = w.resetOnRestart → u.installation = w.installation →
        StateT.run (Act.launchAbort previous s (.failed f)) u = (.done (.failed f), w') →
        LaunchUndone w w' previous 1 (w.life.server == some s) := by
      intro u hul huf hur hui hr
      obtain ⟨-, hu⟩ := launchAbort_undone (u := u) previous (s := s) (o := .failed f)
        (fun _ h => by cases h) (by rw [hul]; exact hsrv) (by rw [hul]; exact hbeat)
      rw [hr, hul] at hu
      exact hu.rebase (Nat.zero_le 1) (by rw [huf]; rfl) (by rw [hul]) hur hui (.inl (by rw [hul]))
    cases input with
    | value r =>
      obtain ⟨u, hul, huf, -, hur, hui, hr⟩ := Act.launchStarted_failed (u := w) hrun
      exact abort u hul huf hur hui hr
    | failed f' =>
      have hres := congrArg Prod.fst hrun
      rw [show StateT.run (Act.run (.launchAwaitingStart previous s) (.failed f')) w =
        StateT.run (Act.launchAbort previous s (.failed f')) w from rfl, Act.fst_launchAbort] at hres
      injection hres with hres
      injection hres with hres
      subst hres
      exact abort w rfl rfl rfl rfl hrun
    | cancelled =>
      have hres := congrArg Prod.fst hrun
      rw [show StateT.run (Act.run (.launchAwaitingStart previous s) .cancelled) w =
        StateT.run (Act.launchAbort previous s .cancelled) w from rfl, Act.fst_launchAbort] at hres
      injection hres with hres
      cases hres
  | _ => simp [Point.duty] at hd

end World

/-- A launch waiting to start server 0, with the request counter at 1, whose start fails: the
shapes hold, and the failing step undoes the launch. -/
theorem failed_start_undone_from_wait :
    let w : World :=
      { life := { phase := .starting, server := some 0, launch := some 0, counters := { requests := 1 } },
        servers := #[{ launchMetadata := default }], script := { startError := .str "boom" },
        queue := { cells := #[{ point := some (.launchAwaitingStart .absent 0) }] },
        managerFolders := 1, projectRoot := "/project", credentials := ⟨.str "key"⟩,
        source := ⟨.str "xcode", .str "14.0.0", none, .str "session-test"⟩,
        installation := .ok { kind := .installed, version := .str "1.2.104" }, resetOnRestart := true }
    let p : Point := .launchAwaitingStart .absent 0
    let w' := (StateT.run (Act.run p (.value .unit)) w).2
    (w.LifeShape (some 0) ∧ w.OwnShape 0 p (.value .unit) ∧ p.duty = .launch ∧
        StateT.run (Act.run p (.value .unit)) w = (.done (.failed (.transport (.str "boom"))), w')) ∧
      World.LaunchUndone w w' (p.foundPhase w.life.phase) p.madeFolders (p.clearsOwn w w') := by
  intro w p w'
  -- the one task is the launch, waiting to start server 0
  have hduty : ∀ c du, w.HasDuty c du → c = 0 ∧ du = .launch := by
    rintro c du ⟨q, hq, rfl⟩
    rcases c with _ | c
    · simp [w, RunQueue.cell] at hq
      subst hq
      exact ⟨rfl, rfl⟩
    · simp [w, RunQueue.cell] at hq
  have hL : w.LifeShape (some 0) :=
    { shape := .inr (.inl ⟨0, rfl, rfl, rfl⟩)
      beats := fun h s _ hx => by cases (hduty h _ hx.duty).2
      fresh := fun c hb hp _ => absurd (hduty c _ ⟨_, hp, rfl⟩).1 fun h => hb (by rw [h])
      starting := fun c _ _ hb hp _ => absurd (hduty c _ ⟨_, hp, rfl⟩).1 fun h => hb (by rw [h])
      one := fun c hb hd _ => absurd (hduty c _ hd).1 fun h => hb (by rw [h]) }
  have ho : w.OwnShape 0 p (.value .unit) :=
    { fresh := fun h => Point.noConfusion h
      starting := fun previous s hp => by
        obtain ⟨rfl, rfl⟩ := Point.launchAwaitingStart.inj hp
        exact ⟨.inl rfl, .inr rfl, rfl⟩
      beat := ⟨fun h => (by simp [w] at h),
        fun hx => (by rcases hx with ⟨_, _, h⟩ | ⟨_, _, h, -⟩ <;> exact Point.noConfusion h)⟩
      unmarked := rfl }
  have hrun : StateT.run (Act.run p (.value .unit)) w = (.done (.failed (.transport (.str "boom"))), w') :=
    rfl
  exact ⟨⟨hL, ho, rfl, hrun⟩, World.launch_failure_undone hL ho rfl hrun⟩

/-- A completion call waits for a launch whose start gate is held; the start is then scripted to
fail and the gate opened.  The next wake is the launch's failing step, and it takes the request
counter from 1, the id the call took, back to 0. -/
theorem failed_start_resets_counters :
    let w : World :=
      { projectRoot := "/project", credentials := ⟨.str "key"⟩,
        source := ⟨.str "xcode", .str "14.0.0", none, .str "session-test"⟩,
        installation := .ok { kind := .installed, version := .str "1.2.104" }, resetOnRestart := true }
    let call : CompletionCall := ⟨.text "/project/a.py", .str "", ⟨.int 0, .int 0⟩, .int 4, .bool false⟩
    let v := w.run [.holdStart, .call (.complete call), .wake, .wake, .wake, .wake, .wake,
      .script { startError := .str "boom" }, .releaseStart]
    v.life.launch = some 3 ∧ v.queue.ready = [.notify (.resume 3) 5] ∧
      (match ((v.step .wake).queue.cell 3).result with
        | some (.failed (.transport _)) => true
        | _ => false) = true ∧
      v.life.counters.requests = 1 ∧ (v.step .wake).life.counters.requests = 0 := by
  decide +kernel

end CompletionClient.Service
