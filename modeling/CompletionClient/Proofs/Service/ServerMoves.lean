import CompletionClient.Proofs.Service.Events
import CompletionClient.Proofs.Service.FailedLaunch
/-!
# How the current server and the launch under way change

The lifecycle's server changes in two ways only: a launch's first step makes a
server and makes it current where none was, and clearing a server (on a
termination report, by a stop, or after a failed start) drops it and resets the
counters where so configured.  The launch under way changes in two ways only:
a caller that finds no server and no launch under way begins one, and a
launch's last step ends it.  Beside these, the current server has started
unless a launch is under way: a launch makes its server current before it
starts it, and ends only once the start went through or cleared the server.

`World.LaunchMove` says this of one step of a task, from the world it began in;
`LaunchMove.run` proves it activity by activity, through the equations of
`Effects`.  `World.LaunchEvent` says it of one event, and `Typed.launchEvent`
proves it for every event from the cases of `Typed.wake_cases`.
-/

namespace CompletionClient.Service

namespace World

variable {w w' u : World} {b : Option CellId} {t : CellId} {p : Point} {L : Prop} {s : Nat}

/-- What a step does to the lifecycle, from `w` to `w'`: the server stays; or goes, with the
counters reset where so configured; or, if `L` (for a launch's first step), becomes the next
server made where none was current.  The launch under way stays or ends, or a new one begins where
neither a server nor a launch was there.  A server current with no launch under way was so before,
or has started. -/
structure LaunchMove (L : Prop) (w w' : World) : Prop where
  server : w'.life.server = w.life.server ∨
    (∃ h, w.life.server = some h ∧ w'.life.server = none ∧
      (w.resetOnRestart = true → w'.life.counters = {})) ∨
    (L ∧ w.life.server = none ∧ w'.life.server = some w.servers.size)
  launch : w'.life.launch = w.life.launch ∨ w'.life.launch = none ∨
    (w.life.server = none ∧ w.life.launch = none)
  started : ∀ s, w'.life.server = some s → w'.life.launch = none →
    (w.life.server = some s ∧ w.life.launch = none) ∨ (w'.servers.getD s default).started = true

/-- The current server has started, unless a launch is under way. -/
def Started (w : World) : Prop :=
  ∀ s, w.life.server = some s → w.life.launch = none → (w.servers.getD s default).started = true

/-! ## Moves of one step -/

/-- A change that keeps the server and the launch under way. -/
theorem LaunchMove.of_same (hs : w'.life.server = w.life.server)
    (hl : w'.life.launch = w.life.launch) : LaunchMove L w w' :=
  ⟨.inl hs, .inl hl, fun _ hs' hl' => .inl ⟨hs ▸ hs', hl ▸ hl'⟩⟩

/-- A steady change keeps the server and the launch under way. -/
theorem LaunchMove.of_steady (h : Steady w w' none) : LaunchMove L w w' := .of_same h.server h.launch

/-- A change that leaves no server current, having cleared the one there was, if any. -/
theorem LaunchMove.of_cleared (hs' : w'.life.server = none)
    (hclear : w.life.server = none ∨
      ∃ h, w.life.server = some h ∧ (w.resetOnRestart = true → w'.life.counters = {}))
    (hl : w'.life.launch = w.life.launch ∨ w'.life.launch = none) : LaunchMove L w w' where
  server := by
    rcases hclear with hn | ⟨h, hh, hc⟩
    · exact .inl (hs'.trans hn.symm)
    · exact .inr (.inl ⟨h, hh, hs', hc⟩)
  launch := hl.elim .inl (fun h => .inr (.inl h))
  started s hs'' := by rw [hs'] at hs''; cases hs''

/-- A change that keeps the lifecycle. -/
theorem LaunchMove.of_life_eq (hl : w'.life = w.life) : LaunchMove L w w' :=
  .of_same (by rw [hl]) (by rw [hl])

/-- A move from a world with the same lifecycle, counters policy and number of servers. -/
theorem LaunchMove.of_life (h : LaunchMove L u w') (hl : u.life = w.life)
    (hr : u.resetOnRestart = w.resetOnRestart) (hs : u.servers.size = w.servers.size) :
    LaunchMove L w w' := by
  obtain ⟨hserver, hlaunch, hstarted⟩ := h
  rw [hl, hr, hs] at hserver
  rw [hl] at hlaunch hstarted
  exact ⟨hserver, hlaunch, hstarted⟩

/-! ## Lifecycle equations -/

section Equations

/-- Ending a launch keeps the server, the counters and the servers. -/
theorem launchEnd_keeps (previous : Phase) (o : Outcome) :
    (StateT.run (Act.launchEnd previous o) u).2.life.server = u.life.server ∧
      (StateT.run (Act.launchEnd previous o) u).2.life.counters = u.life.counters ∧
      (StateT.run (Act.launchEnd previous o) u).2.life.launch = none ∧
      (StateT.run (Act.launchEnd previous o) u).2.servers = u.servers := by
  cases o with
  | value r => rw [Act.run_launchEnd_value]; exact ⟨rfl, rfl, rfl, rfl⟩
  | failed f => rw [Act.run_launchEnd_of_not_value _ _ fun _ h => by cases h]; exact ⟨rfl, rfl, rfl, rfl⟩
  | cancelled => rw [Act.run_launchEnd_of_not_value _ _ fun _ h => by cases h]; exact ⟨rfl, rfl, rfl, rfl⟩

/-- A report keeps the server, the launch under way and the servers. -/
theorem handleLaunch_keeps (s : Nat) :
    (u.exec (Act.handleLaunch s)).life.server = u.life.server ∧
      (u.exec (Act.handleLaunch s)).life.launch = u.life.launch ∧
      (u.exec (Act.handleLaunch s)).servers = u.servers := by
  by_cases hs : u.life.server = some s
  · rw [World.exec, Act.run_handleLaunch_of_current u hs]; exact ⟨rfl, rfl, rfl⟩
  · rw [World.exec, Act.run_handleLaunch_of_ne u hs]; exact ⟨rfl, rfl, rfl⟩

theorem life_listen_all (cs : List CellId) (l : Listener) :
    (cs.foldl (fun w x => w.exec (Act.listen x l)) u).life = u.life := by
  induction cs generalizing u with
  | nil => rfl
  | cons x cs ih => exact ih

/-- The end of a stop leaves the lifecycle as it was. -/
theorem life_stopDrain (closing : Bool) : (StateT.run (Act.stopDrain closing) u).2.life = u.life := by
  cases closing with
  | false => rw [Act.run_stopDrain_false]
  | true =>
    rw [Act.run_stopDrain_true]
    dsimp only
    rw [foldl_cancel]
    split
    · rfl
    · exact life_listen_all _ _

/-- Telling a server that is not current to terminate leaves the lifecycle as it was. -/
theorem life_stopTerminate_of_ne (closing : Bool) (hs : u.life.server ≠ some s) :
    (StateT.run (Act.stopTerminate closing s) u).2.life = u.life := by
  rw [Act.run_stopTerminate, life_stopDrain, World.exec,
    Act.run_clearServer_of_ne { u with servers := u.servers.modify s fun e => { e with terminated := true } } hs]

theorem life_clearServer_of_ne (hs : u.life.server ≠ some s) :
    (u.exec (Act.clearServer s)).life = u.life := by
  rw [World.exec, Act.run_clearServer_of_ne u hs]

/-- Superseding keeps the counters policy and the servers. -/
theorem supersedeAll_keeps :
    (u.exec Act.supersedeAll).resetOnRestart = u.resetOnRestart ∧
      (u.exec Act.supersedeAll).servers = u.servers := by
  simp only [World.exec, Act.run_supersedeAll]
  -- every step of the fold keeps both
  have hfold : ∀ (l : List Nat) (w' : World), (l.foldl (fun w' j =>
      { w' with jobs := w'.jobs.modify j fun job => { job with superseded := true },
                queue := w'.queue.cancelTask (u.jobs.getD j default).task }) w').resetOnRestart =
        w'.resetOnRestart ∧ (l.foldl (fun w' j =>
      { w' with jobs := w'.jobs.modify j fun job => { job with superseded := true },
                queue := w'.queue.cancelTask (u.jobs.getD j default).task }) w').servers = w'.servers := by
    intro l
    induction l with
    | nil => intro _; exact ⟨rfl, rfl⟩
    | cons j l ih => intro w'; exact ih _
  exact hfold _ _

theorem stopStart_keeps (closing : Bool) :
    (Act.stopStart u closing).resetOnRestart = u.resetOnRestart ∧
      (Act.stopStart u closing).servers = u.servers := by
  cases closing
  · exact ⟨rfl, rfl⟩
  · exact supersedeAll_keeps

/-- Clearing the current server: none is current, the counters are reset where so configured, and
the launch under way stays. -/
theorem clearServer_clears (hs : u.life.server = some s) :
    (u.exec (Act.clearServer s)).life.server = none ∧
      (u.resetOnRestart = true → (u.exec (Act.clearServer s)).life.counters = {}) ∧
      (u.exec (Act.clearServer s)).life.launch = u.life.launch := by
  rw [World.exec, Act.run_clearServer_of_current u hs]
  exact ⟨rfl, fun hr => by simp [hr], rfl⟩

end Equations

/-! ## The activities -/

/-- Telling a server to terminate clears it if it is current, and leaves the lifecycle as it was
otherwise. -/
theorem LaunchMove.stopTerminate (closing : Bool) (s : Nat) :
    LaunchMove L w (StateT.run (Act.stopTerminate closing s) w).2 := by
  by_cases hs : w.life.server = some s
  · -- the server is cleared, and the drain that follows leaves the lifecycle alone
    have hc := clearServer_clears (u := { w with servers := w.servers.modify s fun e =>
      { e with terminated := true } }) hs
    have hlife : (StateT.run (Act.stopTerminate closing s) w).2.life =
        (({ w with servers := w.servers.modify s fun e => { e with terminated := true } } : World).exec
          (Act.clearServer s)).life := by
      rw [Act.run_stopTerminate, life_stopDrain]
    exact .of_cleared (by rw [hlife]; exact hc.1) (.inr ⟨s, hs, fun hr => by rw [hlife]; exact hc.2.1 hr⟩)
      (.inl (by rw [hlife]; exact hc.2.2))
  · exact .of_life_eq (life_stopTerminate_of_ne closing hs)

/-- A stop with no launch under way clears the current server, if any. -/
theorem LaunchMove.stopAfterLaunch (closing : Bool) :
    LaunchMove L w (StateT.run (Act.stopAfterLaunch closing) w).2 := by
  cases hs : w.life.server with
  | none =>
    rw [Act.run_stopAfterLaunch_of_none w closing hs]
    exact .of_life_eq (life_stopDrain closing)
  | some s =>
    -- cleared first; what follows sees no server current and leaves the lifecycle alone
    obtain ⟨hn, hc, hl⟩ := clearServer_clears hs
    have hkeep : (StateT.run (Act.stopTerminate closing s) (w.exec (Act.clearServer s))).2.life =
        (w.exec (Act.clearServer s)).life :=
      life_stopTerminate_of_ne closing (by rw [hn]; nofun)
    have hcleared : ∀ W : World, W.life = (w.exec (Act.clearServer s)).life →
        LaunchMove L w W := fun W hW =>
      .of_cleared (by rw [hW, hn]) (.inr ⟨s, hs, fun hr => by rw [hW]; exact hc hr⟩)
        (.inl (by rw [hW, hl]))
    cases hh : w.life.heartbeat with
    | none =>
      rw [Act.run_stopAfterLaunch_of_no_beat w closing hs hh]
      exact hcleared _ hkeep
    | some x =>
      rw [Act.run_stopAfterLaunch_of_beat w closing hs hh]
      split
      · exact hcleared _ hkeep
      · exact hcleared _ rfl

/-- A stop waits for the launch under way, or clears the current server. -/
theorem LaunchMove.stopBegin (closing : Bool) :
    LaunchMove L w (StateT.run (Act.stopBegin closing) w).2 := by
  cases hl : w.life.launch with
  | none =>
    rw [Act.run_stopBegin_of_none w closing hl]
    obtain ⟨hr, hsv⟩ := stopStart_keeps (u := w) closing
    exact LaunchMove.stopAfterLaunch closing |>.of_life (Act.life_stopStart w closing) hr (by rw [hsv])
  | some l =>
    rw [Act.run_stopBegin_of_launch w closing hl]
    exact .of_same (by rw [Act.life_stopStart]) (by rw [Act.life_stopStart])

/-- A failed start clears its server, if it is current, and ends the launch. -/
theorem LaunchMove.launchAbort (hs : w.life.server = none ∨ w.life.server = some s)
    (previous : Phase) (o : Outcome) :
    LaunchMove L w (StateT.run (Act.launchAbort previous s o) w).2 := by
  rw [Act.run_launchAbort]
  obtain ⟨hsrv, hcnt, hlaunch, -⟩ := launchEnd_keeps (u := { w.exec (Act.clearServer s) with
    managerFolders := (w.exec (Act.clearServer s)).managerFolders - 1 }) previous o
  rcases hs with hn | hs
  · have hne : w.life.server ≠ some s := by rw [hn]; nofun
    have hsrv' : (w.exec (Act.clearServer s)).life.server = none := by
      rw [life_clearServer_of_ne hne]; exact hn
    exact .of_cleared (hsrv.trans hsrv') (.inl hn) (.inr hlaunch)
  · obtain ⟨hn, hc, -⟩ := clearServer_clears hs
    exact .of_cleared (hsrv.trans hn) (.inr ⟨s, hs, fun hr => hcnt.trans (hc hr)⟩) (.inr hlaunch)

/-- The start of a launch's server: it goes through, and the server, if current, has started as
the launch ends; or it fails, and the launch aborts. -/
theorem LaunchMove.launchStarted (hs : w.life.server = none ∨ w.life.server = some s)
    (hsize : s < w.servers.size) (previous : Phase) :
    LaunchMove L w (StateT.run (Act.launchStarted previous s) w).2 := by
  by_cases he : w.script.startError = .null
  · rw [Act.run_launchStarted_of_null w previous s he]
    dsimp only
    -- the world after the start, and after the launch report if one is scripted
    have hW : ∀ W : World, W.life.server = w.life.server → W.life.launch = w.life.launch →
        W.servers = w.servers.modify s (fun e => { e with started := true }) →
        LaunchMove L w (StateT.run (Act.launchEnd previous (.value (.server s))) W).2 := by
      intro W hsW hlW hSW
      obtain ⟨hsrv, -, hlaunch, hservers⟩ := launchEnd_keeps (u := W) previous (.value (.server s))
      refine ⟨.inl (hsrv.trans hsW), .inr (.inl hlaunch), fun s' hs' _ => .inr ?_⟩
      -- the current server is the one just started
      have hs'' : w.life.server = some s' := by rw [← hsW, ← hsrv]; exact hs'
      have hss : s = s' := by
        rcases hs with hn | hs
        · rw [hn] at hs''; cases hs''
        · rw [hs] at hs''; exact Option.some.inj hs''
      rw [hservers, hSW, ← hss]
      exact started_modify_started _ _ _ (.inl ⟨hsize, rfl⟩)
    split
    · obtain ⟨hsrv, hl, hsv⟩ :=
        handleLaunch_keeps (u := { w with servers := w.servers.modify s fun e => { e with started := true } }) s
      exact hW _ hsrv hl hsv
    · exact hW _ rfl rfl rfl
  · rw [Act.run_launchStarted_of_error w previous s he]
    split
    · exact (LaunchMove.launchAbort (w := { w with script := { w.script with startError := .null } })
        hs previous _).of_life rfl rfl rfl
    · exact LaunchMove.launchAbort hs previous _

/-- A launch's first step, from a world with no server: a failed check ends it with no server; a
server made is current as the launch waits for a start gate or starts it. -/
theorem LaunchMove.launchBegin (hL : L) (hs : w.life.server = none) (hl : w.life.launch = some t) :
    LaunchMove L w (StateT.run Act.launchBegin w).2 := by
  rcases Act.run_launchBegin_cases (w := w) with ⟨v, f, -, hrun⟩ | ⟨st, md, -, -, hrun⟩
  · -- a launch that fails before making its server leaves none current
    rw [hrun]
    obtain ⟨hsrv, -, hlaunch, -⟩ := launchEnd_keeps (u := Act.launchChecked w v) w.life.phase (.failed f)
    exact .of_cleared (hsrv.trans hs) (.inl hs) (.inr hlaunch)
  · rw [hrun, Act.run_bind']
    -- the server made is current, the next index, and the launch under way stays
    obtain ⟨hlife, -, hservers, -, -⟩ :=
      Act.claimStartGate_keeps (u := Act.launchMade w st.version md)
    generalize hW : StateT.run Act.claimStartGate (Act.launchMade w st.version md) = W at hlife hservers
    have hsW : W.2.life.server = some w.servers.size := by rw [hlife]; rfl
    have hlW : W.2.life.launch = w.life.launch := by rw [hlife]; rfl
    have hlW' : W.2.life.launch ≠ none := by rw [hlW, hl]; nofun
    cases hc : W.1 with
    | some c => exact ⟨.inr (.inr ⟨hL, hs, hsW⟩), .inl hlW, fun _ _ hl' => absurd hl' hlW'⟩
    | none =>
      obtain ⟨hserver, hlaunch, hstarted⟩ := LaunchMove.launchStarted (L := False) (w := W.2)
        (.inr hsW) (by rw [hservers]; simp [Act.launchMade, Act.launchChecked]) w.life.phase
      refine ⟨?_, ?_, fun s' hs' hl' => ?_⟩
      · rcases hserver with h₁ | ⟨h, -, hn', -⟩ | ⟨hF, -⟩
        · exact .inr (.inr ⟨hL, hs, h₁.trans hsW⟩)
        · exact .inl (hn'.trans hs.symm)
        · exact hF.elim
      · rcases hlaunch with h₁ | h₁ | ⟨hn', -⟩
        · exact .inl (h₁.trans hlW)
        · exact .inr (.inl h₁)
        · rw [hsW] at hn'; cases hn'
      · rcases hstarted s' hs' hl' with ⟨-, hl₀⟩ | h₁
        · exact absurd hl₀ hlW'
        · exact .inr h₁

/-- The launch the lifecycle names is pending: where it has ended, there is none. -/
theorem Typed.launch_none (hT : w.Typed b) (hdone : ∀ l, w.life.launch = some l → w.queue.isDone l = true) :
    w.life.launch = none := by
  cases hl : w.life.launch with
  | none => rfl
  | some l =>
    have hd := hdone l hl
    rw [RunQueue.isDone_def, show (w.queue.cell l).result = none from (hT.launch_ref l hl).2] at hd
    cases hd

/-- A caller that asks for a server takes the current one, or waits for the launch under way, or
begins a launch where neither a server nor a launch is there. -/
theorem LaunchMove.ensured (hT : w.Typed b) (k : Ensured → Act Progress)
    (hready : ∀ s, LaunchMove L w (StateT.run (k (.ready s)) w).2)
    (hwait : ∀ c W, (StateT.run (k (.waitOn c)) W).2 = W) :
    LaunchMove L w (StateT.run (Act.ensureStarted >>= k) w).2 := by
  rw [Act.run_bind']
  by_cases hpend : ∃ l, w.life.launch = some l ∧ w.queue.isDone l = false
  · obtain ⟨l, hl, hdone⟩ := hpend
    rw [Act.run_ensureStarted_of_pending w hl hdone, Act.run_shield, hwait]
    exact .of_life_eq rfl
  · have hdone := launch_done_of_not_pending hpend
    cases hs : w.life.server with
    | some s =>
      rw [Act.run_ensureStarted_of_ready w hdone hs]
      exact hready s
    | none =>
      rw [Act.run_ensureStarted_of_absent w hdone hs, Act.run_shield, hwait]
      exact ⟨.inl rfl, .inr (.inr ⟨hs, hT.launch_none hdone⟩), fun _ _ hl' => by cases hl'⟩

/-- The step of a busy task from its point moves the lifecycle as a step may, where a launch's
first step finds no server and a launch waiting for its start finds its own server or none. -/
theorem LaunchMove.run (h : w.Running w t p)
    (hfresh : p = .launch → w.life.server = none ∧ w.life.launch = some t)
    (hstart : ∀ previous s, p = .launchAwaitingStart previous s →
      w.life.server = none ∨ w.life.server = some s)
    (input : Outcome) : LaunchMove (p = .launch) w (StateT.run (Act.run p input) w).2 := by
  have hT := h.toTyped
  cases p with
  | complete call => exact .of_steady (steady_completeBegin hT call)
  | completeAwaitingJob j => exact .of_steady (steady_completeEnd j input)
  | job j =>
    show LaunchMove _ w (StateT.run (Act.jobBegin j) w).2
    rw [Act.jobBegin, Act.run_bind', Act.run_isSuperseded]
    dsimp only
    split
    · exact .of_life_eq rfl
    · exact .ensured hT _ (fun s => .of_steady (steady_jobWith j s)) fun _ _ => rfl
  | jobAwaitingServer j =>
    rcases input with (_ | s | _) | f | _
    case value.server => exact .of_steady (steady_jobWith j s)
    all_goals exact .of_life_eq rfl
  | jobAwaitingReply j =>
    rcases input with r | f | _
    case value =>
      show LaunchMove _ w (StateT.run (Act.jobReply j) w).2
      rw [Act.run_jobReply]
      exact .of_life_eq rfl
    all_goals exact .of_life_eq rfl
  | launch =>
    obtain ⟨hs, hl⟩ := hfresh rfl
    exact .launchBegin rfl hs hl
  | launchAwaitingStart previous s =>
    have hs := hstart previous s rfl
    rcases input with r | f | _
    · exact .launchStarted hs (h.start_server t previous s h.point) previous
    · exact .launchAbort hs previous _
    · exact .launchAbort hs previous _
  | heartbeat s md => exact .of_steady (steady_heartbeatBegin s md)
  | heartbeatAsleep s md =>
    rcases input with r | f | _
    case value => exact .of_steady (steady_heartbeatBegin s md)
    all_goals exact .of_life_eq rfl
  | cancelNotice rid =>
    show LaunchMove _ w (StateT.run (Act.cancelNotice rid *> (pure (.done (.value .unit)) : Act Progress)) w).2
    rw [Act.run_seqRight']
    exact .of_steady (steady_cancelNotice rid)
  | warmUp => exact .ensured hT _ (fun _ => .of_life_eq rfl) fun _ _ => rfl
  | warmUpAwaitingServer => rcases input with r | f | _ <;> exact .of_life_eq rfl
  | accept id => exact .ensured hT _ (fun s => .of_steady (steady_acceptWith id s)) fun _ _ => rfl
  | acceptAwaitingServer id =>
    rcases input with (_ | s | _) | f | _
    case value.server => exact .of_steady (steady_acceptWith id s)
    all_goals exact .of_life_eq rfl
  | ensure => exact .ensured hT _ (fun _ => .of_life_eq rfl) fun _ _ => rfl
  | ensureAwaitingServer => exact .of_life_eq rfl
  | stop closing => exact .stopBegin closing
  | stopAwaitingLaunch closing =>
    rcases input with r | f | _
    case cancelled => exact .of_life_eq rfl
    all_goals exact .stopAfterLaunch closing
  | stopAwaitingHeartbeat closing s =>
    rcases input with r | f | _
    case failed => exact .of_life_eq rfl
    all_goals exact .stopTerminate closing s
  | stopAwaitingDrain => rcases input with r | f | _ <;> exact .of_life_eq rfl
  | notice n => exact .of_steady (steady_applyNotice n)

/-- A caller that takes the current server at once gets one that has started. -/
theorem Started.ready (hS : w.Started) (hT : w.Typed b) {s : Nat}
    (h : (StateT.run Act.ensureStarted w).1 = .ready s) : (w.servers.getD s default).started = true := by
  by_cases hpend : ∃ l, w.life.launch = some l ∧ w.queue.isDone l = false
  · obtain ⟨l, hl, hdone⟩ := hpend
    rw [Act.run_ensureStarted_of_pending w hl hdone, Act.run_shield] at h
    cases h
  · -- no launch is under way, so the server is taken only where it is current
    have hdone := launch_done_of_not_pending hpend
    cases hs : w.life.server with
    | some s' =>
      rw [Act.run_ensureStarted_of_ready w hdone hs] at h
      injection h with h
      subst h
      exact hS s' hs (hT.launch_none hdone)
    | none =>
      rw [Act.run_ensureStarted_of_absent w hdone hs, Act.run_shield] at h
      cases h

/-! ## Every event -/

/-- What an event does to the lifecycle: the server stays; or goes, with the counters reset where
so configured; or, at the wake that runs the first step of the launch under way, becomes the next
server made, where none was current.  A launch begins only where no server is current and no
launch is under way; and the current server has started unless a launch is under way, if that was
so before. -/
structure LaunchEvent (v v' : World) (e : Event) : Prop where
  server : v'.life.server = v.life.server ∨
    (∃ h, v.life.server = some h ∧ v'.life.server = none ∧
      (v.resetOnRestart = true → v'.life.counters = {})) ∨
    (v.life.server = none ∧ v'.life.server = some v.servers.size ∧
      ∃ l, v.life.launch = some l ∧ (v.queue.cell l).point = some .launch ∧ v.Wakes e l)
  launch : ∀ l, v'.life.launch = some l → v.life.launch ≠ some l →
    v.life.server = none ∧ v.life.launch = none
  started : v.Started → v'.Started

section Event

variable {v v' : World} {e : Event}

/-- An event that keeps the server, the launch under way and every start. -/
theorem LaunchEvent.of_same (hs : v'.life.server = v.life.server) (hl : v'.life.launch = v.life.launch)
    (hst : ∀ s, (v.servers.getD s default).started = true → (v'.servers.getD s default).started = true) :
    LaunchEvent v v' e :=
  ⟨.inl hs, fun _ hl' hne => absurd (hl ▸ hl') hne,
    fun hS s hs' hl' => hst s (hS s (hs ▸ hs') (hl ▸ hl'))⟩

/-- An event that keeps the lifecycle and the servers. -/
theorem LaunchEvent.of_life (hl : v'.life = v.life) (hsv : v'.servers = v.servers) : LaunchEvent v v' e :=
  .of_same (by rw [hl]) (by rw [hl]) fun s h => by rw [hsv]; exact h

theorem life_advance (pr : Progress) :
    (w.exec (Act.advance t pr)).life = w.life ∧ (w.exec (Act.advance t pr)).servers = w.servers := by
  cases pr with
  | done o => rw [exec_advance_done]; exact ⟨rfl, rfl⟩
  | wait c next => rw [exec_advance_wait]; exact ⟨rfl, rfl⟩

/-- A busy task's step, from the world a wake began it in to the world after it left off. -/
theorem LaunchEvent.busy (hL : v.LifeShape none) {q : RunQueue Point} {w₀ : World} {input : Outcome}
    (hpop : v.queue.pop? = some (.start t, q) ∨ ∃ src, v.queue.pop? = some (.notify (.resume t) src, q))
    (hpend : v.Pending t) (hp : (v.queue.cell t).point = some p) (hrun : w₀.Running w₀ t p)
    (hin : ∀ r, p.role = some r → w₀.RoleResult r input) (hsize : w₀.servers = v.servers)
    (hlife : w₀.life = v.life) (hreset : w₀.resetOnRestart = v.resetOnRestart) :
    LaunchEvent v ((StateT.run (Act.run p input) w₀).2.exec
      (Act.advance t (StateT.run (Act.run p input) w₀).1)) .wake := by
  obtain ⟨hlife', hservers'⟩ := life_advance (w := (StateT.run (Act.run p input) w₀).2)
    (t := t) (StateT.run (Act.run p input) w₀).1
  -- the launch's own clauses of the shapes, read in the world the step began in
  have hfresh : p = .launch → w₀.life.server = none ∧ w₀.life.launch = some t := by
    rintro rfl
    rw [hlife]
    exact ⟨hL.fresh t nofun hp hpend, hL.one t nofun ⟨_, hp, rfl⟩ hpend⟩
  have hstart : ∀ previous s, p = .launchAwaitingStart previous s →
      w₀.life.server = none ∨ w₀.life.server = some s := by
    rintro previous s rfl
    rw [hlife]
    exact (hL.starting t previous s nofun hp hpend).2
  obtain ⟨hserver, hlaunch, hstarted⟩ := LaunchMove.run hrun hfresh hstart input
  rw [hlife, hreset, hsize] at hserver
  rw [hlife] at hlaunch hstarted
  refine ⟨?_, fun l hl hne => ?_, fun hS => ?_⟩
  · rw [hlife']
    rcases hserver with h₁ | h₂ | ⟨hpl, hsn, hss⟩
    · exact .inl h₁
    · exact .inr (.inl h₂)
    · -- the step is the first of the launch under way
      subst hpl
      obtain ⟨-, hl⟩ := hfresh rfl
      rw [hlife] at hl
      exact .inr (.inr ⟨hsn, hss, t, hl, hp, rfl, q, hpop⟩)
  · rw [hlife'] at hl
    rcases hlaunch with h₁ | h₁ | h₁
    · exact absurd (h₁ ▸ hl) hne
    · rw [h₁] at hl; cases hl
    · exact h₁
  · have hS₀ : w₀.Started := by
      intro s hs hl
      rw [hlife] at hs hl
      rw [hsize]
      exact hS s hs hl
    intro s hs hl
    rw [hlife'] at hs hl
    rw [hservers']
    rcases hstarted s hs hl with ⟨hs₀, hl₀⟩ | h₁
    · exact (hrun.run input hin).1.frame.started s (hS₀ s (by rw [hlife]; exact hs₀) (by rw [hlife]; exact hl₀))
    · exact h₁

/-- Every event moves the lifecycle as `LaunchEvent` says. -/
theorem Typed.launchEvent (hT : v.Typed none) (hL : v.LifeShape none) (e : Event) :
    LaunchEvent v (v.step e) e := by
  cases e with
  | wake =>
    refine hT.wake_cases (fun v' => LaunchEvent v v' .wake) (fun _ => .of_life rfl rfl)
      (fun _ _ _ => .of_life rfl rfl) (fun _ _ _ _ _ => .of_life rfl rfl)
      (fun e t p input q w₀ hpop hpend he hp hrun hin _ _ hw₀ _ => ?_)
      (fun _ _ _ _ _ _ _ _ _ _ _ => .of_life rfl rfl) (fun _ _ _ _ => .of_life rfl rfl)
      (fun _ _ _ _ => .of_life rfl rfl)
    have hpop' : v.queue.pop? = some (.start t, q) ∨
        ∃ src, v.queue.pop? = some (.notify (.resume t) src, q) := by
      rcases he with ⟨rfl, -⟩ | ⟨src, rfl, -⟩
      · exact .inl hpop
      · exact .inr ⟨src, hpop⟩
    exact LaunchEvent.busy hL hpop' hpend hp hrun hin (by rw [hw₀]) (by rw [hw₀]) (by rw [hw₀])
  | call c => exact .of_life rfl rfl
  | warmUp => exact .of_life rfl rfl
  | holdReply | holdStart | script _ | credentials _ | installation _ | ideVersion _ | clearLog =>
    exact .of_life rfl rfl
  | elapse t =>
    show LaunchEvent v (v.exec (Act.elapse t)) _
    rw [Act.exec_elapse_queue]
    exact .of_life rfl rfl
  | releaseReply =>
    show LaunchEvent v (v.exec (Act.openGate (·.replyGates) fun w q => { w with replyGates := q })) _
    cases hg : v.replyGates.oldestClosed? with
    | none => rw [World.exec, Act.run_openReplyGate_of_none v hg]; exact .of_life rfl rfl
    | some g => rw [World.exec, Act.run_openReplyGate_of_some v hg, finish_all_eq]; exact .of_life rfl rfl
  | releaseStart =>
    show LaunchEvent v (v.exec (Act.openGate (·.startGates) fun w q => { w with startGates := q })) _
    cases hg : v.startGates.oldestClosed? with
    | none => rw [World.exec, Act.run_openStartGate_of_none v hg]; exact .of_life rfl rfl
    | some g => rw [World.exec, Act.run_openStartGate_of_some v hg, finish_all_eq]; exact .of_life rfl rfl
  | reportLaunch s =>
    show LaunchEvent v (v.exec (Act.handleLaunch s)) _
    obtain ⟨hs, hl, hsv⟩ := handleLaunch_keeps (u := v) s
    exact .of_same hs hl fun _ h => by rw [hsv]; exact h
  | reportCrash s =>
    show LaunchEvent v (v.exec (Act.clearServer s)) _
    by_cases hs : v.life.server = some s
    · obtain ⟨hn, hc, hl⟩ := clearServer_clears hs
      exact ⟨.inr (.inl ⟨s, hs, hn, hc⟩), fun l hl' hne => absurd (hl ▸ hl') hne,
        fun _ s' hs' => by rw [hn] at hs'; cases hs'⟩
    · exact .of_life (life_clearServer_of_ne hs) (by rw [World.exec, Act.run_clearServer_of_ne v hs])

end Event

/-- A fresh service has no server. -/
theorem Fresh.started (h : w.Fresh) : w.Started := fun s hs => by rw [h.server] at hs; cases hs

/-- In every world a run of a fresh service reaches, the current server has started unless a
launch is under way. -/
theorem Fresh.started_run (h : w.Fresh) (es : List Event) : (w.run es).Started :=
  (run_induction (fun v => v.Typed none ∧ v.LifeShape none ∧ v.Started)
    (fun _ e hv => ⟨hv.1.step e, (hv.2.1.step hv.1 e).shape, (hv.1.launchEvent hv.2.1 e).started hv.2.2⟩)
    es ⟨h.typed, h.lifeShape, h.started⟩).2.2

end World

end CompletionClient.Service
