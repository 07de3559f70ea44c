import CompletionClient.Proofs.Service.Versions
/-!
# The version a server's requests carry

A launch checks the installation, records the version the check reported,
and builds the launch metadata of the server it makes with that version.
`World.Versioned` says what follows for a world: the current server exists
and its launch metadata carries the version the service holds, and every
heartbeat task, at its beat or asleep, names a server that exists and sends
that server's launch metadata (`World.BeatsWith`).  Every event keeps it
(`World.Versioned.step`), so every world a run of a fresh service reaches has
it (`World.Fresh.versioned_run`).

Only the first step of a launch changes the version the service holds, and
a launch begins only where no server is current (`World.OwnShape`); any other
step keeps the versions, makes no server current, and starts no heartbeat,
which only a launch report does (`Duty.Spawns`).  A heartbeat sends the
metadata it was started with, to the server that is current; an accept notice
builds its metadata as it is sent, in a step that keeps the versions
(`World.Versioned.run_log`).

The completion path does not agree.  A call builds its request, metadata
included, as it begins, with the version the service holds then
(`Act.completeBegin_extensionVersion`); the job asks for a server only
afterwards.  A first call in a fresh service thus sends the configured
version to the server that its own launch made, whose check may have
reported another (`completion_request_predates_launch`).  The main statement
is `World.launch_version_agreement`.
-/

namespace CompletionClient.Service

namespace World

variable {w w' : World} {t : CellId} {p : Point}

/-- The task `c` is a heartbeat of the server `s` that sends the metadata `md`, at its beat or
asleep until its next one. -/
def BeatsWith (w : World) (c s : Nat) (md : Metadata) : Prop :=
  (w.queue.cell c).point = some (.heartbeat s md) ∨ (w.queue.cell c).point = some (.heartbeatAsleep s md)

/-- What the versions say of the servers: the current server exists and its launch's check
reported the version the service holds; every heartbeat task names a server that exists and
sends that server's launch metadata. -/
structure Versioned (w : World) : Prop where
  current : ∀ s, w.life.server = some s → s < w.servers.size ∧
    (w.servers.getD s default).launchMetadata.extensionVersion = w.life.serverVersion
  beats : ∀ c s md, w.BeatsWith c s md → s < w.servers.size ∧ md = (w.servers.getD s default).launchMetadata

/-- A change that keeps the versions and makes no server current keeps what the versions say if
every heartbeat task after it names a server that exists and sends its launch metadata. -/
theorem Versioned.of_beats (h : w.Versioned) (hv : w'.versions = w.versions)
    (hs : ∀ s, w'.life.server = some s → w.life.server = some s)
    (hp : ∀ c s md, w'.BeatsWith c s md → s < w.servers.size ∧ md = (w.servers.getD s default).launchMetadata) :
    w'.Versioned := by
  obtain ⟨hsv, hsize, hmd⟩ := versions_eq hv
  refine ⟨fun s hs' => ?_, fun c s md hc => ?_⟩
  · rw [hsize, hmd, hsv]
    exact h.current s (hs s hs')
  · rw [hsize, hmd]
    exact hp c s md hc

/-- A change that keeps the versions, makes no server current and starts no heartbeat keeps what
the versions say. -/
theorem Versioned.of_versions (h : w.Versioned) (hv : w'.versions = w.versions)
    (hs : ∀ s, w'.life.server = some s → w.life.server = some s)
    (hp : ∀ c s md, w'.BeatsWith c s md → w.BeatsWith c s md) : w'.Versioned :=
  h.of_beats hv hs fun c s md hc => h.beats c s md (hp c s md hc)

theorem Versioned.of_points (h : w.Versioned) (hv : w'.versions = w.versions)
    (hs : w'.life.server = w.life.server) (hp : ∀ d, (w'.queue.cell d).point = (w.queue.cell d).point) :
    w'.Versioned :=
  h.of_versions hv (fun s h' => by rw [← hs]; exact h') fun c s md hc => by rwa [BeatsWith, hp c] at hc

theorem Versioned.clearServer (h : w.Versioned) (s : Nat) : (w.exec (Act.clearServer s)).Versioned := by
  by_cases hs : w.life.server = some s
  · refine h.of_versions (Act.versions_clearServer s) (fun s' h' => ?_) fun c s' md hc => ?_
    · rw [World.exec, Act.run_clearServer_of_current w hs] at h'
      cases h'
    · rw [BeatsWith, World.exec, Act.run_clearServer_of_current w hs] at hc
      rwa [point_beatCancelled] at hc
  · rw [World.exec, Act.run_clearServer_of_ne w hs]
    exact h

/-- A launch report of the current server starts a heartbeat with that server's launch metadata. -/
theorem Versioned.handleLaunch (h : w.Versioned) (s : Nat) : (w.exec (Act.handleLaunch s)).Versioned := by
  by_cases hs : w.life.server = some s
  · rw [World.exec, Act.run_handleLaunch_of_current w hs]
    refine ⟨fun s' h' => h.current s' h', fun c s' md hc => ?_⟩
    simp only [BeatsWith, RunQueue.cell_spawn] at hc
    by_cases hcn : c = w.beatCancelled.cells.size
    · -- the new heartbeat beats for the current server
      simp only [hcn, if_true, Option.some.injEq] at hc
      rcases hc with hc | hc <;> cases hc
      exact ⟨(h.current s hs).1, rfl⟩
    · simp only [hcn, if_false] at hc
      rw [point_beatCancelled] at hc
      exact h.beats c s' md hc
  · rw [World.exec, Act.run_handleLaunch_of_ne w hs]
    exact h

theorem Versioned.launchEnd (h : w.Versioned) (previous : Phase) (o : Outcome) :
    (StateT.run (Act.launchEnd previous o) w).2.Versioned := by
  cases o with
  | value r => rw [Act.run_launchEnd_value]; exact h.of_points rfl rfl fun _ => rfl
  | failed f =>
    rw [Act.run_launchEnd_of_not_value _ _ fun _ h => by cases h]
    exact h.of_points rfl rfl fun _ => rfl
  | cancelled =>
    rw [Act.run_launchEnd_of_not_value _ _ fun _ h => by cases h]
    exact h.of_points rfl rfl fun _ => rfl

theorem Versioned.launchAbort (h : w.Versioned) (previous : Phase) (s : Nat) (o : Outcome) :
    (StateT.run (Act.launchAbort previous s o) w).2.Versioned := by
  rw [Act.run_launchAbort]
  refine Versioned.launchEnd ?_ previous o
  exact (h.clearServer s).of_points rfl rfl fun _ => rfl

theorem Versioned.launchStarted (h : w.Versioned) (previous : Phase) (s : Nat) :
    (StateT.run (Act.launchStarted previous s) w).2.Versioned := by
  by_cases he : w.script.startError = .null
  · rw [Act.run_launchStarted_of_null w previous s he]
    dsimp only
    have h₁ : ({ w with servers := w.servers.modify s fun e => { e with started := true } } : World).Versioned :=
      h.of_points (versions_modify_servers s fun _ => rfl) rfl fun _ => rfl
    apply Versioned.launchEnd
    split
    · exact h₁.handleLaunch s
    · exact h₁
  · rw [Act.run_launchStarted_of_error w previous s he]
    apply Versioned.launchAbort
    split
    · exact h.of_points rfl rfl fun _ => rfl
    · exact h

theorem Versioned.claimStartGate (h : w.Versioned) : (StateT.run Act.claimStartGate w).2.Versioned := by
  cases hu : w.startGates.untaken with
  | nil => rw [Act.run_claimStartGate_of_nil w hu]; exact h
  | cons g rest =>
    cases ho : (w.startGates.gates.getD g {}).isOpen
    · rw [Act.run_claimStartGate_of_closed w hu ho]
      exact h.of_points rfl rfl fun d => by rw [RunQueue.cell_newCell]
    · rw [Act.run_claimStartGate_of_open w hu ho]
      exact h.of_points rfl rfl fun _ => rfl

end World

namespace World

variable {w : World}

/-- A launch that finds no server either ends with no server current, or makes one whose launch
metadata carries the version its check reported, which the service then holds. -/
theorem Versioned.launchBegin (h : w.Versioned) (hs : w.life.server = none) :
    (StateT.run Act.launchBegin w).2.Versioned := by
  rcases Act.run_launchBegin_cases (w := w) with ⟨v, f, -, hrun⟩ | ⟨st, md, -, hm, hrun⟩
  · -- a launch that fails before making its server leaves none current
    rw [hrun]
    refine Versioned.launchEnd (w := Act.launchChecked w v)
      ⟨fun s' h' => ?_, fun c s md hc => h.beats c s md hc⟩ _ _
    simp [Act.launchChecked, hs] at h'
  · rw [hrun, Act.run_bind']
    -- the server made is current, and its metadata carries the version the check reported
    have hmade : (Act.launchMade w st.version md).Versioned := by
      have hold : ∀ s, s < w.servers.size →
          ((w.servers.push { launchMetadata := md }).getD s default) = w.servers.getD s default :=
        fun s hlt => by simp [Array.getD_eq_getD_getElem?, Array.getElem?_push, Nat.ne_of_lt hlt]
      refine ⟨fun s' h' => ?_, fun c s' md' hc => ?_⟩
      · simp only [Act.launchMade, Act.launchChecked, Option.some.injEq] at h'
        subst h'
        refine ⟨by simp [Act.launchMade, Act.launchChecked], ?_⟩
        simp [Act.launchMade, Act.launchChecked, Array.getD_eq_getD_getElem?,
          MetadataSource.extensionVersion_of_build hm]
      · obtain ⟨hlt, hmd'⟩ := h.beats c s' md' hc
        refine ⟨by simp [Act.launchMade, Act.launchChecked]; omega, ?_⟩
        show md' = ((w.servers.push { launchMetadata := md }).getD s' default).launchMetadata
        rw [hold s' hlt]
        exact hmd'
    have hgate := hmade.claimStartGate
    split
    · exact hgate
    · exact hgate.launchStarted _ _

/-- Recording how a task left off keeps what the versions say if, where it leaves a heartbeat,
that heartbeat names a server that exists and sends its launch metadata. -/
theorem Versioned.advance (h : w.Versioned) (t : CellId) (pr : Progress)
    (hpr : ∀ c next s md, pr = .wait c next → (next = .heartbeat s md ∨ next = .heartbeatAsleep s md) →
      s < w.servers.size ∧ md = (w.servers.getD s default).launchMetadata) :
    (w.exec (Act.advance t pr)).Versioned := by
  cases pr with
  | done o => exact h.of_points rfl rfl fun d => RunQueue.point_finish _ _ _ d
  | wait c next =>
    refine h.of_beats rfl (fun _ h' => h') fun d s md hd => ?_
    rw [BeatsWith, exec_advance_wait] at hd
    simp only [waitOn, RunQueue.point_listen, RunQueue.cell_modifyCell] at hd
    by_cases hdt : t = d ∧ d < w.queue.cells.size
    · -- the task itself, now at its next point
      simp only [hdt, and_self, if_true, Option.some.injEq] at hd
      exact hpr c next s md rfl hd
    · simp only [hdt, if_false] at hd
      exact h.beats d s md hd

end World

namespace World

variable {w w₁ : World} {t x : CellId} {p : Point} {q : RunQueue Point}

section Beats

variable {s : Nat} {md : Metadata}

/-- A heartbeat's step leaves it asleep with the server and metadata it had, or ends it. -/
theorem run_wait_of_beats (hp : p = .heartbeat s md ∨ p = .heartbeatAsleep s md) (input : Outcome)
    {c : CellId} {next : Point} (hw : (StateT.run (Act.run p input) w).1 = .wait c next) :
    next = .heartbeatAsleep s md := by
  have hbegin : (StateT.run (Act.heartbeatBegin s md) w).1 = .wait c next → next = .heartbeatAsleep s md := by
    rw [Act.run_heartbeatBegin]
    intro h
    cases h
    rfl
  rcases hp with rfl | rfl
  · exact hbegin hw
  · cases input
    case value r => exact hbegin hw
    all_goals cases hw

/-- A heartbeat's step sends at most one request: a heartbeat with its own metadata, to its own
server. -/
theorem received_run_beats (hp : p = .heartbeat s md ∨ p = .heartbeatAsleep s md) (input : Outcome) :
    (StateT.run (Act.run p input) w).2.received = w.received ∨
      (StateT.run (Act.run p input) w).2.received = w.received ++ [(s, .heartbeat md)] := by
  have hbegin : (StateT.run (Act.heartbeatBegin s md) w).2.received = w.received ∨
      (StateT.run (Act.heartbeatBegin s md) w).2.received = w.received ++ [(s, .heartbeat md)] := by
    rw [Act.run_heartbeatBegin]
    show (w.exec (Act.receive s (.heartbeat md))).received = _ ∨ _
    rw [Act.exec_receive]
    split
    · exact .inr rfl
    · exact .inl rfl
  rcases hp with rfl | rfl
  · exact hbegin
  · cases input
    case value r => exact hbegin
    all_goals exact .inl rfl

end Beats

/-! ## Accept notices -/

/-- A caller of a server is given one at once only when no launch is under way and that server is
current, and then nothing changes. -/
theorem ensureStarted_of_ready {s : Nat} (h : (StateT.run Act.ensureStarted w).1 = .ready s) :
    w.life.server = some s ∧ StateT.run Act.ensureStarted w = (.ready s, w) := by
  by_cases hp : ∃ l, w.life.launch = some l ∧ w.queue.isDone l = false
  · obtain ⟨l, hl, hd⟩ := hp
    rw [Act.run_ensureStarted_of_pending w hl hd, Act.run_shield] at h
    cases h
  · have hdone := launch_done_of_not_pending hp
    cases hs : w.life.server with
    | some s' =>
      rw [Act.run_ensureStarted_of_ready w hdone hs] at h
      cases h
      exact ⟨rfl, Act.run_ensureStarted_of_ready w hdone hs⟩
    | none =>
      rw [Act.run_ensureStarted_of_absent w hdone hs, Act.run_shield] at h
      cases h

theorem received_ensureStarted : (StateT.run Act.ensureStarted w).2.received = w.received := by
  by_cases hp : ∃ l, w.life.launch = some l ∧ w.queue.isDone l = false
  · obtain ⟨l, hl, hd⟩ := hp
    rw [Act.run_ensureStarted_of_pending w hl hd]
    rfl
  · have hdone := launch_done_of_not_pending hp
    cases hs : w.life.server with
    | some s => rw [Act.run_ensureStarted_of_ready w hdone hs]
    | none => rw [Act.run_ensureStarted_of_absent w hdone hs]; rfl

/-- An accept notice carries the version the service holds as it is sent. -/
theorem received_acceptWith (id : Value) (s : Nat) :
    ∃ new, (StateT.run (Act.acceptWith id s) w).2.received = w.received ++ new ∧
      ∀ s' md id', (s', Request.accept md id') ∈ new → md.extensionVersion = w.life.serverVersion := by
  rw [Act.run_acceptWith]
  split
  · exact ⟨[], by rw [List.append_nil], fun _ _ _ hm => by cases hm⟩
  · next md hb =>
    rw [Act.exec_receive]
    split
    · refine ⟨[(s, .accept md id)], rfl, fun s' md' id' hm => ?_⟩
      simp only [List.mem_singleton, Prod.mk.injEq, Request.accept.injEq] at hm
      obtain ⟨-, rfl, -⟩ := hm
      exact MetadataSource.extensionVersion_of_build hb
    · exact ⟨[], by rw [List.append_nil], fun _ _ _ hm => by cases hm⟩

/-- The step of an accept notice's task sends accept notices only with the version the service
holds as the step begins: it takes a server that is current without a change, or resumes with
the one its launch made. -/
theorem received_run_accept (hd : p.duty = .accept) (input : Outcome) :
    ∃ new, (StateT.run (Act.run p input) w).2.received = w.received ++ new ∧
      ∀ s md id, (s, Request.accept md id) ∈ new → md.extensionVersion = w.life.serverVersion := by
  cases p <;> simp only [Point.duty, reduceCtorEq] at hd
  case accept id =>
    show ∃ new, (StateT.run (Act.ensureStarted >>= _) w).2.received = _ ∧ _
    rw [Act.run_bind']
    split
    · next s hs =>
      rw [(ensureStarted_of_ready hs).2]
      exact received_acceptWith id s
    · refine ⟨[], ?_, fun _ _ _ hm => by cases hm⟩
      rw [List.append_nil]
      exact received_ensureStarted
  case acceptAwaitingServer id =>
    rcases input with (_ | s | _) | f | _
    case value.server => exact received_acceptWith id s
    all_goals exact ⟨[], by rw [List.append_nil]; rfl, fun _ _ _ hm => by cases hm⟩

/-! ## The step of a busy task -/

/-- The step of a busy task keeps what the versions say: a launch's step by the lemmas of its
actions, any other step because it keeps the versions and makes no server current, and only a
heartbeat's step leaves a heartbeat task, asleep with the server and metadata it had. -/
theorem Versioned.run_step (hV : w.Versioned) (h : w.Running w t p) {input : Outcome}
    (ho : w.OwnShape t p input) (hin : ∀ r, p.role = some r → w.RoleResult r input) :
    ((StateT.run (Act.run p input) w).2.exec
      (Act.advance t (StateT.run (Act.run p input) w).1)).Versioned := by
  obtain ⟨hR, hS⟩ := h.run input hin
  by_cases hdl : p.duty = .launch
  · refine Versioned.advance ?_ t _ fun c next s md hw hn => ?_
    · cases p
      case launch => exact hV.launchBegin (ho.fresh rfl).1
      case launchAwaitingStart previous s =>
        cases input
        case value r => exact hV.launchStarted previous s
        all_goals exact hV.launchAbort previous s _
      all_goals simp [Point.duty] at hdl
    · -- a launch waits at a point of its own duty, no heartbeat's
      rw [hw] at hS
      have hd : next.duty = .launch := hS.1.trans hdl
      rcases hn with rfl | rfl <;> simp [Point.duty] at hd
  have hv := Act.versions_run (w := w) (p := p) (fun hp => hdl (by rw [hp]; rfl)) input
  -- the current server stays or goes
  have hserver : ∀ s, (StateT.run (Act.run p input) w).2.life.server = some s →
      w.life.server = some s := by
    intro s hs
    rcases hR.frame.server with h' | h' | ⟨hl, -⟩
    · rw [← h', hs]
    · rw [h'] at hs
      cases hs
    · exact absurd (by rw [hl]; rfl) hdl
  -- a heartbeat task after the step is an old one: only a launch starts heartbeats
  have hpoints : ∀ c s md, (StateT.run (Act.run p input) w).2.BeatsWith c s md → w.BeatsWith c s md := by
    intro c s md hc
    by_cases hct : c = t
    · subst hct
      rw [BeatsWith, hR.point] at hc
      rw [BeatsWith, h.point]
      exact hc
    by_cases hlt : c < w.queue.cells.size
    · rwa [BeatsWith, hR.keeps.point c hct hlt] at hc
    · rcases hc with hc | hc <;> exact absurd (hR.spawned c _ (Nat.le_of_not_lt hlt) hc) hdl
  refine (hV.of_versions hv hserver hpoints).advance t _ fun c next s md hw hn => ?_
  -- a step waits at a point of its own duty: a heartbeat's, asleep with what it had
  rw [hw] at hS
  have hd : p.duty = .heartbeat s := by
    rw [← hS.1]
    rcases hn with rfl | rfl <;> rfl
  obtain ⟨hsv, hsize, hmd⟩ := versions_eq hv
  rw [hsize, hmd]
  cases p <;> simp only [Point.duty, reduceCtorEq, Duty.heartbeat.injEq] at hd
  case heartbeat s₀ md₀ =>
    subst hd
    rcases hn with rfl | rfl <;> cases run_wait_of_beats (.inl rfl) input hw
    exact hV.beats t _ _ (.inl h.point)
  case heartbeatAsleep s₀ md₀ =>
    subst hd
    rcases hn with rfl | rfl <;> cases run_wait_of_beats (.inr rfl) input hw
    exact hV.beats t _ _ (.inr h.point)

/-- Every heartbeat a busy task's step sends carries the launch metadata of the server it goes to,
which is current, and every accept notice it sends the version the service holds. -/
theorem Versioned.run_log (hV : w.Versioned) (h : w.Running w t p) (hL : w.LifeShape (some t))
    {input : Outcome} (ho : w.OwnShape t p input) (hin : ∀ r, p.role = some r → w.RoleResult r input) :
    ∃ new, (StateT.run (Act.run p input) w).2.received = w.received ++ new ∧
      (∀ s md, (s, Request.heartbeat md) ∈ new →
        md = (w.servers.getD s default).launchMetadata ∧ w.life.server = some s) ∧
      ∀ s md id, (s, Request.accept md id) ∈ new → md.extensionVersion = w.life.serverVersion := by
  obtain ⟨new, hnew, hcur⟩ := hL.run_log h ho hin
  obtain ⟨new', hnew', hsent⟩ := (h.run input hin).1.log
  rw [hnew] at hnew'
  obtain rfl : new = new' := List.append_cancel_left hnew'
  refine ⟨new, hnew, fun s md hm => ⟨?_, (hcur s md hm).1⟩, fun s md id hm => ?_⟩
  · -- only the heartbeat of the server sends one, with the metadata it was started with
    have hd : p.duty = .heartbeat s := hsent s _ hm
    have hbeats : ∀ md₀, (p = .heartbeat s md₀ ∨ p = .heartbeatAsleep s md₀) → md = md₀ := by
      intro md₀ hp
      rcases received_run_beats hp input (w := w) with hr | hr <;> rw [hr] at hnew
      · rw [List.append_right_eq_self.1 hnew.symm] at hm
        cases hm
      · rw [← List.append_cancel_left hnew] at hm
        simp only [List.mem_singleton, Prod.mk.injEq, Request.heartbeat.injEq] at hm
        exact hm.2
    cases p <;> simp only [Point.duty, reduceCtorEq, Duty.heartbeat.injEq] at hd
    case heartbeat s₀ md₀ =>
      subst hd
      rw [hbeats md₀ (.inl rfl)]
      exact (hV.beats t s₀ md₀ (.inl h.point)).2
    case heartbeatAsleep s₀ md₀ =>
      subst hd
      rw [hbeats md₀ (.inr rfl)]
      exact (hV.beats t s₀ md₀ (.inr h.point)).2
  · -- only an accept notice's task sends one, built as it is sent
    obtain ⟨new'', hnew'', hacc⟩ := received_run_accept (w := w) (hsent s _ hm) input
    rw [hnew] at hnew''
    rw [List.append_cancel_left hnew''] at hm
    exact hacc s md id hm

/-- What every event does to the versions: they still say what they said, every heartbeat the
event sends carries the launch metadata of the server it goes to, which was current as the event
began, and every accept notice it sends the version the service held then. -/
structure VersionMove (w w' : World) : Prop where
  versioned : w'.Versioned
  log : ∃ new, (w'.received = w.received ++ new ∨ w'.received = new) ∧
    (∀ s md, (s, Request.heartbeat md) ∈ new →
      md = (w.servers.getD s default).launchMetadata ∧ w.life.server = some s) ∧
    ∀ s md id, (s, Request.accept md id) ∈ new → md.extensionVersion = w.life.serverVersion

/-- A move that sends nothing. -/
theorem VersionMove.of_received {w' : World} (h : w'.Versioned) (hr : w'.received = w.received) :
    VersionMove w w' :=
  ⟨h, [], .inl (by rw [hr, List.append_nil]), (fun _ _ hm => by cases hm), fun _ _ _ hm => by cases hm⟩

/-- A busy task's step, from the world it began in to the world after it left off. -/
theorem Versioned.busy_move (hV : w₁.Versioned) (h : w₁.Running w₁ t p) (hL : w₁.LifeShape (some t))
    {input : Outcome} (ho : w₁.OwnShape t p input) (hin : ∀ r, p.role = some r → w₁.RoleResult r input)
    (hr : w₁.received = w.received) (hs : w₁.servers = w.servers) (hl : w₁.life = w.life) :
    VersionMove w ((StateT.run (Act.run p input) w₁).2.exec
      (Act.advance t (StateT.run (Act.run p input) w₁).1)) := by
  obtain ⟨new, hnew, hbeat, hacc⟩ := hV.run_log h hL ho hin
  refine ⟨hV.run_step h ho hin, new, .inl ?_, fun s md hm => ?_, fun s md id hm => ?_⟩
  · rw [received_advance, hnew, hr]
  · rw [← hs, ← hl]
    exact hbeat s md hm
  · rw [← hl]
    exact hacc s md id hm

/-! ## Wakes -/

theorem Versioned.of_pop? (hV : w.Versioned) {e : Wake} (hpop : w.queue.pop? = some (e, q)) :
    ({ w with queue := q } : World).Versioned :=
  hV.of_points rfl rfl fun d => by rw [RunQueue.cell_of_pop? hpop]

theorem Versioned.finish (hV : w.Versioned) (c : CellId) (o : Outcome) :
    ({ w with queue := w.queue.finish c o } : World).Versioned :=
  hV.of_points rfl rfl fun d => RunQueue.point_finish _ _ _ d

/-- A wake that starts a task: one that ended stays so, one cancelled before it started ends, and
any other one runs its step. -/
theorem Versioned.wake_start (hT : w.Typed none) (hL : w.LifeShape none) (hV : w.Versioned)
    (hpop : w.queue.pop? = some (.start x, q)) :
    VersionMove w (({ w with queue := q } : World).exec (Act.start x)) := by
  have hready := (RunQueue.pop?_eq_some hpop).1
  have hcell := RunQueue.cell_of_pop? hpop
  have hL₁ : ({ w with queue := q } : World).LifeShape none := hL.of_cells hcell rfl
  have hV₁ := hV.of_pop? hpop
  by_cases hres : (w.queue.cell x).result.isSome = true
  · rw [World.exec, Act.run_start_of_done _ (by rw [hcell]; exact hres)]
    exact .of_received hV₁ rfl
  have hpend : w.Pending x := by simpa [Pending] using hres
  obtain ⟨p, hp, -⟩ := hT.start_fresh x (by rw [hready]; exact List.mem_cons_self) hpend
  cases hc : (w.queue.cell x).cancelPending
  case true =>
    rw [World.exec, Act.run_start_of_cancelled _ (by rw [hcell]; exact hpend) (by rw [hcell]; exact hc)]
    exact .of_received (hV₁.finish x .cancelled) rfl
  case false =>
    obtain ⟨hrole, hrun⟩ := hT.begin_start hpop hpend hp
    rw [World.exec, Act.run_start _ (by rw [hcell]; exact hpend) (by rw [hcell]; exact hc)
      (by rw [hcell]; exact hp)]
    have ho : ({ w with queue := q } : World).OwnShape x p (.value .unit) :=
      hL₁.ownShape_start hrun.toTyped hrun.pending hrun.point hrole hrun.idle (by
        show (q.cell x).cancelPending = false
        rw [hcell]
        exact hc)
    exact hV₁.busy_move hrun hL₁.relax ho (fun r hr => by rw [hrole] at hr; cases hr) rfl rfl rfl

/-- A wake that resumes a task waiting for the cell that ended runs its step; a stale notice does
nothing. -/
theorem Versioned.wake_resume (hT : w.Typed none) (hL : w.LifeShape none) (hV : w.Versioned)
    {src : CellId} (hpop : w.queue.pop? = some (.notify (.resume x) src, q)) :
    VersionMove w (({ w with queue := q } : World).exec (Act.notify (.resume x) src)) := by
  have hcell := RunQueue.cell_of_pop? hpop
  have hL₁ : ({ w with queue := q } : World).LifeShape none := hL.of_cells hcell rfl
  have hV₁ := hV.of_pop? hpop
  have hdone : ¬ w.Pending src :=
    hT.notify_done _ src (by rw [(RunQueue.pop?_eq_some hpop).1]; exact List.mem_cons_self)
  rw [World.exec, Act.run_notify_resume]
  by_cases hw : w.Waits x src
  · obtain ⟨p, r, hp, hr, hinput, hrun⟩ := hT.begin_resume hpop hw
    rw [Act.run_resume _ (by rw [hcell]; exact hw.1) (by rw [hcell]; exact hw.2)
      (by rw [hcell]; exact hp)]
    simp only [hcell]
    have hw₁ : ({ w with queue := q } : World).Waits x src := by
      simp only [Waits, hcell]
      exact hw
    have hin₁ := (SameRefs.of_queue w q).roleResult hinput
    have ho := hL₁.ownShape_resume hw₁ (by simp only [Pending, hcell]; exact hdone)
      (by rw [hcell]; exact hp) hr (by simp only [hcell]; exact hin₁)
    simp only [hcell] at ho
    have hL₂ : (({ w with queue := q } : World).wakeUp x).LifeShape (some x) :=
      hL₁.relax.steady (quiet_wakeUp.steady rfl)
    have hV₂ : (({ w with queue := q } : World).wakeUp x).Versioned :=
      hV₁.of_points rfl rfl fun d => q.field_modifyCell x d Cell.point fun _ => rfl
    exact hV₂.busy_move hrun hL₂ ho (fun r' hr' => by
      rw [hr] at hr'
      cases hr'
      exact hin₁) rfl rfl rfl
  · -- a stale notice: the task no longer waits for the cell
    have hstale : (q.cell x).result.isSome = true ∨ (q.cell x).waitsFor ≠ some src := by
      rw [hcell]
      by_cases hres : (w.queue.cell x).result = none
      · exact .inr fun hwx => hw ⟨hres, hwx⟩
      · exact .inl (Option.isSome_iff_ne_none.2 hres)
    rw [Act.run_resume_of_stale _ hstale]
    exact .of_received hV₁ rfl

/-- A wake that runs a notice. -/
theorem Versioned.wake_notify (hT : w.Typed none) (hL : w.LifeShape none) (hV : w.Versioned)
    {l : Listener} {src : CellId} (hpop : w.queue.pop? = some (.notify l src, q)) :
    VersionMove w (({ w with queue := q } : World).exec (Act.notify l src)) := by
  have hV₁ := hV.of_pop? hpop
  cases l with
  | resume x => exact hV.wake_resume hT hL hpop
  | relay c =>
    rw [World.exec, Act.run_notify_relay]
    split
    · exact .of_received hV₁ rfl
    · exact .of_received (hV₁.finish c _) rfl
  | signal c =>
    rw [World.exec, Act.run_notify_signal]
    exact .of_received (hV₁.finish c _) rfl
  | tally g =>
    rw [World.exec, Act.run_notify_tally]
    split
    · exact .of_received hV₁ rfl
    · split
      · exact .of_received (hV₁.finish g _) rfl
      · exact .of_received (hV₁.of_points rfl rfl fun d => q.field_modifyCell g d Cell.point fun _ => rfl) rfl
  | forget x =>
    rw [World.exec, Act.run_notify_forget]
    exact .of_received (hV₁.of_points rfl rfl fun _ => rfl) rfl

theorem Versioned.wake (hT : w.Typed none) (hL : w.LifeShape none) (hV : w.Versioned) :
    VersionMove w w.wake := by
  unfold World.wake
  split
  · exact .of_received hV rfl
  · rename_i e q hpop
    cases e with
    | start x => exact hV.wake_start hT hL hpop
    | notify l src => exact hV.wake_notify hT hL hpop

end World

namespace World

variable {w : World}

/-! ## The other events -/

theorem Versioned.openReplyGate (hV : w.Versioned) :
    (w.exec (Act.openGate (·.replyGates) fun w q => { w with replyGates := q })).Versioned := by
  cases hg : w.replyGates.oldestClosed? with
  | none => rw [World.exec, Act.run_openReplyGate_of_none w hg]; exact hV
  | some g =>
    rw [World.exec, Act.run_openReplyGate_of_some w hg, finish_all_eq]
    exact hV.of_points rfl rfl fun d => RunQueue.point_finish_all _ _ _ d

theorem Versioned.openStartGate (hV : w.Versioned) :
    (w.exec (Act.openGate (·.startGates) fun w q => { w with startGates := q })).Versioned := by
  cases hg : w.startGates.oldestClosed? with
  | none => rw [World.exec, Act.run_openStartGate_of_none w hg]; exact hV
  | some g =>
    rw [World.exec, Act.run_openStartGate_of_some w hg, finish_all_eq]
    exact hV.of_points rfl rfl fun d => RunQueue.point_finish_all _ _ _ d

/-- A new task of a duty other than a heartbeat's keeps what the versions say. -/
theorem Versioned.spawn (hV : w.Versioned) {p : Point} (hp : ∀ s, p.duty ≠ .heartbeat s) :
    ({ w with queue := (w.queue.spawn p).1 } : World).Versioned := by
  refine hV.of_versions rfl (fun _ h => h) fun d s md hd => ?_
  simp only [BeatsWith, RunQueue.cell_spawn] at hd
  by_cases hdn : d = w.queue.cells.size
  · simp only [hdn, if_true, Option.some.injEq] at hd
    rcases hd with rfl | rfl <;> exact absurd rfl (hp s)
  · simp only [hdn, if_false] at hd
    exact hd

/-- Every event keeps what the versions say, and every heartbeat it sends carries the launch
metadata of the current server it goes to. -/
theorem Versioned.step (hT : w.Typed none) (hL : w.LifeShape none) (hV : w.Versioned) (e : Event) :
    VersionMove w (w.step e) := by
  cases e with
  | call c =>
    -- a call starts a task at its first point, no heartbeat's
    exact .of_received (hV.spawn fun s => by cases c <;> simp [Call.point, Point.duty]) rfl
  | warmUp =>
    refine .of_received ?_ rfl
    have h₁ := hV.spawn (p := .warmUp) fun _ => by simp [Point.duty]
    exact h₁.of_points rfl rfl fun d => RunQueue.point_listen _ _ _ d
  | wake => exact hV.wake hT hL
  | holdReply => exact .of_received (hV.of_points rfl rfl fun _ => rfl) rfl
  | releaseReply => exact .of_received hV.openReplyGate received_openReplyGate
  | holdStart => exact .of_received (hV.of_points rfl rfl fun _ => rfl) rfl
  | releaseStart => exact .of_received hV.openStartGate received_openStartGate
  | reportLaunch s => exact .of_received (hV.handleLaunch s) (received_handleLaunch s)
  | reportCrash s => exact .of_received (hV.clearServer s) (received_clearServer s)
  | script k => exact .of_received (hV.of_points rfl rfl fun _ => rfl) rfl
  | credentials c => exact .of_received (hV.of_points rfl rfl fun _ => rfl) rfl
  | installation status => exact .of_received (hV.of_points rfl rfl fun _ => rfl) rfl
  | ideVersion v => exact .of_received (hV.of_points rfl rfl fun _ => rfl) rfl
  | clearLog =>
    exact ⟨hV.of_points rfl rfl fun _ => rfl, [], .inr rfl, (fun _ _ hm => by cases hm), fun _ _ _ hm => by cases hm⟩
  | elapse t =>
    -- the end of a sleep moves no task
    show VersionMove w (w.exec (Act.elapse t))
    rw [Act.exec_elapse_queue]
    exact .of_received (hV.of_points rfl rfl fun d => by
      rcases Act.exec_elapse w t with he | ⟨s, md, c, -, -, -, he⟩ <;> rw [he]
      exact RunQueue.point_finish _ _ _ d) rfl

/-- A fresh service has no server and no task. -/
theorem Fresh.versioned (h : w.Fresh) : w.Versioned where
  current s hs := by rw [h.server] at hs; cases hs
  beats c s md hc := by simp [BeatsWith, RunQueue.cell, h.cells] at hc

/-- Every world a run of a fresh service reaches keeps what the versions say. -/
theorem Fresh.versioned_run (h : w.Fresh) (es : List Event) : (w.run es).Versioned :=
  (run_induction (fun v => v.Typed none ∧ v.LifeShape none ∧ v.Versioned)
    (fun _ e hv => ⟨hv.1.step e, (hv.2.1.step hv.1 e).shape, (hv.2.2.step hv.1 hv.2.1 e).versioned⟩) es
    ⟨h.typed, h.lifeShape, h.versioned⟩).2.2

end World

namespace World

/-- In every world a run of a fresh service reaches, a current server was made by a launch whose
installation check reported the version the service holds.  Whatever event comes next, every
heartbeat it sends carries the launch metadata of the server it goes to, so that version; every
accept notice it sends carries the version the service holds, so, if it goes to the current
server, that server's.  A completion call that begins there builds its request with the version
the service holds as the call begins, whichever server the request reaches later. -/
theorem launch_version_agreement (w : World) (hw : w.Fresh) (es : List Event) :
    let v := w.run es
    (∀ s, v.life.server = some s →
        (v.servers.getD s default).launchMetadata.extensionVersion = v.life.serverVersion) ∧
      (∀ e, ∃ new, ((v.step e).received = v.received ++ new ∨ (v.step e).received = new) ∧
        (∀ s md, (s, Request.heartbeat md) ∈ new →
          md = (v.servers.getD s default).launchMetadata ∧ md.extensionVersion = v.life.serverVersion) ∧
        ∀ s md id, (s, Request.accept md id) ∈ new → md.extensionVersion = v.life.serverVersion ∧
          (v.life.server = some s →
            md.extensionVersion = (v.servers.getD s default).launchMetadata.extensionVersion)) ∧
      ∀ call t j v', StateT.run (Act.completeBegin call) v = (.wait t (.completeAwaitingJob j), v') →
        (v'.jobs.getD j default).request.metadata.extensionVersion = v.life.serverVersion := by
  intro v
  have hT : v.Typed none := hw.typed_run es
  have hL : v.LifeShape none := hw.lifeShape_run es
  have hV : v.Versioned := hw.versioned_run es
  refine ⟨fun s hs => (hV.current s hs).2, fun e => ?_, fun call t j v' h => Act.completeBegin_extensionVersion h⟩
  obtain ⟨new, hnew, hbeat, hacc⟩ := (hV.step hT hL e).log
  refine ⟨new, hnew, fun s md hm => ?_, fun s md id hm => ⟨hacc s md id hm, fun hs => ?_⟩⟩
  · -- the server it goes to is current, so its launch's check reported the version the service holds
    obtain ⟨hmd, hs⟩ := hbeat s md hm
    exact ⟨hmd, by rw [hmd]; exact (hV.current s hs).2⟩
  · rw [hacc s md id hm, (hV.current s hs).2]

end World

/-- A fresh service whose installation reports version 1.3.0 is asked for completions. -/
theorem launch_version_agreement_on_call :
    let w : World :=
      { projectRoot := "/project", credentials := ⟨.str "key"⟩,
        source := ⟨.str "xcode", .str "14.0.0", none, .str "session-test"⟩,
        installation := .ok { kind := .installed, version := .str "1.3.0" }, resetOnRestart := true }
    let call : CompletionCall := ⟨.text "/project/a.py", .str "", ⟨.int 0, .int 0⟩, .int 4, .bool false⟩
    w.Fresh ∧
      let v := w.run [.call (.complete call), .wake, .wake, .wake]
      (∀ s, v.life.server = some s →
          (v.servers.getD s default).launchMetadata.extensionVersion = v.life.serverVersion) ∧
        (∀ e, ∃ new, ((v.step e).received = v.received ++ new ∨ (v.step e).received = new) ∧
          (∀ s md, (s, Request.heartbeat md) ∈ new →
            md = (v.servers.getD s default).launchMetadata ∧ md.extensionVersion = v.life.serverVersion) ∧
          ∀ s md id, (s, Request.accept md id) ∈ new → md.extensionVersion = v.life.serverVersion ∧
            (v.life.server = some s →
              md.extensionVersion = (v.servers.getD s default).launchMetadata.extensionVersion)) ∧
        ∀ call t j v', StateT.run (Act.completeBegin call) v = (.wait t (.completeAwaitingJob j), v') →
          (v'.jobs.getD j default).request.metadata.extensionVersion = v.life.serverVersion := by
  intro w call
  have hw : w.Fresh :=
    { phase := rfl, server := rfl, heartbeat := rfl, launch := rfl, cells := rfl, ready := rfl, jobs := rfl,
      ongoing := rfl, background := rfl, servers := rfl, replyGates := ⟨rfl, rfl⟩,
      startGates := ⟨rfl, rfl⟩, installation := nofun }
  exact ⟨hw, World.launch_version_agreement w hw [.call (.complete call), .wake, .wake, .wake]⟩

/-- A first completion call in a fresh service whose installation reports version 1.3.0: the call
builds its request while the service still holds the configured version 1.2.104, then launches
server 0, whose launch metadata and heartbeat carry 1.3.0; the request server 0 receives carries
1.2.104. -/
theorem completion_request_predates_launch :
    let w : World :=
      { projectRoot := "/project", credentials := ⟨.str "key"⟩,
        source := ⟨.str "xcode", .str "14.0.0", none, .str "session-test"⟩,
        installation := .ok { kind := .installed, version := .str "1.3.0" }, resetOnRestart := true }
    let call : CompletionCall := ⟨.text "/project/a.py", .str "", ⟨.int 0, .int 0⟩, .int 4, .bool false⟩
    let v := w.run [.call (.complete call), .wake, .wake, .wake, .wake, .wake, .wake, .wake, .wake,
      .wake, .wake, .wake, .wake]
    v.life.server = some 0 ∧
      (match (v.servers.getD 0 default).launchMetadata.extensionVersion with
        | .str "1.3.0" => true
        | _ => false) = true ∧
      (v.received.any fun
        | (0, .heartbeat md) => match md.extensionVersion with
          | .str "1.3.0" => true
          | _ => false
        | _ => false) = true ∧
      (v.received.any fun
        | (0, .completions req) => match req.metadata.extensionVersion with
          | .str "1.2.104" => true
          | _ => false
        | _ => false) = true := by
  decide +kernel

end CompletionClient.Service
