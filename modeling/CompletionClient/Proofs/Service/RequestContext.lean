import CompletionClient.Proofs.Service.Effects
import CompletionClient.Proofs.Path.Normal
import CompletionClient.Proofs.DocumentPool.OrderedMap
/-!
# What a completion request carries

A completion call names its document by a locator.  The request it builds
holds the document's path (the path the locator names), that path relative to
the project root, the call's text and cursor, and the language of the path's
name; as context it holds every other open document, in the order the
documents were first opened, each with the relative path and text the editor
last gave for it (`RequestContext`).

The call normalises its locator once and builds the request from the path it
got, normalising that path again where it looks up the other documents and
the relative path; since a path names itself (`Locator.toPath_text`), that is
the same as working from the locator.  A document notice stores the relative
path of the document it names, so every document of a pool that notices built
holds the relative path of its own path (`DocumentPool.Relative`).

Main statement (`completeBegin_request_context`): in a service whose documents
are those that a list of notices left, a completion call runs a job exactly
when the request's metadata can be built, and the job's request holds the
context above, taken from the pool as it stood when the call began; notices
that come later leave the job as it is.
-/

namespace CompletionClient

namespace Locator

/-- A relative path depends on the root only through the path the root names. -/
theorem relativePath_root_congr (file : Locator) {root root' : Locator}
    (h : root.toPath = root'.toPath) : relativePath file root = relativePath file root' := by
  simp only [relativePath, h]

/-- A file that names a path has a relative path to every root that names one. -/
theorem relativePath_ok {file root : Locator} {k x : String} (hf : file.toPath = .ok k)
    (hr : root.toPath = .ok x) : ∃ r, relativePath file root = .ok r := by
  simp only [relativePath, hf, hr, bind, Except.bind]
  split <;> exact ⟨_, rfl⟩

end Locator

namespace DocumentPool

/-- Every document of a pool holds its path relative to a root. -/
def Relative (root : Locator) (pool : DocumentPool) : Prop :=
  ∀ d ∈ pool.documents, ∃ r, Locator.relativePath (.text d.path) root = .ok r ∧ d.relativePath = .str r

theorem mem_store {pool : DocumentPool} {d e : Document} (he : e ∈ (pool.store d).documents) :
    e ∈ pool.documents ∨ e = d := by
  unfold store at he
  split at he
  · obtain ⟨e', he', rfl⟩ := List.mem_map.1 he
    split
    · exact .inr rfl
    · exact .inl he'
  · rcases List.mem_append.1 he with he | he
    · exact .inl he
    · exact .inr (List.mem_singleton.1 he)

theorem Relative.store {root : Locator} {pool : DocumentPool} (h : pool.Relative root)
    {d : Document} (hd : ∃ r, Locator.relativePath (.text d.path) root = .ok r ∧ d.relativePath = .str r) :
    (pool.store d).Relative root := by
  intro e he
  rcases mem_store he with he | rfl
  · exact h e he
  · exact hd

theorem Relative.erase {root : Locator} {pool : DocumentPool} (h : pool.Relative root)
    (k : String) : (pool.erase k).Relative root :=
  fun e he => h e (List.mem_filter.1 he).1

end DocumentPool

namespace Service

/-- What a request of a completion call at the path `k`, which the locator `u` names, with the
text `content` and the cursor `cursor`, holds in a service with the project root `root` and the
open documents `pool`. -/
structure RequestContext (root : Locator) (pool : DocumentPool) (u : Locator) (k : String)
    (content : Value) (cursor : Cursor) (req : CompletionRequest) : Prop where
  /-- The locator names the path. -/
  path : u.toPath = .ok k
  /-- The document is that path. -/
  absolute : req.document.absolutePath = .str k
  /-- Its relative path is the locator's path relative to the root. -/
  relative : ∃ r, Locator.relativePath u root = .ok r ∧ req.document.relativePath = .str r
  /-- It holds the call's text. -/
  text : req.document.text = content
  /-- It holds the call's cursor. -/
  cursor : req.document.cursor = some cursor
  /-- Its language is the language of the path's name. -/
  language : req.document.editorLanguage = .str (Language.ofPath (PosixPath.parse k)).editorLanguage ∧
    req.document.language = .int (Language.ofPath (PosixPath.parse k)).code.number
  /-- The other documents are the open documents of every other path, in the pool's order, each
  with its path, the relative path and text stored for it, the language of its path and no
  cursor. -/
  others : req.others = (pool.documents.filter (·.path ≠ k)).map fun d =>
    { absolutePath := .str d.path, relativePath := d.relativePath, text := d.content,
      editorLanguage := .str (Language.ofPath (PosixPath.parse d.path)).editorLanguage,
      language := .int (Language.ofPath (PosixPath.parse d.path)).code.number, cursor := none }
  /-- The document's own path is not among the others. -/
  excluded : ∀ o ∈ req.others, o.absolutePath ≠ .str k
  /-- Each other document holds its path relative to the root. -/
  stored : ∀ o ∈ req.others, ∃ key r, o.absolutePath = .str key ∧
    Locator.relativePath (.text key) root = .ok r ∧ o.relativePath = .str r

/-! ## Notices -/

/-- The world after a list of notices, one after the other. -/
def World.noticed (w : World) (ns : List Notice) : World := ns.foldl (fun w n => w.exec (Act.applyNotice n)) w

theorem applyNotice_changed (file : Locator) (content : Value) :
    Act.applyNotice (.changed file content) = Act.applyNotice (.opened file content) := rfl

/-- A notice that opens a document stores the pool that opening it at its relative path gives,
or leaves the world as it is. -/
theorem exec_applyNotice_opened (w : World) (file : Locator) (content : Value) :
    ∃ pool, w.exec (Act.applyNotice (.opened file content)) = { w with pool } ∧
      (pool = w.pool ∨ ∃ rel, Locator.relativePath file (.text w.projectRoot) = .ok rel ∧
        w.pool.openAt file (.str rel) content = .ok pool) := by
  simp only [World.exec, Act.applyNotice, Act.run_bind', Act.run_get']
  cases hrel : Locator.relativePath file (.text w.projectRoot) with
  | error f => exact ⟨w.pool, rfl, .inl rfl⟩
  | ok rel =>
    cases hp : w.pool.openAt file (.str rel) content with
    | error f =>
      refine ⟨w.pool, ?_, .inl rfl⟩
      simp only [bind, Except.bind, hp]
      rfl
    | ok pool =>
      refine ⟨pool, ?_, .inr ⟨rel, rfl, hp⟩⟩
      simp only [bind, Except.bind, hp]
      rfl

/-- A notice that closes a document stores the pool without it, or leaves the world as it is. -/
theorem exec_applyNotice_closed (w : World) (file : Locator) :
    ∃ pool, w.exec (Act.applyNotice (.closed file)) = { w with pool } ∧
      (pool = w.pool ∨ w.pool.closeAt file = .ok pool) := by
  simp only [World.exec, Act.applyNotice, Act.run_bind', Act.run_get']
  cases hp : w.pool.closeAt file with
  | error f => exact ⟨w.pool, rfl, .inl rfl⟩
  | ok pool => exact ⟨pool, rfl, .inr rfl⟩

/-- A request to drop the current request sends a cancel notice, which changes the counters and
the log of received requests only. -/
theorem exec_applyNotice_dropRequest (w : World) :
    w.exec (Act.applyNotice .dropRequest) = w.exec (Act.cancelNotice w.life.counters.requests) := rfl

/-- A cancel notice changes no document, no job and not the root. -/
theorem exec_cancelNotice_frame (w : World) (rid : Nat) :
    (w.exec (Act.cancelNotice rid)).pool = w.pool ∧ (w.exec (Act.cancelNotice rid)).jobs = w.jobs ∧
      (w.exec (Act.cancelNotice rid)).projectRoot = w.projectRoot := by
  by_cases h : ∃ s, w.life.server = some s ∧ w.life.phase = .running
  · obtain ⟨s, hs, hp⟩ := h
    rw [World.exec, Act.run_cancelNotice_of_running w rid hs hp, Act.exec_receive]
    split <;> exact ⟨rfl, rfl, rfl⟩
  · have h' : ∀ s, w.life.server = some s → w.life.phase ≠ .running := fun s hs hp => h ⟨s, hs, hp⟩
    rw [World.exec, Act.run_cancelNotice_of_not_running w rid h']
    exact ⟨rfl, rfl, rfl⟩

/-- A notice changes no job and not the root. -/
theorem exec_applyNotice_frame (w : World) (n : Notice) :
    (w.exec (Act.applyNotice n)).jobs = w.jobs ∧ (w.exec (Act.applyNotice n)).projectRoot = w.projectRoot := by
  cases n with
  | opened file content =>
    obtain ⟨pool, h, -⟩ := exec_applyNotice_opened w file content
    rw [h]
    exact ⟨rfl, rfl⟩
  | changed file content =>
    obtain ⟨pool, h, -⟩ := exec_applyNotice_opened w file content
    rw [applyNotice_changed, h]
    exact ⟨rfl, rfl⟩
  | closed file =>
    obtain ⟨pool, h, -⟩ := exec_applyNotice_closed w file
    rw [h]
    exact ⟨rfl, rfl⟩
  | dropRequest =>
    rw [exec_applyNotice_dropRequest]
    exact (exec_cancelNotice_frame w _).2

theorem noticed_frame (w : World) (ns : List Notice) :
    (w.noticed ns).jobs = w.jobs ∧ (w.noticed ns).projectRoot = w.projectRoot := by
  induction ns generalizing w with
  | nil => exact ⟨rfl, rfl⟩
  | cons n ns ih =>
    obtain ⟨hj, hr⟩ := exec_applyNotice_frame w n
    obtain ⟨hj', hr'⟩ := ih (w.exec (Act.applyNotice n))
    exact ⟨hj'.trans hj, hr'.trans hr⟩

section Relative

variable {R : Locator}

/-- A notice that opens a document, in a service whose root is named by `R`, keeps every document
holding its path relative to `R`. -/
theorem Relative.opened {w : World} (hroot : R.toPath = .ok w.projectRoot) (hw : w.pool.Relative R)
    (file : Locator) (content : Value) :
    (w.exec (Act.applyNotice (.opened file content))).pool.Relative R := by
  obtain ⟨pool, h, hpool⟩ := exec_applyNotice_opened w file content
  rw [h]
  rcases hpool with rfl | ⟨rel, hrel, hopen⟩
  · exact hw
  · rw [DocumentPool.openAt_eq] at hopen
    cases hk : file.toPath with
    | error f => simp only [hk, Except.map, reduceCtorEq] at hopen
    | ok k =>
      simp only [hk, Except.map, Except.ok.injEq] at hopen
      subst hopen
      -- the root as the service keeps it names the same path as `R`
      have hroot' : (Locator.text w.projectRoot).toPath = R.toPath := by
        rw [Locator.toPath_text hroot, hroot]
      refine hw.store ⟨rel, ?_, rfl⟩
      show Locator.relativePath (.text k) R = .ok rel
      rw [Locator.relativePath_text hk, Locator.relativePath_root_congr file hroot'.symm, hrel]

/-- A notice in a service whose root is named by `R` keeps every document holding its path
relative to `R`. -/
theorem Relative.applyNotice {w : World} (hroot : R.toPath = .ok w.projectRoot) (hw : w.pool.Relative R)
    (n : Notice) : (w.exec (Act.applyNotice n)).pool.Relative R := by
  cases n with
  | opened file content => exact Relative.opened hroot hw file content
  | changed file content =>
    rw [applyNotice_changed]
    exact Relative.opened hroot hw file content
  | closed file =>
    obtain ⟨pool, h, hpool⟩ := exec_applyNotice_closed w file
    rw [h]
    rcases hpool with rfl | hclose
    · exact hw
    · rw [DocumentPool.closeAt_eq] at hclose
      cases hk : file.toPath with
      | error f => simp only [hk, Except.map, reduceCtorEq] at hclose
      | ok k =>
        simp only [hk, Except.map, Except.ok.injEq] at hclose
        subst hclose
        exact hw.erase k
  | dropRequest =>
    rw [exec_applyNotice_dropRequest, (exec_cancelNotice_frame w _).1]
    exact hw

/-- Notices keep every document holding its path relative to the root. -/
theorem Relative.noticed {w : World} (hroot : R.toPath = .ok w.projectRoot) (hw : w.pool.Relative R)
    (ns : List Notice) : (w.noticed ns).pool.Relative R := by
  induction ns generalizing w with
  | nil => exact hw
  | cons n ns ih =>
    have hroot' : R.toPath = .ok (w.exec (Act.applyNotice n)).projectRoot := by
      rw [(exec_applyNotice_frame w n).2]; exact hroot
    exact ih hroot' (Relative.applyNotice hroot hw n)

end Relative

/-! ## The start of a completion call -/

/-- Superseding changes the jobs, the queue and the jobs in flight only, and adds no cell. -/
theorem exec_supersedeAll_eq (w : World) :
    ∃ jobs queue, queue.cells.size = w.queue.cells.size ∧
      w.exec Act.supersedeAll = { w with jobs, queue, ongoing := [] } := by
  simp only [World.exec, Act.run_supersedeAll]
  -- each step of the fold changes a job and cancels a task, which keeps the cells
  suffices h : ∀ (l : List Nat) (w' : World), ∃ jobs queue, queue.cells.size = w'.queue.cells.size ∧
      l.foldl (fun w' j =>
        { w' with jobs := w'.jobs.modify j fun job => { job with superseded := true },
                  queue := w'.queue.cancelTask (w.jobs.getD j default).task }) w' = { w' with jobs, queue } by
    obtain ⟨jobs, queue, hs, h⟩ := h w.ongoing w
    exact ⟨jobs, queue, hs, by rw [h]⟩
  intro l
  induction l with
  | nil => intro w'; exact ⟨w'.jobs, w'.queue, rfl, rfl⟩
  | cons j l ih =>
    intro w'
    obtain ⟨jobs, queue, hs, h⟩ := ih _
    exact ⟨jobs, queue, hs.trans (RunQueue.size_cancelTask _ _), by rw [List.foldl_cons, h]⟩

/-- Where a completion call builds its request, the documents, the root, the credentials, the
metadata source and the lifecycle are those it began with, but for the next request id. -/
theorem completeStart_frame (w : World) :
    (Act.completeStart w).pool = w.pool ∧ (Act.completeStart w).projectRoot = w.projectRoot ∧
      (Act.completeStart w).source = w.source ∧ (Act.completeStart w).credentials = w.credentials ∧
      (Act.completeStart w).life.serverVersion = w.life.serverVersion ∧
      (Act.completeStart w).life.counters.requests = w.life.counters.requests + 1 := by
  obtain ⟨jobs, queue, -, h⟩ := exec_supersedeAll_eq w
  unfold Act.completeStart
  rw [h]
  exact ⟨rfl, rfl, rfl, rfl, rfl, rfl⟩

/-- The request a completion call builds, from a world whose root names itself: metadata for its
id, the document the call names and the other documents of the pool. -/
theorem buildRequest_value (w : World) (id : Nat) (call : CompletionCall) {k r : String}
    (hk : (Locator.text k).toPath = .ok k) (hfile : call.file.toPath = .ok k)
    (hr : Locator.relativePath (.text k) (.text w.projectRoot) = .ok r) :
    (StateT.run (Act.buildRequest id call) w).1 =
      (w.source.build w.credentials (.int id) w.life.serverVersion).map fun md =>
        { metadata := md,
          document := { absolutePath := .str k, relativePath := .str r, text := call.content,
                        editorLanguage := .str (Language.ofPath (PosixPath.parse k)).editorLanguage,
                        language := .int (Language.ofPath (PosixPath.parse k)).code.number,
                        cursor := some call.cursor },
          options := ⟨call.indentSize, .bool !call.usesTabs.truthy⟩,
          others := (w.pool.others k).map Act.payloadOf } := by
  simp only [Act.buildRequest, Act.run_bind', Act.run_get', StateT.run_pure, hfile]
  simp only [bind, Except.bind, DocumentPool.othersAt_eq, hk, Except.map]
  cases w.source.build w.credentials (.int id) w.life.serverVersion with
  | error f => rfl
  | ok md => simp only [hr]; rfl

/-- The payloads of the other documents: every document of another path, in the pool's order. -/
theorem payloads_others (pool : DocumentPool) (k : String) :
    (pool.others k).map Act.payloadOf = (pool.documents.filter (·.path ≠ k)).map fun d =>
      { absolutePath := .str d.path, relativePath := d.relativePath, text := d.content,
        editorLanguage := .str (Language.ofPath (PosixPath.parse d.path)).editorLanguage,
        language := .int (Language.ofPath (PosixPath.parse d.path)).code.number, cursor := none } := by
  simp only [DocumentPool.others]
  congr 1
  apply List.filter_congr
  intro d _
  rw [Bool.eq_iff_iff, bne_iff_ne, decide_eq_true_iff]

/-- The request a completion call builds once it started: metadata for the next request id, and
the document and other documents of the world the call began in. -/
theorem completeStart_buildRequest {W : World} {R : Locator}
    (hroot : R.toPath = .ok W.projectRoot) {call : CompletionCall} {k r : String} (hk : call.file.toPath = .ok k) (hr : Locator.relativePath call.file R = .ok r) :
    (StateT.run (Act.buildRequest (Act.completeStart W).life.counters.requests call) (Act.completeStart W)).1 =
      (W.source.build W.credentials (.int (W.life.counters.requests + 1 : Nat)) W.life.serverVersion).map fun md =>
        { metadata := md,
          document := { absolutePath := .str k, relativePath := .str r, text := call.content,
                        editorLanguage := .str (Language.ofPath (PosixPath.parse k)).editorLanguage,
                        language := .int (Language.ofPath (PosixPath.parse k)).code.number,
                        cursor := some call.cursor },
          options := ⟨call.indentSize, .bool !call.usesTabs.truthy⟩,
          others := (W.pool.others k).map Act.payloadOf } := by
  obtain ⟨hpool, hroot', hsource, hcred, hversion, hid⟩ := completeStart_frame W
  -- the root the service keeps names itself, so relative paths to it are relative paths to `R`
  have hkeep : (Locator.text (Act.completeStart W).projectRoot).toPath = R.toPath := by
    rw [hroot', Locator.toPath_text hroot, hroot]
  have hr' : Locator.relativePath (.text k) (.text (Act.completeStart W).projectRoot) = .ok r := by
    rw [Locator.relativePath_root_congr _ hkeep, Locator.relativePath_text hk, hr]
  rw [buildRequest_value _ _ call (Locator.toPath_text hk) hk hr', hpool, hsource, hcred, hversion, hid]

/-- A request holds the context of a call when its document is the call's and its other documents
are those of a pool whose documents hold their relative paths. -/
theorem RequestContext.of_payloads {R : Locator} {pool : DocumentPool} (hpool : pool.Relative R)
    {u : Locator} {k r : String} (hk : u.toPath = .ok k) (hr : Locator.relativePath u R = .ok r)
    {content : Value} {cursor : Cursor} {req : CompletionRequest}
    (hdoc : req.document =
      { absolutePath := .str k, relativePath := .str r, text := content,
        editorLanguage := .str (Language.ofPath (PosixPath.parse k)).editorLanguage,
        language := .int (Language.ofPath (PosixPath.parse k)).code.number, cursor := some cursor })
    (hothers : req.others = (pool.others k).map Act.payloadOf) :
    RequestContext R pool u k content cursor req where
  path := hk
  absolute := by rw [hdoc]
  relative := ⟨r, hr, by rw [hdoc]⟩
  text := by rw [hdoc]
  cursor := by rw [hdoc]
  language := by rw [hdoc]; exact ⟨rfl, rfl⟩
  others := hothers.trans (payloads_others pool k)
  excluded := fun o ho => by
    rw [hothers, payloads_others] at ho
    obtain ⟨d, hd, rfl⟩ := List.mem_map.1 ho
    simpa using (List.mem_filter.1 hd).2
  stored := fun o ho => by
    rw [hothers, payloads_others] at ho
    obtain ⟨d, hd, rfl⟩ := List.mem_map.1 ho
    obtain ⟨r', hr', hd'⟩ := hpool d (List.mem_filter.1 hd).1
    exact ⟨d.path, r', rfl, hr', hd'⟩

/-! ## The request of a completion call -/

/-- In a service whose root is named by `R` and whose documents are those a list of notices left,
a completion call runs a job exactly when the metadata of its request can be built; the job's request holds the call's document and text, its cursor and language, the
locator's path relative to `R`, and the other open documents in order, each with its path relative
to `R`; and notices that come later leave the job as it is. -/
theorem completeBegin_request_context {w : World} {R : Locator}
    (hroot : R.toPath = .ok w.projectRoot) (hpool : w.pool = {}) (ns : List Notice)
    {call : CompletionCall} {k : String} (hk : call.file.toPath = .ok k) :
    let W := w.noticed ns
    let rid := W.life.counters.requests + 1
    ((∃ t j W', StateT.run (Act.completeBegin call) W = (.wait t (.completeAwaitingJob j), W')) ↔
        ∃ md, W.source.build W.credentials (.int rid) W.life.serverVersion = .ok md) ∧
      ∀ t j W', StateT.run (Act.completeBegin call) W = (.wait t (.completeAwaitingJob j), W') →
        RequestContext R W.pool call.file k call.content call.cursor (W'.jobs.getD j default).request ∧
        ∀ ns', ((W'.noticed ns').jobs.getD j default).request = (W'.jobs.getD j default).request := by
  intro W rid
  -- notices keep the root, and every document they stored holds its relative path
  have hrootW : R.toPath = .ok W.projectRoot := (noticed_frame w ns).2 ▸ hroot
  have hrel : W.pool.Relative R :=
    Relative.noticed hroot (by rw [hpool]; intro d hd; simp at hd) ns
  obtain ⟨r, hr⟩ := Locator.relativePath_ok hk hroot
  rw [Act.run_completeBegin]
  dsimp only
  rw [completeStart_buildRequest hrootW hk hr]
  cases hmd : W.source.build W.credentials (.int rid) W.life.serverVersion with
  | error f =>
    refine ⟨⟨fun ⟨t, j, W', h⟩ => ?_, fun ⟨md, h⟩ => nomatch h⟩, fun t j W' h => ?_⟩
    all_goals simp only [Except.map] at h; cases h
  | ok md =>
    refine ⟨⟨fun _ => ⟨md, rfl⟩, fun _ => ⟨_, _, _, rfl⟩⟩, fun t j W' h => ?_⟩
    simp only [Except.map] at h
    obtain ⟨⟨-, rfl⟩, rfl⟩ := h
    refine ⟨?_, fun ns' => by rw [(noticed_frame _ ns').1]⟩
    -- the job pushed last is the call's job, with the request built
    simp only [Array.getD_eq_getD_getElem?, Array.getElem?_push_size, Option.getD_some]
    exact RequestContext.of_payloads hrel hk hr rfl rfl

/-- A call at `/project/a.py` in a fresh service rooted at `/project`, once `/project/b.py` was
opened. -/
theorem completeBegin_request_context_after_open :
    let R := Locator.path (PosixPath.parse "/project")
    let w : World :=
      { projectRoot := "/project", credentials := ⟨.str "key"⟩,
        source := ⟨.str "vim", .str "9.1", none, .str "session"⟩, installation := .error .notSignedIn,
        resetOnRestart := false }
    let ns := [Notice.opened (.path (PosixPath.parse "/project/b.py")) (.str "b = 1")]
    let call : CompletionCall :=
      ⟨.path (PosixPath.parse "/project/a.py"), .str "a = ", ⟨.int 0, .int 4⟩, .int 4, .bool false⟩
    (R.toPath = .ok w.projectRoot ∧ w.pool = {} ∧ call.file.toPath = .ok "/project/a.py") ∧
      let W := w.noticed ns
      let rid := W.life.counters.requests + 1
      ((∃ t j W', StateT.run (Act.completeBegin call) W = (.wait t (.completeAwaitingJob j), W')) ↔
          ∃ md, W.source.build W.credentials (.int rid) W.life.serverVersion = .ok md) ∧
        ∀ t j W', StateT.run (Act.completeBegin call) W = (.wait t (.completeAwaitingJob j), W') →
          RequestContext R W.pool call.file "/project/a.py" call.content call.cursor
              (W'.jobs.getD j default).request ∧
            ∀ ns', ((W'.noticed ns').jobs.getD j default).request = (W'.jobs.getD j default).request := by
  intro R w ns call
  have hroot : R.toPath = .ok w.projectRoot := rfl
  have hk : call.file.toPath = .ok "/project/a.py" := rfl
  exact ⟨⟨hroot, rfl, hk⟩, completeBegin_request_context hroot rfl ns hk⟩

end Service

end CompletionClient
