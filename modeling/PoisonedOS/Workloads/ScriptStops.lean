import PoisonedOS.Workloads.ManagedScript

/-!
# A workload that has ended, and its script

A workload ends with the last events of its script, or by something else: its console or its
artifacts are full, a cancel, or the end of a session. Only the cancel stops the script first.
And a `CREATE` that finds a workload ended waits for its script under the mutex, for which the
script waits too if it has another event. Where neither comes up, a script has returned or was
told to stop when its workload has ended, and no handler waits for it in vain.
-/

namespace PoisonedOS

/-- The script still runs. -/
def ScriptPhase.active : ScriptPhase → Bool
  | .running | .delivering _ => true
  | _ => false

/-- The thread has another event to deliver, or may have. -/
def ScriptPhase.unfinished : ScriptPhase → Bool
  | .running | .delivering _ | .ending (_ :: _) | .deliveringLast _ _ => true
  | _ => false

/-- The thread waits for the mutex. -/
def ScriptPhase.waiting : ScriptPhase → Bool
  | .delivering _ | .deliveringLast _ _ => true
  | _ => false

variable {phase : ScriptPhase}

/-- A script that runs has not finished. -/
theorem ScriptPhase.unfinished_of_active (active : phase.active = true) :
    phase.unfinished = true := by
  cases phase with
  | running => rfl
  | delivering event => rfl
  | ending events => cases active
  | deliveringLast event events => cases active
  | exited => cases active

/-- Nor has one that waits. -/
theorem ScriptPhase.unfinished_of_waiting (waiting : phase.waiting = true) :
    phase.unfinished = true := by
  cases phase with
  | running => rfl
  | delivering event => rfl
  | ending events => cases waiting
  | deliveringLast event events => rfl
  | exited => cases waiting

namespace ManagedScript

/-! ## Records whose scripts are stopped -/

/-- Every script that still runs was told to stop. -/
def AllTold (managed : ManagedScript) : Prop :=
  ∀ (index : Nat) (script : Script), managed.scripts[index]? = some script →
    script.phase.active = true → script.told = true

/-- Once the workload has ended its script has returned, or was told to stop. -/
def Stopped (managed : ManagedScript) : Prop :=
  ∀ workload, managed.workload = some workload → workload.state.terminal = true →
    managed.AllTold

/-- No `CREATE` waits for a thread that waits for the mutex it holds. -/
def Unblocked (managed : ManagedScript) : Prop :=
  ∀ (session thread : Nat) (next : Option Workload) (script : Script),
    managed.handlers session = .creating thread next → managed.lockedBy = some session →
    managed.scripts[thread]? = some script → script.phase.waiting = false

/-! ## What a run must not do -/

/-- No thread has another event. -/
def Finished (managed : ManagedScript) : Prop :=
  ∀ (index : Nat) (script : Script), managed.scripts[index]? = some script →
    script.phase.unfinished = false

/-- The bytes of an artifact do not fit. -/
def ArtifactRequest.overBytes (request : ArtifactRequest) (workload : Workload) : Bool :=
  request.size != 0 && decide (request.size ≤ 0xFFFFFFFF) &&
    (decide (request.size.toUInt32 > workload.limits.artifactBytes) ||
      decide (workload.usage.artifactBytes >
        workload.limits.artifactBytes - request.size.toUInt32))

def ArtifactRequest.overLimit (request : ArtifactRequest) (workload : Workload) : Bool :=
  request.allowed && artifactIdValid request.artifactId && artifactPathValid request.path &&
    match workload.findArtifact request.artifactId with
    | none =>
      decide (workload.artifacts.length ≥ workloadMaxArtifacts) ||
        decide (workload.artifacts.length ≥ workload.limits.artifacts.toNat) ||
        ArtifactRequest.overBytes request workload
    | some artifact =>
      artifact.path == request.path && artifact.state == .isPartial &&
        ArtifactRequest.overBytes request workload

/-- A workload that can be ended. -/
def Endable (workload : Workload) : Prop :=
  workload.state = .running ∨ workload.state = .cancelling

/-- An event does not end a workload whose script runs on, and does not wait for a thread that
has another event. -/
def Allowed (managed : ManagedScript) : ManagedEvent → Prop
  | .create session _ =>
    managed.enters session = true → ∀ workload, managed.workload = some workload →
      workload.state.terminal = true → managed.Finished
  | .artifact session request =>
    managed.enters session = true → ∀ workload, managed.workload = some workload →
      workload.state = .running → ArtifactRequest.overLimit request workload = true →
      managed.AllTold
  | .cancelEnd session =>
    managed.handlers session = .cancelEnding → managed.attached = true →
      ∀ workload, managed.workload = some workload → Endable workload → managed.AllTold
  | .close session =>
    managed.enters session = true → ∀ workload, managed.workload = some workload →
      Endable workload → managed.AllTold
  | .deliver thread =>
    ∀ event, managed.scripts[thread]? = some ⟨.delivering event, false⟩ →
      managed.attached = true → ∀ workload, managed.workload = some workload →
      Endable workload → workload.consoleFull (event.2.getD (.literal "")) = false
  | _ => True

/-! ## The invariant -/

def Unstarted (workload : Option Workload) : Prop :=
  ∀ current, workload = some current → current.state = .queued

/-- What holds of a record along an allowed run. -/
structure Sound (managed : ManagedScript) : Prop where
  /-- A script that goes on after an event has printed. -/
  printing : ∀ (index : Nat) (script : Script) (event : ScriptEvent),
    managed.scripts[index]? = some script → script.phase = .delivering event → event.1 = .print
  /-- One thread at most has another event. -/
  single : ∀ (first second : Nat) (script other : Script), managed.scripts[first]? = some script →
    managed.scripts[second]? = some other → script.phase.unfinished = true →
    other.phase.unfinished = true → first = second
  /-- None has before a workload has started. -/
  quiet : Unstarted managed.workload → managed.Finished
  stopped : managed.Stopped
  /-- None has while a `CREATE` waits. -/
  held : ∀ (session thread : Nat) (next : Option Workload),
    managed.handlers session = .creating thread next →
    managed.lockedBy = some session ∧ managed.Finished ∧ Unstarted next

/-- A record without a workload is sound. -/
theorem start_sound : start.Sound where
  printing index script event stored := by simp [start] at stored
  single first second script other stored := by simp [start] at stored
  quiet _ index script stored := by simp [start] at stored
  stopped _ stored := nomatch stored
  held _ _ _ creating := nomatch creating

/-- Whoever waits in a sound record is waited for by nobody. -/
theorem Sound.unblocked {managed : ManagedScript} (sound : managed.Sound) :
    managed.Unblocked := by
  intro session thread next script creating locked stored
  obtain ⟨-, finished, -⟩ := sound.held session thread next creating
  cases waiting : script.phase.waiting with
  | false => rfl
  | true =>
    have none := finished thread script stored
    rw [ScriptPhase.unfinished_of_waiting waiting] at none
    cases none

/-- The threads of one record come from those of another and have no more to do. -/
def Calmer (before after : List Script) : Prop :=
  ∀ (index : Nat) (script : Script), after[index]? = some script →
    ∃ former : Script, before[index]? = some former ∧
      (script.phase.unfinished = true → former.phase.unfinished = true) ∧
      (script.phase.active = true → former.phase.active = true) ∧
      (former.told = true → script.told = true) ∧
      (∀ event, script.phase = .delivering event →
        event.1 = .print ∨ former.phase = .delivering event)

/-- The same scripts are no less calm. -/
theorem Calmer.refl (scripts : List Script) : Calmer scripts scripts :=
  fun _ script stored => ⟨script, stored, id, id, id, fun _ => .inr⟩

/-- Scripts that have finished stay so among calmer ones. -/
theorem Calmer.finished {managed next : ManagedScript}
    (calmer : Calmer managed.scripts next.scripts) (finished : managed.Finished) :
    next.Finished := by
  intro index script stored
  obtain ⟨former, before, unfinished, -⟩ := calmer index script stored
  cases left : script.phase.unfinished with
  | false => rfl
  | true =>
    have none := finished index former before
    rw [unfinished left] at none
    cases none

/-- Scripts that were told stay so among calmer ones. -/
theorem Calmer.allTold {managed next : ManagedScript}
    (calmer : Calmer managed.scripts next.scripts) (told : managed.AllTold) : next.AllTold := by
  intro index script stored active
  obtain ⟨former, before, -, wasActive, stays, -⟩ := calmer index script stored
  exact stays (told index former before (wasActive active))

/-- Scripts that have finished need not be told. -/
theorem Finished.allTold {managed : ManagedScript} (finished : managed.Finished) :
    managed.AllTold := by
  intro index script stored active
  have none := finished index script stored
  rw [ScriptPhase.unfinished_of_active active] at none
  cases none

/-- A step that starts no script keeps the invariant, where it ends a workload only whose script
has returned or was told to stop. -/
theorem Sound.calmer {managed next : ManagedScript} (sound : managed.Sound)
    (calmer : Calmer managed.scripts next.scripts)
    (unstarted : Unstarted next.workload → Unstarted managed.workload ∨ managed.Finished)
    (ends : ∀ workload, next.workload = some workload → workload.state.terminal = true →
      (∃ former, managed.workload = some former ∧ former.state.terminal = true) ∨ next.AllTold)
    (held : ∀ session thread following, next.handlers session = .creating thread following →
      next.lockedBy = some session ∧ managed.Finished ∧ Unstarted following) : next.Sound where
  printing index script event stored delivering := by
    obtain ⟨former, before, -, -, -, printed⟩ := calmer index script stored
    rcases printed event delivering with printed | kept
    · exact printed
    · exact sound.printing index former event before kept
  single first second script other stored storedOther unfinished unfinishedOther := by
    obtain ⟨former, before, was, -⟩ := calmer first script stored
    obtain ⟨formerOther, beforeOther, wasOther, -⟩ := calmer second other storedOther
    exact sound.single first second former formerOther before beforeOther (was unfinished)
      (wasOther unfinishedOther)
  quiet none := by
    rcases unstarted none with before | finished
    · exact calmer.finished (sound.quiet before)
    · exact calmer.finished finished
  stopped workload stored terminal := by
    rcases ends workload stored terminal with ⟨former, before, ended⟩ | told
    · exact calmer.allTold (sound.stopped former before ended)
    · exact told
  held session thread following creating := by
    obtain ⟨locked, finished, queued⟩ := held session thread following creating
    exact ⟨locked, calmer.finished finished, queued⟩

/-! ## The threads -/

/-- To tell a script to stop makes it calmer. -/
theorem calmer_tell (scripts : List Script) (thread : Nat) :
    Calmer scripts (scripts.modify thread fun script => { script with told := true }) := by
  intro index script stored
  rw [List.getElem?_modify] at stored
  cases before : scripts[index]? with
  | none =>
    rw [before] at stored
    cases stored
  | some former =>
    simp only [before, Option.map_eq_map, Option.map_some, Option.some.injEq] at stored
    subst stored
    refine ⟨former, rfl, ?_⟩
    split
    · exact ⟨id, id, fun _ => rfl, fun _ => .inr⟩
    · exact ⟨id, id, id, fun _ => .inr⟩

variable {thread : Nat}

/-- One thread goes on, with no more to do. -/
theorem calmer_script {scripts : List Script} {old : ScriptPhase} {told : Bool}
    (stored : scripts[thread]? = some ⟨old, told⟩)
    (unfinished : phase.unfinished = true → old.unfinished = true)
    (active : phase.active = true → old.active = true)
    (printed : ∀ event, phase = .delivering event → event.1 = .print) :
    Calmer scripts (scripts.modify thread fun script => { script with phase := phase }) := by
  intro index script storedScript
  rw [List.getElem?_modify] at storedScript
  by_cases same : thread = index
  · subst same
    simp only [stored, if_true, Option.map_eq_map, Option.map_some, Option.some.injEq]
      at storedScript
    subst storedScript
    exact ⟨⟨old, told⟩, stored, unfinished, active, id, fun event given =>
      .inl (printed event given)⟩
  · simp only [if_neg same, Option.map_eq_map, Option.map_id'] at storedScript
    exact ⟨script, storedScript, id, id, id, fun _ => .inr⟩

/-- When the one thread with another event has returned, or was told to stop, all were. -/
theorem Sound.allTold_of_thread {managed : ManagedScript} (sound : managed.Sound) {script : Script}
    (stored : managed.scripts[thread]? = some script) (unfinished : script.phase.unfinished = true)
    (settled : script.phase.active = true → script.told = true) : managed.AllTold := by
  intro index other storedOther active
  have same := sound.single thread index script other stored storedOther unfinished
    (ScriptPhase.unfinished_of_active active)
  subst same
  rw [stored] at storedOther
  obtain rfl := Option.some.inj storedOther
  exact settled active

/-! ## What the calls do to the state of a workload -/

/-- A console that is full ends the workload, and nothing else it does. -/
theorem appendConsole_state (workload : Workload) (consoleType : ConsoleType) (text : CString) :
    (workload.appendConsole consoleType text).2.state = workload.state ∨
      (workload.state.terminal = false ∧ workload.consoleFull text = true ∧
        (workload.appendConsole consoleType text).2.state = .failed) := by
  rw [Workload.appendConsole]
  split
  · exact .inl rfl
  rename_i lives
  split
  · rename_i full
    exact .inr ⟨by simpa using lives, full, rfl⟩
  · exact .inl rfl

/-- A forced end ends a workload that can be ended, for its reason. -/
theorem forceTerminate_state (workload : Workload) (reason : TerminalReason) :
    (workload.forceTerminate reason).2.state = workload.state ∨
      (Endable workload ∧ (workload.forceTerminate reason).2.state = stateForReason reason) := by
  rw [Workload.forceTerminate]
  split
  · exact .inl rfl
  split
  · exact .inl rfl
  rename_i moves
  refine .inr ⟨?_, rfl⟩
  simp only [Bool.and_eq_true, bne_iff_ne, ne_eq, not_and_or, Classical.not_not] at moves
  exact moves

/-- A workload finishes as completed or as crashed. -/
theorem finish_state (workload : Workload) (success : Bool) :
    (workload.finish success).2.state = workload.state ∨
      (workload.finish success).2.state = .completed ∨
      (workload.finish success).2.state = .crashed := by
  rw [Workload.finish]
  split
  · exact .inl rfl
  · cases success with
    | true => exact .inr (.inl rfl)
    | false => exact .inr (.inr rfl)

/-- No reason brings a workload back to the queue. -/
theorem stateForReason_ne_queued (reason : TerminalReason) : stateForReason reason ≠ .queued := by
  cases reason <;> exact WorkloadState.noConfusion

variable {workload : Workload}

/-- A workload that is queued after a forced end was queued before. -/
theorem forceTerminate_queued {reason : TerminalReason}
    (queued : (workload.forceTerminate reason).2.state = .queued) : workload.state = .queued := by
  rcases forceTerminate_state workload reason with same | ⟨-, moved⟩
  · exact same.symm.trans queued
  · exact absurd (moved.symm.trans queued) (stateForReason_ne_queued reason)

/-- A workload that is queued after console output was queued before. -/
theorem appendConsole_queued {consoleType : ConsoleType} {text : CString}
    (queued : (workload.appendConsole consoleType text).2.state = .queued) :
    workload.state = .queued := by
  rcases appendConsole_state workload consoleType text with same | ⟨-, -, moved⟩
  · exact same.symm.trans queued
  · rw [moved] at queued
    cases queued

/-- A workload that is queued after its end was queued before. -/
theorem finish_queued {success : Bool} (queued : (workload.finish success).2.state = .queued) :
    workload.state = .queued := by
  rcases finish_state workload success with same | moved | moved
  · exact same.symm.trans queued
  · rw [moved] at queued
    cases queued
  · rw [moved] at queued
    cases queued

/-- No event takes a workload back to where it has not started. -/
theorem jsEvent_queued {event : ScriptEvent}
    (queued : (workload.jsEvent event.1 event.2).state = .queued) : workload.state = .queued := by
  obtain ⟨kind, message⟩ := event
  cases kind with
  | print => exact appendConsole_queued queued
  | done =>
    simp only [Workload.jsEvent] at queued
    split at queued
    · exact finish_queued queued
    · exact queued
  | error | errorTrace =>
    simp only [Workload.jsEvent] at queued
    split at queued
    · split at queued
      · exact forceTerminate_queued queued
      · exact appendConsole_queued (finish_queued queued)
    · exact queued

/-- To begin an artifact ends the workload only at its limit. -/
theorem artifactBegin_state (workload : Workload) (artifactId path : CString) :
    (workload.artifactBegin artifactId path).2.state = workload.state ∨
      (workload.findArtifact artifactId = none ∧ artifactIdValid artifactId = true ∧
        artifactPathValid path = true ∧
        (decide (workload.artifacts.length ≥ workloadMaxArtifacts) ||
          decide (workload.artifacts.length ≥ workload.limits.artifacts.toNat)) = true ∧
        (workload.artifactBegin artifactId path).2.state = .failed) := by
  rw [Workload.artifactBegin]
  split
  · exact .inl rfl
  rename_i admitted
  simp only [Bool.or_eq_true, bne_iff_ne, ne_eq, Bool.not_eq_true', not_or, Classical.not_not,
    Bool.not_eq_false] at admitted
  obtain ⟨⟨running, named⟩, placed⟩ := admitted
  cases found : workload.findArtifact artifactId with
  | some existing => exact .inl rfl
  | none =>
    simp only
    split
    · rename_i full
      rcases forceTerminate_state workload .artifactLimit with same | ⟨-, moved⟩
      · exact .inl same
      · exact .inr ⟨trivial, named, placed, full, moved⟩
    · exact .inl rfl

variable {request : ArtifactRequest}

/-- The check of a commit is that of its bytes. -/
theorem overBytes_of_commit
    (sized : ¬ (request.size == 0 || decide (request.size > 0xFFFFFFFF)) = true)
    (passed : (decide (request.size.toUInt32 > workload.limits.artifactBytes) ||
      decide (workload.usage.artifactBytes >
        workload.limits.artifactBytes - request.size.toUInt32)) = true) :
    ArtifactRequest.overBytes request workload = true := by
  simp only [Bool.or_eq_true, beq_iff_eq, decide_eq_true_eq, not_or, gt_iff_lt, UInt64.not_lt]
    at sized
  simp only [ArtifactRequest.overBytes, bne_iff_ne.mpr sized.1, sized.2, passed, decide_true,
    Bool.and_true]

/-- To commit an artifact ends the workload only if its bytes do not fit. -/
theorem artifactCommit_state (workload : Workload) (request : ArtifactRequest) :
    (workload.artifactCommit request.artifactId request.size request.sha256
        request.evidenceRequested request.evidenceId request.answers).2.state = workload.state ∨
      (∃ artifact, workload.findArtifact request.artifactId = some artifact ∧
        artifact.state = .isPartial ∧ ArtifactRequest.overBytes request workload = true ∧
        (workload.artifactCommit request.artifactId request.size request.sha256
          request.evidenceRequested request.evidenceId request.answers).2.state = .failed) := by
  rw [Workload.artifactCommit]
  split
  · exact .inl rfl
  rename_i admitted
  rw [Bool.or_assoc, Bool.or_eq_true, not_or] at admitted
  cases found : workload.findArtifact request.artifactId with
  | none => exact .inl rfl
  | some artifact =>
    simp only
    split
    · exact .inl rfl
    rename_i isPartial
    split
    · rename_i full
      rcases forceTerminate_state workload .artifactLimit with same | ⟨-, moved⟩
      · exact .inl same
      · exact .inr ⟨artifact, rfl, by simpa using isPartial, overBytes_of_commit admitted.2 full,
          moved⟩
    split
    · exact .inl rfl
    split
    · exact .inl rfl
    · exact .inl rfl

/-- An artifact that is begun is there already, or its workload has the same limits and has used
as much. -/
theorem artifactBegin_begun {artifactId path : CString}
    (begun : (workload.artifactBegin artifactId path).1 = true) :
    artifactIdValid artifactId = true ∧ artifactPathValid path = true ∧
      ((∃ artifact, workload.findArtifact artifactId = some artifact ∧
          artifact.path = path ∧ (workload.artifactBegin artifactId path).2 = workload) ∨
        (workload.findArtifact artifactId = none ∧
          (workload.artifactBegin artifactId path).2.state = workload.state ∧
          (workload.artifactBegin artifactId path).2.limits = workload.limits ∧
          (workload.artifactBegin artifactId path).2.usage = workload.usage)) := by
  rw [Workload.artifactBegin] at begun ⊢
  split at begun
  · cases begun
  rename_i admitted
  rw [if_neg admitted]
  simp only [Bool.or_eq_true, bne_iff_ne, ne_eq, Bool.not_eq_true', not_or, Classical.not_not,
    Bool.not_eq_false] at admitted
  refine ⟨admitted.1.2, admitted.2, ?_⟩
  cases found : workload.findArtifact artifactId with
  | some existing =>
    simp only [found, beq_iff_eq] at begun
    exact .inl ⟨existing, rfl, begun, rfl⟩
  | none =>
    simp only [found] at begun
    split at begun
    · cases begun
    rename_i room
    simp only [if_neg room]
    exact .inr ⟨trivial, trivial, trivial, trivial⟩

/-- The check depends on the limits and the usage only. -/
theorem overBytes_congr {begun : Workload} (limits : begun.limits = workload.limits)
    (usage : begun.usage = workload.usage) :
    ArtifactRequest.overBytes request begun = ArtifactRequest.overBytes request workload := by
  rw [ArtifactRequest.overBytes, ArtifactRequest.overBytes, limits, usage]

/-- A request for an artifact leaves the state of a workload that has room for it. -/
theorem apply_state (request : ArtifactRequest) (workload : Workload) :
    (ArtifactRequest.apply request workload).state = workload.state ∨
      (workload.state = .running ∧ ArtifactRequest.overLimit request workload = true ∧
        (ArtifactRequest.apply request workload).state = .failed) := by
  rw [ArtifactRequest.apply]
  split
  · exact .inl rfl
  rename_i entered
  simp only [Bool.or_eq_true, bne_iff_ne, ne_eq, Bool.not_eq_true', not_or, Classical.not_not,
    Bool.not_eq_false] at entered
  obtain ⟨running, allowed⟩ := entered
  simp only
  split
  · rcases artifactBegin_state workload request.artifactId request.path with same |
      ⟨found, named, placed, full, moved⟩
    · exact .inl same
    · refine .inr ⟨running, ?_, moved⟩
      simp only [ArtifactRequest.overLimit, allowed, named, placed, found, full, Bool.true_or,
        Bool.and_true]
  rename_i notRefused
  have begun : (workload.artifactBegin request.artifactId request.path).1 = true := by
    simpa using notRefused
  obtain ⟨named, placed, ⟨artifact, found, path, kept⟩ | ⟨found, state, limits, usage⟩⟩ :=
    artifactBegin_begun begun
  · rw [kept]
    rcases artifactCommit_state workload request with same |
      ⟨other, foundOther, isPartial, passed, moved⟩
    · exact .inl same
    · rw [found] at foundOther
      obtain rfl := Option.some.inj foundOther
      refine .inr ⟨running, ?_, moved⟩
      simp only [ArtifactRequest.overLimit, allowed, named, placed, found, path, isPartial, passed,
        beq_self_eq_true, Bool.and_true]
  · rcases artifactCommit_state
      (workload.artifactBegin request.artifactId request.path).2 request with same |
      ⟨other, -, -, passed, moved⟩
    · exact .inl (same.trans state)
    · rw [overBytes_congr limits usage] at passed
      refine .inr ⟨running, ?_, moved⟩
      simp only [ArtifactRequest.overLimit, allowed, named, placed, found, passed, Bool.or_true,
        Bool.and_true]

/-- A workload is created unstarted. -/
theorem init_unstarted (request : CreateRequest) : Unstarted (CreateRequest.workload request) := by
  intro workload made
  rw [CreateRequest.workload] at made
  split at made
  · cases made
  rw [Workload.init] at made
  split at made
  · cases made
  · obtain rfl := Option.some.inj made
    rfl

/-! ## Every step -/

section Steps

variable {managed : ManagedScript}

variable {session : Nat}

/-- Who may enter finds the record unlocked. -/
theorem enters_free (enters : ¬ (!managed.enters session) = true) :
    managed.enters session = true ∧ managed.lockedBy = none := by
  simp only [Bool.not_eq_true', Bool.not_eq_false] at enters
  refine ⟨enters, ?_⟩
  simp only [ManagedScript.enters, Bool.and_eq_true, Option.isNone_iff_eq_none] at enters
  exact enters.2

/-- A change that leaves nothing queued anew leaves unstarted what was so. -/
theorem unstarted_of_map {workload : Option Workload} {change : Workload → Workload}
    (back : ∀ current, (change current).state = .queued → current.state = .queued)
    (unstarted : Unstarted (workload.map change)) : Unstarted workload := by
  intro current stored
  exact back current (unstarted _ (by rw [stored, Option.map_some]))

/-- A change that ends no workload, or one whose script has returned or was told to stop. -/
theorem ends_of_map {workload : Option Workload} {change : Workload → Workload} {told : Prop}
    (ended : ∀ current, workload = some current →
      (change current).state.terminal = true → current.state.terminal = true ∨ told) :
    ∀ changed, workload.map change = some changed → changed.state.terminal = true →
      (∃ former, workload = some former ∧ former.state.terminal = true) ∨ told := by
  intro next changed terminal
  obtain ⟨current, stored, rfl⟩ := Option.map_eq_some_iff.mp changed
  rcases ended current stored terminal with before | told
  · exact .inl ⟨current, stored, before⟩
  · exact .inr told

/-- An unstarted workload has not ended. -/
theorem not_terminal_of_unstarted {workload : Option Workload} (unstarted : Unstarted workload)
    {current : Workload} (stored : workload = some current)
    (terminal : current.state.terminal = true) : False := by
  rw [unstarted current stored] at terminal
  cases terminal

/-- A handler that does not wait in a `CREATE` leaves what is known of those that do. -/
theorem Sound.held_handle (sound : managed.Sound) {handler : ManagedHandler}
    (other : ∀ thread following, handler ≠ .creating thread following) (waiter thread : Nat)
    (following : Option Workload)
    (creating : (managed.handle session handler).handlers waiter = .creating thread following) :
    managed.lockedBy = some waiter ∧ managed.Finished ∧ Unstarted following := by
  simp only [handle] at creating
  split at creating
  · exact absurd creating (other thread following)
  · exact sound.held waiter thread following creating

/-- A step that leaves the workload and goes on in a handler. -/
theorem Sound.handled (sound : managed.Sound) (session : Nat) (handler : ManagedHandler)
    (other : ∀ thread following, handler ≠ .creating thread following) {next : ManagedScript}
    (calmer : Calmer managed.scripts next.scripts) (workload : next.workload = managed.workload)
    (handlers : next.handlers = (managed.handle session handler).handlers)
    (locked : next.lockedBy = managed.lockedBy) : next.Sound := by
  refine sound.calmer calmer (fun unstarted => .inl (workload ▸ unstarted)) ?_ ?_
  · intro current stored terminal
    exact .inl ⟨current, workload ▸ stored, terminal⟩
  · intro waiter thread following creating
    rw [handlers] at creating
    rw [locked]
    exact sound.held_handle other waiter thread following creating

/-- A step that only moves one thread. -/
theorem Sound.moved (sound : managed.Sound) {thread : Nat} {old : ScriptPhase} {told : Bool}
    (stored : managed.scripts[thread]? = some ⟨old, told⟩) {phase : ScriptPhase}
    (unfinished : phase.unfinished = true → old.unfinished = true)
    (active : phase.active = true → old.active = true)
    (printed : ∀ event, phase = .delivering event → event.1 = .print) :
    (managed.script thread phase).Sound :=
  sound.calmer (calmer_script stored unfinished active printed) .inl
    (fun current kept terminal => .inl ⟨current, kept, terminal⟩) sound.held

/-- A creation keeps the record sound. -/
theorem Sound.create (sound : managed.Sound) {request : CreateRequest}
    (allowed : managed.Allowed (.create session request)) :
    (managed.create session request).Sound := by
  rw [ManagedScript.create]
  split
  · exact sound
  rename_i enters
  obtain ⟨enters, free⟩ := enters_free enters
  have fresh := init_unstarted request
  cases present : managed.workload with
  | none =>
    have finished := sound.quiet (by rw [present]; exact fun _ stored => nomatch stored)
    exact sound.calmer (.refl _) (fun _ => .inr finished)
      (fun current stored terminal => (not_terminal_of_unstarted fresh stored terminal).elim)
      sound.held
  | some workload =>
    simp only
    split
    · exact sound
    rename_i replaced
    simp only [Bool.or_eq_true, Bool.not_eq_true', not_or, Bool.not_eq_false] at replaced
    have finished := allowed enters workload present replaced.2
    cases managed.thread with
    | none =>
      exact sound.calmer (.refl _) (fun _ => .inr finished)
        (fun current stored terminal => (not_terminal_of_unstarted fresh stored terminal).elim)
        sound.held
    | some thread =>
      refine sound.calmer (calmer_tell managed.scripts thread) .inl
        (fun current stored terminal => .inl ⟨current, stored, terminal⟩) ?_
      intro waiter waited following creating
      simp only [handle] at creating
      split at creating
      · rename_i same
        cases creating
        exact ⟨congrArg some same.symm, finished, fresh⟩
      · have locked := (sound.held waiter waited following creating).1
        rw [free] at locked
        cases locked

/-- So does the end of the join in a creation. -/
theorem Sound.createJoined (sound : managed.Sound) (session : Nat) :
    (managed.createJoined session).Sound := by
  rw [ManagedScript.createJoined]
  split
  · rename_i thread next waiting
    obtain ⟨locked, finished, fresh⟩ := sound.held session thread next waiting
    split
    · refine sound.calmer (.refl _) (fun _ => .inr finished)
        (fun current stored terminal => (not_terminal_of_unstarted fresh stored terminal).elim) ?_
      intro waiter waited following creating
      simp only [handle, replace] at creating
      split at creating
      · cases creating
      · rename_i other
        have lockedToo := (sound.held waiter waited following creating).1
        rw [locked] at lockedToo
        exact absurd (Option.some.inj lockedToo).symm other
    · exact sound
  · exact sound

/-- A run keeps the record sound, whether its thread is made or not. -/
theorem Sound.run (sound : managed.Sound) (session : Nat) (threadMade : Bool) :
    (managed.run session threadMade).Sound := by
  rw [ManagedScript.run]
  split
  · exact sound
  rename_i enters
  obtain ⟨-, free⟩ := enters_free enters
  cases present : managed.workload with
  | none => exact sound
  | some workload =>
    simp only
    split
    · exact sound
    rename_i starts
    have queued : workload.state = .queued := by
      simp only [Workload.start, Bool.not_eq_true', Bool.not_eq_false] at starts
      split at starts
      · cases starts
      · rename_i isQueued
        simpa using isQueued
    have finished := sound.quiet (by
      intro current stored
      rw [present] at stored
      obtain rfl := Option.some.inj stored
      exact queued)
    have running : workload.start.2.state = .running := by
      rw [Workload.start, if_neg (by simpa using queued)]
    split
    · have last : ∀ (index : Nat) (script : Script),
          (managed.scripts ++ [⟨.running, false⟩])[index]? = some script →
          script.phase.unfinished = true → index = managed.scripts.length := by
        intro index script stored unfinished
        rw [List.getElem?_append] at stored
        split at stored
        · rw [finished index script stored] at unfinished
          cases unfinished
        · have bounded := (List.getElem?_eq_some_iff.mp stored).1
          simp only [List.length_singleton] at bounded
          omega
      refine ⟨?_, ?_, ?_, ?_, ?_⟩
      · intro index script event stored delivering
        dsimp only at stored
        rw [List.getElem?_append] at stored
        split at stored
        · exact sound.printing index script event stored delivering
        · rw [List.getElem?_singleton] at stored
          split at stored
          · obtain rfl := Option.some.inj stored
            cases delivering
          · cases stored
      · intro first second script other stored storedOther unfinished unfinishedOther
        rw [last first script stored unfinished, last second other storedOther unfinishedOther]
      · intro unstarted
        have none := unstarted _ rfl
        rw [running] at none
        cases none
      · intro current stored terminal
        obtain rfl := Option.some.inj stored
        rw [running] at terminal
        cases terminal
      · intro waiter thread following creating
        have locked := (sound.held waiter thread following creating).1
        rw [free] at locked
        cases locked
    · exact sound.calmer (.refl _) (fun _ => .inr finished)
        (fun current stored terminal => .inr finished.allTold) sound.held

/-- A request to finalize an artifact keeps the record sound. -/
theorem Sound.artifact (sound : managed.Sound)
    (allowed : managed.Allowed (.artifact session request)) :
    (managed.artifact session request).Sound := by
  rw [ManagedScript.artifact]
  split
  · exact sound
  rename_i enters
  obtain ⟨enters, -⟩ := enters_free enters
  refine sound.calmer (.refl _) (fun unstarted => .inl (unstarted_of_map ?_ unstarted))
    (ends_of_map ?_) sound.held
  · intro current queued
    rcases apply_state request current with same | ⟨-, -, moved⟩
    · exact same.symm.trans queued
    · rw [moved] at queued
      cases queued
  · intro current stored terminal
    rcases apply_state request current with same | ⟨running, full, -⟩
    · exact .inl (same ▸ terminal)
    · exact .inr (allowed enters current stored running full)

/-- A cancellation keeps the record sound. -/
theorem Sound.cancel (sound : managed.Sound) (session : Nat) : (managed.cancel session).Sound := by
  rw [ManagedScript.cancel]
  split
  · exact sound
  cases present : managed.workload with
  | none => exact sound
  | some workload =>
    simp only
    split
    · exact sound
    rename_i accepted
    simp only [Bool.or_eq_true, Bool.not_eq_true', not_or, Bool.not_eq_false] at accepted
    have cancelling : workload.requestCancel.2.state = .cancelling := by
      have running := accepted.2
      rw [Workload.requestCancel] at running ⊢
      split at running
      · cases running
      · rename_i isRunning
        rw [if_neg isRunning]
    refine sound.calmer (.refl _) (fun unstarted => ?_) (fun current stored terminal => ?_)
      (sound.held_handle fun _ _ => ManagedHandler.noConfusion)
    · have none := unstarted _ rfl
      rw [cancelling] at none
      cases none
    · obtain rfl := Option.some.inj stored
      rw [cancelling] at terminal
      cases terminal

/-- So does its stop of the script. -/
theorem Sound.cancelStop (sound : managed.Sound) (session : Nat) :
    (managed.cancelStop session).Sound := by
  rw [ManagedScript.cancelStop]
  split
  · rename_i thread _ _
    exact sound.handled session _ (fun _ _ => ManagedHandler.noConfusion)
      (calmer_tell managed.scripts thread) rfl rfl rfl
  · exact sound

/-- So does its join with the thread. -/
theorem Sound.cancelJoined (sound : managed.Sound) (session : Nat) :
    (managed.cancelJoined session).Sound := by
  rw [ManagedScript.cancelJoined]
  split
  · split
    · exact sound.handled session .cancelEnding (fun _ _ => ManagedHandler.noConfusion)
        (.refl _) rfl rfl rfl
    · exact sound
  · exact sound

/-- A workload that is ended by force has ended before, or its script has stopped. -/
theorem ends_of_force {workload : Option Workload} {reason : TerminalReason} {told : Prop}
    (stopped : ∀ current, workload = some current → Endable current → told)
    (current : Workload) (stored : workload = some current)
    (terminal : (current.forceTerminate reason).2.state.terminal = true) :
    current.state.terminal = true ∨ told := by
  rcases forceTerminate_state current reason with same | ⟨endable, -⟩
  · exact .inl (same ▸ terminal)
  · exact .inr (stopped current stored endable)

/-- So does its end, which ends the workload. -/
theorem Sound.cancelEnd (sound : managed.Sound) (allowed : managed.Allowed (.cancelEnd session)) :
    (managed.cancelEnd session).Sound := by
  have idle : (managed.handle session .idle).Sound :=
    sound.handled session _ (fun _ _ => ManagedHandler.noConfusion) (.refl _) rfl rfl rfl
  rw [ManagedScript.cancelEnd]
  split
  · rename_i ending
    split
    · simp only
      split
      · rename_i attached
        exact idle.calmer (.refl _)
          (fun unstarted => .inl (unstarted_of_map (fun _ => forceTerminate_queued) unstarted))
          (ends_of_map (ends_of_force (allowed ending attached))) idle.held
      · exact idle
    · exact sound
  · exact sound

/-- A session that closes keeps the record sound. -/
theorem Sound.close (sound : managed.Sound) (allowed : managed.Allowed (.close session)) :
    (managed.close session).Sound := by
  rw [ManagedScript.close]
  split
  · exact sound
  rename_i enters
  obtain ⟨enters, -⟩ := enters_free enters
  exact sound.calmer (.refl _)
    (fun unstarted => .inl (unstarted_of_map (fun _ => forceTerminate_queued) unstarted))
    (ends_of_map (ends_of_force (allowed enters)))
    (sound.held_handle fun _ _ => ManagedHandler.noConfusion)

/-- So does its stop of the script. -/
theorem Sound.closeStop (sound : managed.Sound) (session : Nat) :
    (managed.closeStop session).Sound := by
  rw [ManagedScript.closeStop]
  split
  · split
    · rename_i thread _
      exact sound.handled session _ (fun _ _ => ManagedHandler.noConfusion)
        (calmer_tell managed.scripts thread) rfl rfl rfl
    · exact sound.handled session _ (fun _ _ => ManagedHandler.noConfusion) (.refl _) rfl rfl rfl
  · exact sound

/-- So does its join with the thread. -/
theorem Sound.closeJoined (sound : managed.Sound) (session : Nat) :
    (managed.closeJoined session).Sound := by
  rw [ManagedScript.closeJoined]
  split
  · split
    · exact sound.handled session .closed (fun _ _ => ManagedHandler.noConfusion)
        (.refl _) rfl rfl rfl
    · exact sound
  · exact sound

/-- A script that prints keeps the record sound. -/
theorem Sound.print (sound : managed.Sound) (thread : Nat) (message : CString) :
    (managed.print thread message).Sound := by
  rw [ManagedScript.print]
  split
  · rename_i told stored
    split
    · refine sound.moved stored id id fun event delivering => ?_
      obtain rfl := ScriptPhase.delivering.inj delivering
      rfl
    · exact sound
  · exact sound

/-- A script that returns keeps the record sound. -/
theorem Sound.returns (sound : managed.Sound) (thread : Nat) (events : List ScriptEvent) :
    (managed.returns thread events).Sound := by
  rw [ManagedScript.returns]
  split
  · rename_i told stored
    exact sound.moved stored (fun _ => rfl) nofun nofun
  · exact sound

/-- So does the next of its events. -/
theorem Sound.next (sound : managed.Sound) (thread : Nat) : (managed.next thread).Sound := by
  rw [ManagedScript.next]
  split
  · rename_i event events told stored
    split
    · exact sound.moved stored (fun _ => rfl) nofun nofun
    · exact sound.moved stored (fun _ => rfl) nofun nofun
  · exact sound

/-- A thread that exits keeps the record sound. -/
theorem Sound.exit (sound : managed.Sound) (thread : Nat) : (managed.exit thread).Sound := by
  rw [ManagedScript.exit]
  split
  · rename_i told stored
    exact sound.moved stored nofun nofun nofun
  · exact sound

/-- An event does not touch the scripts. -/
@[simp] theorem event_scripts (managed : ManagedScript) (event : ScriptEvent) :
    (managed.event event).scripts = managed.scripts := by
  rw [ManagedScript.event]
  split
  · rfl
  · rfl

/-- An event does not touch the handlers. -/
@[simp] theorem event_handlers (managed : ManagedScript) (event : ScriptEvent) :
    (managed.event event).handlers = managed.handlers := by
  rw [ManagedScript.event]
  split
  · rfl
  · rfl

/-- An event does not touch the lock. -/
@[simp] theorem event_lockedBy (managed : ManagedScript) (event : ScriptEvent) :
    (managed.event event).lockedBy = managed.lockedBy := by
  rw [ManagedScript.event]
  split
  · rfl
  · rfl

/-- A workload that has started and not ended can be ended. -/
theorem endable_of_lives (started : workload.state ≠ .queued)
    (lives : workload.state.terminal = false) : Endable workload := by
  cases state : workload.state with
  | queued => exact absurd state started
  | running => exact .inl state
  | cancelling => exact .inr state
  | completed | failed | cancelled | timedOut | crashed | disconnected =>
    rw [state] at lives
    cases lives

theorem Sound.delivered (sound : managed.Sound) {old : ScriptPhase} {told : Bool}
    {event : ScriptEvent} (stored : managed.scripts[thread]? = some ⟨old, told⟩)
    (unfinished : phase.unfinished = true → old.unfinished = true)
    (active : phase.active = true → old.active = true)
    (printed : ∀ following, phase = .delivering following → following.1 = .print)
    (ends : managed.attached = true → ∀ current, managed.workload = some current →
      (current.jsEvent event.1 event.2).state.terminal = true →
      current.state.terminal = true ∨ managed.AllTold) :
    ((managed.event event).script thread phase).Sound := by
  have calmer : Calmer managed.scripts ((managed.event event).script thread phase).scripts := by
    rw [ManagedScript.script, event_scripts]
    exact calmer_script stored unfinished active printed
  have held : ∀ session waited following,
      ((managed.event event).script thread phase).handlers session = .creating waited following →
      ((managed.event event).script thread phase).lockedBy = some session ∧ managed.Finished ∧
        Unstarted following := by
    intro session waited following creating
    simp only [ManagedScript.script, event_handlers] at creating
    simp only [ManagedScript.script, event_lockedBy]
    exact sound.held session waited following creating
  by_cases attached : managed.attached = true
  · have changed : ((managed.event event).script thread phase).workload =
        managed.workload.map fun workload => workload.jsEvent event.1 event.2 := by
      rw [ManagedScript.script, ManagedScript.event, if_pos attached]
    refine sound.calmer calmer (fun unstarted => ?_) ?_ held
    · rw [changed] at unstarted
      exact .inl (unstarted_of_map (fun _ => jsEvent_queued) unstarted)
    · rw [changed]
      refine ends_of_map fun current present terminal => ?_
      rcases ends attached current present terminal with before | told
      · exact .inl before
      · exact .inr (calmer.allTold told)
  · have kept : ((managed.event event).script thread phase).workload = managed.workload := by
      rw [ManagedScript.script, ManagedScript.event, if_neg attached]
    refine sound.calmer calmer (fun unstarted => .inl (kept ▸ unstarted)) ?_ held
    rw [kept]
    exact fun current present terminal => .inl ⟨current, present, terminal⟩

/-- The delivery of an event keeps the record sound. -/
theorem Sound.deliver (sound : managed.Sound) (allowed : managed.Allowed (.deliver thread)) :
    (managed.deliver thread).Sound := by
  rw [ManagedScript.deliver]
  split
  · exact sound
  split
  · rename_i event told stored
    refine sound.delivered stored (fun _ => rfl) (fun _ => rfl) nofun
      fun attached current present terminal => ?_
    have isPrint := sound.printing thread _ event stored rfl
    rw [isPrint] at terminal
    rcases appendConsole_state current .stdout (event.2.getD (.literal "")) with same |
      ⟨lives, full, -⟩
    · exact .inl (same ▸ terminal)
    cases told with
    | true => exact .inr (sound.allTold_of_thread stored rfl fun _ => rfl)
    | false =>
      -- The thread has another event, so its workload has started.
      have started : current.state ≠ .queued := by
        intro queued
        have none := sound.quiet (fun other storedOther => by
          rw [present] at storedOther
          obtain rfl := Option.some.inj storedOther
          exact queued) thread _ stored
        cases none
      rw [allowed event stored attached current present (endable_of_lives started lives)] at full
      cases full
  · rename_i event events told stored
    exact sound.delivered stored (fun _ => rfl) nofun nofun fun _ _ _ _ =>
      .inr (sound.allTold_of_thread stored rfl nofun)
  · exact sound

/-- Every step that is allowed keeps the record sound. -/
theorem Sound.step (sound : managed.Sound) {event : ManagedEvent}
    (allowed : managed.Allowed event) : (ManagedScript.step event managed).Sound := by
  cases event with
  | create session request => exact sound.create allowed
  | createJoined session => exact sound.createJoined session
  | run session threadMade => exact sound.run session threadMade
  | artifact session request => exact sound.artifact allowed
  | cancel session => exact sound.cancel session
  | cancelStop session => exact sound.cancelStop session
  | cancelJoined session => exact sound.cancelJoined session
  | cancelEnd session => exact sound.cancelEnd allowed
  | close session => exact sound.close allowed
  | closeStop session => exact sound.closeStop session
  | closeJoined session => exact sound.closeJoined session
  | print thread message => exact sound.print thread message
  | returns thread events => exact sound.returns thread events
  | next thread => exact sound.next thread
  | deliver thread => exact sound.deliver allowed
  | exit thread => exact sound.exit thread

end Steps

/-! ## Runs -/

/-- The record after the first events. -/
def reached (events : List ManagedEvent) (index : Nat) : ManagedScript :=
  Runs.reached ManagedScript.step start events index

/-- No event of the run ends a workload whose script runs on, or waits in vain. -/
def Orderly (events : List ManagedEvent) : Prop :=
  ∀ (index : Nat) (event : ManagedEvent), events[index]? = some event →
    (reached events index).Allowed event

/-- All along an orderly run the record is sound. -/
theorem reached_sound {events : List ManagedEvent} (orderly : Orderly events) (index : Nat) :
    (reached events index).Sound :=
  Runs.always (motive := Sound) start_sound
    (fun index event taken sound => sound.step (orderly index event taken)) index

/-- All along such a run a workload that has ended has a script that has returned or was told to
stop, and no handler waits for a thread that waits for it. -/
theorem terminal_means_stopped (events : List ManagedEvent) (orderly : Orderly events)
    (index : Nat) : (reached events index).Stopped ∧ (reached events index).Unblocked :=
  ⟨(reached_sound orderly index).stopped, (reached_sound orderly index).unblocked⟩

def sampleRequest : CreateRequest where
  workloadId := .literal "w"
  projectDigest := Workload.sampleWorkload.projectDigest
  capabilitiesDigest := Workload.sampleWorkload.capabilitiesDigest
  limits := Workload.oneArtifact
  sameRuntime := true
  verified := true

/-- A script that returns without an error. -/
def finishing : List ManagedEvent :=
  [.create 0 sampleRequest, .run 0 true, .returns 0 [(.done, none)], .next 0, .deliver 0, .exit 0]

/-- The workload is completed, and its script has exited. -/
theorem finishing_stops :
    (reached finishing 6).Stopped ∧ (reached finishing 6).Unblocked := by
  refine terminal_means_stopped finishing (fun index event taken => ?_) 6
  match index, taken with
  | 0, taken =>
    obtain rfl := Option.some.inj taken
    exact fun _ _ stored => nomatch stored
  | 1, taken | 2, taken | 3, taken | 5, taken =>
    obtain rfl := Option.some.inj taken
    trivial
  | 4, taken =>
    obtain rfl := Option.some.inj taken
    intro event stored
    have phase : (reached finishing 4).scripts[0]? =
        some ⟨.deliveringLast (.done, none) [], false⟩ := by
      decide +kernel
    rw [phase] at stored
    cases stored

/-- A script that prints until its console is full. -/
def overflowing : List ManagedEvent :=
  [.create 0 sampleRequest, .run 0 true] ++
    (List.replicate 32 [ManagedEvent.print 0 (.literal ""), .deliver 0]).flatten

/-- An error ends the workload, and a `CREATE` comes before the trace of the error. -/
def overtaking : List ManagedEvent :=
  [.create 0 sampleRequest, .run 0 true,
    .returns 0 [(.error, some (.literal "error")), (.errorTrace, some (.literal "trace"))],
    .next 0, .deliver 0, .create 1 sampleRequest, .next 0]

/-- The console that is full ends the workload, and its script was not told. The `CREATE` waits
for the thread, and the thread for the mutex. -/
theorem full_console_and_create :
    (¬ ∀ events index, (reached events index).Stopped) ∧
      ¬ ∀ events index, (reached events index).Unblocked := by
  constructor
  · intro always
    have ended : ((reached overflowing 66).workload.map fun workload => workload.state) =
        some .failed := by
      decide +kernel
    have untold : (reached overflowing 66).scripts[0]? = some ⟨.running, false⟩ := by
      decide +kernel
    obtain ⟨workload, present, failed⟩ := Option.map_eq_some_iff.mp ended
    have told := always overflowing 66 workload present (by rw [failed]; rfl) 0 _ untold rfl
    cases told
  · intro always
    have waits : (reached overtaking 7).scripts[0]? =
        some ⟨.deliveringLast (.errorTrace, some (.literal "trace")) [], true⟩ := by
      decide +kernel
    have locked : (reached overtaking 7).lockedBy = some 1 := by
      decide +kernel
    have creating : (reached overtaking 7).handlers 1 =
        .creating 0 (CreateRequest.workload sampleRequest) := by
      decide +kernel
    have free := always overtaking 7 1 0 _ _ creating locked waits
    cases free

end ManagedScript

end PoisonedOS
