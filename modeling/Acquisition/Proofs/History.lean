import Acquisition.Proofs.Calm
import Acquisition.Proofs.Handles
import Acquisition.Proofs.ScanLaw

/-!
# What befalls a handle

A handle is handed out when a device is opened; scans are started and stopped on the device,
it is disconnected, and the handle is given back.  The history of a run lists these milestones
in order (`Bench.history`).

`HandleLaw` says what a history looks like and what the bench after the run owes to it.  Main
statement: `Bench.handleLaw_run`.
-/

namespace Acquisition

/-- Something that befalls a handle when a request is served. -/
inductive Milestone where
  | opened (handle : Handle)
  | started (handle : Handle) (target : ScanTarget)
  /-- A stop that found the scan running. -/
  | stopped (handle : Handle) (target : ScanTarget)
  /-- A disconnect, with whether a scan was running. -/
  | disconnected (handle : Handle) (wasBusy : Bool)
  | released (handle : Handle)
  deriving DecidableEq, Repr

namespace Milestone

/-- The handle that something befalls. -/
def handle : Milestone → Handle
  | opened handle | started handle _ | stopped handle _ | disconnected handle _
  | released handle => handle

/-- The handle that is handed out. -/
def opened? : Milestone → Option Handle
  | opened handle => some handle
  | _ => none

/-- The entry in the log of the driver. -/
def logged? : Milestone → Option (Handle × LifecycleCall)
  | stopped handle target => some (handle, .scanStop target)
  | disconnected handle wasBusy => some (handle, .disconnect wasBusy)
  | released handle => some (handle, .release)
  | _ => none

/-- Whether a scan is started or stopped on a target of the device behind a handle. -/
def concerns (handle : Handle) (target : ScanTarget) (milestone : Milestone) : Bool :=
  milestone = started handle target || milestone = stopped handle target

theorem opened?_eq_some_iff {milestone : Milestone} {handle : Handle} :
    milestone.opened? = some handle ↔ milestone = opened handle := by
  cases milestone <;> simp [opened?]

theorem handle_of_logged? {milestone : Milestone} {handle : Handle} {call : LifecycleCall}
    (logged : milestone.logged? = some (handle, call)) :
    milestone.handle = handle ∧ milestone.opened? = none := by
  cases milestone with
  | opened | started => contradiction
  | stopped | disconnected | released =>
      rcases logged with ⟨rfl, rfl⟩
      exact ⟨rfl, rfl⟩

theorem logged?_eq_release_iff {milestone : Milestone} {handle : Handle} :
    milestone.logged? = some (handle, .release) ↔ milestone = released handle := by
  cases milestone <;> simp [logged?]

end Milestone

/-! ## Histories -/

/-- What befalls a handle when a request is served with an answer. -/
def Request.milestone? {α : Type} (bench : Bench) : Request α → α → Option Milestone
  | .create _, handle => some (.opened handle)
  | .stopScan handle target, _ =>
      if bench.isRunning handle target then some (.stopped handle target) else none
  | .disconnect handle, _ =>
      (bench.driver.instruments.get? handle).map fun device => .disconnected handle device.isBusy
  | .release handle, _ => some (.released handle)
  | request, _ => request.start?.map fun (handle, scan) => .started handle scan.target

namespace Bench

/-- What befalls a handle with a command. -/
def milestone? (bench : Bench) : Command → Option Milestone
  | .request request =>
      match request.serve bench with
      | .ok outcome => request.milestone? bench outcome.answer
      | .error _ => none
  | _ => none

/-- What befalls the handles along some commands. -/
def history (bench : Bench) : List Command → List Milestone
  | [] => []
  | command :: rest => (bench.milestone? command).toList ++ (bench.step command).1.history rest

end Bench

/-! ## What one request tells -/

section Request

variable {α : Type} {request : Request α} {bench : Bench} {answer : α} {outcome : Outcome α}
  {handle : Handle} {target : ScanTarget} {milestone : Milestone}

theorem Request.milestone?_of_start? {scan : ScanStart}
    (starts : request.start? = some (handle, scan)) :
    request.milestone? bench answer = some (.started handle scan.target) := by
  cases request with
  | scanAnalogIn | scanAnalogOut | scanDigitalIn | scanDigitalOut | scanCounters
  | scanSyncIn | scanSyncOut =>
      rcases starts with ⟨rfl, rfl⟩
      rfl
  | _ => contradiction

/-- Whatever befalls a handle but its being handed out, the request names the handle. -/
theorem Request.handle?_of_milestone?
    (told : request.milestone? bench answer = some milestone) (known : milestone.opened? = none) :
    request.handle? = some milestone.handle := by
  cases request with
  | create =>
      obtain rfl := Option.some.inj told
      contradiction
  | release =>
      obtain rfl := Option.some.inj told
      rfl
  | stopScan =>
      obtain ⟨_, same⟩ := Option.ite_none_right_eq_some.mp told
      obtain rfl := Option.some.inj same
      rfl
  | disconnect =>
      obtain ⟨_, _, rfl⟩ := Option.map_eq_some_iff.mp told
      rfl
  | scanAnalogIn | scanAnalogOut | scanDigitalIn | scanDigitalOut | scanCounters
  | scanSyncIn | scanSyncOut =>
      obtain rfl := Option.some.inj told
      rfl
  | _ => simp [Request.milestone?, Request.start?] at told

/-- Only opening a device hands out a handle. -/
theorem Request.create_of_opened
    (told : request.milestone? bench answer = some (.opened handle)) :
    ∃ descriptor, Command.request request = .request (.create descriptor) := by
  cases request with
  | create descriptor => exact ⟨descriptor, rfl⟩
  | stopScan | disconnect => simp [Request.milestone?] at told
  | _ => simp [Request.milestone?, Request.start?] at told

/-- Only a stop that finds the scan running stops it. -/
theorem Request.stopScan_of_stopped
    (told : request.milestone? bench answer = some (.stopped handle target)) :
    bench.isRunning handle target = true ∧
      Command.request request = .request (.stopScan handle target) := by
  cases request with
  | stopScan other aimed =>
      rw [Request.milestone?, Option.ite_none_right_eq_some, Option.some.injEq] at told
      rcases told with ⟨running, same⟩
      rcases same with ⟨rfl, rfl⟩
      exact ⟨running, rfl⟩
  | disconnect => simp [Request.milestone?] at told
  | _ => simp [Request.milestone?, Request.start?] at told

namespace Bench

/-- What a request that is served adds to the log is what it tells. -/
theorem lifecycle_of_serve (served : request.serve bench = .ok outcome) :
    outcome.bench.driver.lifecycle = bench.driver.lifecycle ++
      ((request.milestone? bench outcome.answer).bind Milestone.logged?).toList := by
  cases request with
  | release handle =>
      simp only [Request.serve, change_eq_ok_iff, Driver.release, bind_eq_ok_iff,
        pure_eq_ok_iff] at served
      rcases served with ⟨_, ⟨_, _, rfl⟩, rfl⟩
      rfl
  | disconnect handle =>
      simp only [Request.serve, change_eq_ok_iff, Driver.disconnect, bind_eq_ok_iff,
        pure_eq_ok_iff, Driver.instrument_eq_ok_iff] at served
      rcases served with ⟨_, ⟨device, found, rfl⟩, rfl⟩
      simp only [Request.milestone?, found]
      rfl
  | stopScan handle target =>
      simp only [Request.serve, change_eq_ok_iff, Driver.stopScan, bind_eq_ok_iff,
        pure_eq_ok_iff, Driver.instrument_eq_ok_iff] at served
      rcases served with ⟨_, ⟨device, found, rfl⟩, rfl⟩
      rw [Request.milestone?, isRunning_of_found found]
      -- The stop is told of, and logged, when it found the scan running.
      split
      · rfl
      · exact (List.append_nil _).symm
  | inventory =>
      obtain rfl := Except.ok.inj served
      exact (List.append_nil _).symm
  | create descriptor =>
      simp only [Request.serve, bind_eq_ok_iff, pure_eq_ok_iff] at served
      rcases served with ⟨⟨handle, driver⟩, created, rfl⟩
      unfold Driver.create at created
      split at created
      · obtain ⟨rfl, rfl⟩ := Prod.mk.inj (Except.ok.inj created)
        exact (List.append_nil _).symm
      · contradiction
  | setLibrarySetting item index value =>
      simp only [Request.serve, change_eq_ok_iff] at served
      rcases served with ⟨driver, accepted, rfl⟩
      unfold Driver.setLibrarySetting at accepted
      split at accepted
      · contradiction
      · split at accepted
        · obtain rfl := Except.ok.inj accepted
          exact (List.append_nil _).symm
        · contradiction
  | libraryText | librarySetting =>
      simp only [Request.serve, bind_eq_ok_iff, pure_eq_ok_iff] at served
      rcases served with ⟨_, _, rfl⟩
      exact (List.append_nil _).symm
  | waitScan =>
      simp only [Request.serve, bind_eq_ok_iff, pure_eq_ok_iff] at served
      rcases served with ⟨_, _, _, _, rfl⟩
      exact (List.append_nil _).symm
  | descriptor | isConnected | integerItem | realItem | scanStatus | memoryArea =>
      rcases ask_eq_ok_iff.mp served with ⟨_, _, _, _, rfl⟩
      exact (List.append_nil _).symm
  | versionText | setting | realSetting | textSetting | portSetting | readAnalog | readPort
  | readBit | readCounter | readRegister | timerStatus | readMemory =>
      rcases askConnected_eq_ok_iff.mp served with ⟨_, _, _, _, _, rfl⟩
      exact (List.append_nil _).symm
  | connect | enableEvents | disableEvents =>
      rcases adjust_eq_ok_iff.mp served with ⟨_, _, _, _, rfl⟩
      exact (List.append_nil _).symm
  | flashLed | setSetting | setRealSetting | loadQueue | writeAnalog | configurePort
  | configureBit | writePort | writeBit | loadRegister | clearCounter | setupCounter
  | stopTimer | setTrigger | setSyncInTrigger | setSyncOutTrigger | writeMemory =>
      rcases adjustConnected_eq_ok_iff.mp served with ⟨_, _, _, _, _, rfl⟩
      exact (List.append_nil _).symm
  | scanAnalogIn | scanAnalogOut | scanDigitalIn | scanDigitalOut | scanCounters | startTimer
  | scanSyncIn | scanSyncOut =>
      rcases exchange_eq_ok_iff.mp served with ⟨_, _, _, _, _, _, rfl⟩
      exact (List.append_nil _).symm

end Bench

end Request

/-! ## What one command tells -/

namespace Bench

variable {bench : Bench} {command : Command} {handle : Handle} {target : ScanTarget}
  {milestone : Milestone}

/-- Only requests that are served tell anything. -/
theorem milestone?_eq_some_iff :
    bench.milestone? command = some milestone ↔
      ∃ (α : Type) (request : Request α) (outcome : Outcome α), command = .request request ∧
        request.serve bench = .ok outcome ∧
        request.milestone? bench outcome.answer = some milestone := by
  constructor
  · intro told
    cases command with
    | stimulus | edit => contradiction
    | @request α request =>
        cases served : request.serve bench with
        | error error => simp [milestone?, served] at told
        | ok outcome =>
            simp only [milestone?, served] at told
            exact ⟨α, request, outcome, rfl, served, told⟩
  · rintro ⟨α, request, outcome, rfl, served, told⟩
    simp only [milestone?, served, told]

/-- What a stimulus does is not logged. -/
theorem lifecycle_of_apply {α : Type} {stimulus : Stimulus α} {outcome : Outcome α}
    (applied : stimulus.apply bench = .ok outcome) :
    outcome.bench.driver.lifecycle = bench.driver.lifecycle := by
  cases stimulus with
  | attach =>
      obtain rfl := Except.ok.inj applied
      rfl
  | advance | abort =>
      simp only [Stimulus.apply, bind_eq_ok_iff, pure_eq_ok_iff] at applied
      rcases applied with ⟨_, _, rfl⟩
      rfl
  | setInput | setLevels | presetCounter | unplug =>
      rcases adjust_eq_ok_iff.mp applied with ⟨_, _, _, _, rfl⟩
      rfl

/-- What a command adds to the log is what it tells. -/
theorem lifecycle_step (bench : Bench) (command : Command) :
    (bench.step command).1.driver.lifecycle = bench.driver.lifecycle ++
      ((bench.milestone? command).bind Milestone.logged?).toList := by
  cases command with
  | edit edit => exact (List.append_nil _).symm
  | stimulus stimulus =>
      cases applied : stimulus.apply bench with
      | error error =>
          simp only [step, settled, applied]
          exact (List.append_nil _).symm
      | ok outcome =>
          simp only [step, settled, applied, lifecycle_of_apply applied]
          exact (List.append_nil _).symm
  | request request =>
      cases served : request.serve bench with
      | error error =>
          simp only [step, settled, milestone?, served]
          exact (List.append_nil _).symm
      | ok outcome =>
          simp only [step, settled, milestone?, served]
          exact lifecycle_of_serve served

/-- A device is behind every handle that something befalls, but for one being handed out. -/
theorem found_of_told (told : bench.milestone? command = some milestone)
    (known : milestone.opened? = none) :
    ∃ device, bench.driver.instruments.get? milestone.handle = some device := by
  obtain ⟨α, request, outcome, rfl, served, told⟩ := milestone?_eq_some_iff.mp told
  have names := Request.handle?_of_milestone? told known
  cases found : bench.driver.instruments.get? milestone.handle with
  | some device => exact ⟨device, rfl⟩
  | none =>
      rw [serve_of_absent found names] at served
      contradiction

/-- What a command does to the handles that are handed out. -/
inductive Issue (bench : Bench) (command : Command) : Prop
  | opened
      (told : bench.milestone? command = some (.opened bench.driver.nextHandle))
      (counted : (bench.step command).1.driver.nextHandle = bench.driver.nextHandle + 1)
  | kept
      (told : ∀ handle, bench.milestone? command ≠ some (.opened handle))
      (same : (bench.step command).1.driver.nextHandle = bench.driver.nextHandle)

theorem issue_of_step (bench : Bench) (command : Command) : bench.Issue command := by
  by_cases opens : ∃ descriptor, command = .request (.create descriptor)
  · rcases opens with ⟨descriptor, rfl⟩
    rcases bench.step_create descriptor with ⟨known, profile, attached, opened⟩ | ⟨missing, same⟩
    · apply Issue.opened
      · simp only [milestone?, Request.serve, Driver.create, attached]
        rfl
      · rw [opened]
        rfl
    · apply Issue.kept
      · simp only [milestone?, Request.serve, Driver.create, missing]
        intro handle told
        cases told
      · rw [same]
  · apply Issue.kept
    · intro handle told
      obtain ⟨α, request, outcome, rfl, _, told⟩ := milestone?_eq_some_iff.mp told
      exact opens (Request.create_of_opened told)
    · exact nextHandle_step fun descriptor same => opens ⟨descriptor, same⟩

/-! ## Scans that run -/

theorem isRunning_iff_running? :
    bench.isRunning handle target = true ↔ ∃ run, bench.running? handle target = some run := by
  simp only [isRunning_iff, scan?, running?, Option.bind_eq_some_iff,
    Instrument.running?_eq_some_iff]
  constructor
  · rintro ⟨run, ⟨device, found, recorded⟩, active⟩
    exact ⟨run, device, found, recorded, active⟩
  · rintro ⟨run, device, found, recorded, active⟩
    exact ⟨run, ⟨device, found, recorded⟩, active⟩

/-- A stop that is told of leaves the scan idle. -/
theorem idle_of_stopped (told : bench.milestone? command = some (.stopped handle target)) :
    bench.isRunning handle target = true ∧
      (bench.step command).1.isRunning handle target = false := by
  obtain ⟨α, request, outcome, rfl, served, told⟩ := milestone?_eq_some_iff.mp told
  obtain ⟨running, same⟩ := Request.stopScan_of_stopped told
  obtain ⟨device, found⟩ : ∃ device, bench.driver.instruments.get? handle = some device := by
    obtain ⟨run, recorded, _⟩ := isRunning_iff.mp running
    obtain ⟨device, found, _⟩ := scan?_eq_some_iff.mp recorded
    exact ⟨device, found⟩
  have asks : (Command.request (.stopScan handle target)).action? = some (handle, .halt target) :=
    rfl
  have halted := (step_acted asks found rfl).1
  rw [same, isRunning_of_found halted.get?_self, Instrument.isRunning,
    Instrument.running?_of_scans_halt ((Instrument.get?_haltScan device target target).trans
      (if_pos rfl))]
  exact ⟨running, rfl⟩

/-- A scan that is running after a command has been started by it, or was running before and
has not been stopped. -/
theorem told_of_running (running : (bench.step command).1.isRunning handle target = true) :
    bench.milestone? command = some (.started handle target) ∨
      bench.isRunning handle target = true ∧
        bench.milestone? command ≠ some (.stopped handle target) := by
  by_cases accepts : bench.Accepts handle target command
  · obtain ⟨α, request, scan, outcome, rfl, starts, rfl, served⟩ := accepts
    exact .inl (milestone?_eq_some_iff.mpr
      ⟨α, request, outcome, rfl, served, Request.milestone?_of_start? starts⟩)
  · have untaken : ∀ scan, bench.taken? handle command = some (.start scan) →
        scan.target ≠ target :=
      fun scan taken aimed => accepts (accepts_iff.mpr ⟨scan, taken, aimed⟩)
    obtain ⟨run, ran⟩ := isRunning_iff_running?.mp running
    obtain ⟨earlier, before, _⟩ := running?_of_step untaken ran
    refine .inr ⟨isRunning_iff_running?.mpr ⟨earlier, before⟩, fun stopped => ?_⟩
    rw [(idle_of_stopped stopped).2] at running
    contradiction

/-! ## The law -/

/-- What has become of the handles of a bench along its history. -/
structure HandleLaw (bench : Bench) (history : List Milestone) : Prop where
  /-- No handle is handed out twice: each is greater than those before it. -/
  ascends : (history.filterMap Milestone.opened?).Pairwise (· < ·)
  /-- The log of the driver has the stops, disconnects and releases of the history. -/
  logs : bench.driver.lifecycle = history.filterMap Milestone.logged?
  /-- The handles that count as released are those handed out and given back since. -/
  releases : ∀ handle, bench.driver.isReleased handle = true ↔
    [.opened handle, .released handle].Sublist history
  /-- Nothing can be done with a handle that has been given back. -/
  dies : ∀ handle, .released handle ∈ history → bench.IsDead handle
  /-- Nothing follows the release of a handle in its log. -/
  ends : ∀ handle earlier later,
    bench.driver.callsOn handle = earlier ++ .release :: later → later = []
  /-- What comes before a stop, of the starts and stops of a scan, is a start of its own. -/
  stops : ∀ handle target earlier later,
    history.filter (Milestone.concerns handle target) =
      earlier ++ .stopped handle target :: later →
    ∃ first, earlier = first ++ [.started handle target]

/-- The history also tells which handles were handed out and which scans are running. -/
structure Chronicle (bench : Bench) (history : List Milestone) : Prop
    extends HandleLaw bench history where
  reachable : bench.Reachable
  issued : ∀ handle, .opened handle ∈ history ↔ 0 < handle ∧ handle < bench.driver.nextHandle
  runs : ∀ handle target, bench.isRunning handle target = true →
    ∃ first, history.filter (Milestone.concerns handle target) =
      first ++ [.started handle target]

/-! ## One more milestone -/

/-- Where an entry of a list is when one is added at the end. -/
theorem eq_or_earlier_of_concat {α : Type} {whole earlier later : List α} {last item : α}
    (split : whole ++ [last] = earlier ++ item :: later) :
    (whole = earlier ∧ last = item ∧ later = []) ∨
      ∃ middle, whole = earlier ++ item :: middle := by
  rcases List.eq_nil_or_concat later with rfl | ⟨middle, final, rfl⟩
  · obtain ⟨rfl, same⟩ := List.append_inj' split rfl
    exact .inl ⟨rfl, List.head_eq_of_cons_eq same, rfl⟩
  · rw [List.concat_eq_append, ← List.cons_append, ← List.append_assoc] at split
    exact .inr ⟨middle, (List.append_inj' split rfl).1⟩

theorem filterMap_toList {α β : Type} (told : Option α) (select : α → Option β) :
    told.toList.filterMap select = (told.bind select).toList := by
  cases told with
  | none => rfl
  | some milestone =>
      rw [Option.toList_some, Option.bind_some, List.filterMap_cons, List.filterMap_nil]
      cases select milestone <;> rfl

theorem Reachable.release_mem_callsOn_iff (reachable : bench.Reachable) :
    .release ∈ bench.driver.callsOn handle ↔ bench.driver.isReleased handle = true := by
  rw [← List.count_pos_iff, ← countReleases, reachable.releaseLogged handle]
  cases bench.driver.isReleased handle <;> simp

/-- A handle counts as released when the history has its release. -/
theorem Reachable.released_mem_iff (reachable : bench.Reachable) {history : List Milestone}
    (logs : bench.driver.lifecycle = history.filterMap Milestone.logged?) :
    .released handle ∈ history ↔ bench.driver.isReleased handle = true := by
  rw [← reachable.release_mem_callsOn_iff, Driver.callsOn, logs]
  simp [Milestone.logged?_eq_release_iff]

theorem absent_of_isReleased (released : bench.driver.isReleased handle = true) :
    bench.driver.instruments.get? handle = none := by
  simp only [Driver.isReleased, Table.contains, Bool.and_eq_true] at released
  simpa using released.2

namespace Chronicle

variable {history : List Milestone} (chronicle : bench.Chronicle history)

include chronicle

theorem issued_step (command : Command) (handle : Handle) :
    .opened handle ∈ history ++ (bench.milestone? command).toList ↔
      0 < handle ∧ handle < (bench.step command).1.driver.nextHandle := by
  have positive := chronicle.reachable.positive.1
  rw [List.mem_append, Option.mem_toList, chronicle.issued]
  cases bench.issue_of_step command with
  | opened told counted =>
      have next : bench.driver.nextHandle = handle ↔
          0 < handle ∧ handle = bench.driver.nextHandle :=
        ⟨fun same => ⟨same ▸ positive, same.symm⟩, fun same => same.2.symm⟩
      rw [told, counted, Option.some.injEq, Milestone.opened.injEq, Int.lt_add_one_iff,
        Int.le_iff_lt_or_eq, and_or_left, next]
  | kept told same => rw [same, or_iff_left (told handle)]

theorem ascends_step (command : Command) :
    ((history ++ (bench.milestone? command).toList).filterMap Milestone.opened?).Pairwise
      (· < ·) := by
  rw [List.filterMap_append, filterMap_toList]
  cases bench.issue_of_step command with
  | opened told =>
      rw [told]
      apply List.pairwise_append.mpr
      refine ⟨chronicle.ascends, List.pairwise_singleton _ _, ?_⟩
      intro earlier member last same
      obtain rfl := List.mem_singleton.mp same
      obtain ⟨milestone, there, opened⟩ := List.mem_filterMap.mp member
      rw [Milestone.opened?_eq_some_iff.mp opened] at there
      exact ((chronicle.issued earlier).mp there).2
  | kept told =>
      have none : (bench.milestone? command).bind Milestone.opened? = none := by
        apply Option.eq_none_iff_forall_ne_some.mpr
        intro handle opened
        obtain ⟨milestone, same, opened⟩ := Option.bind_eq_some_iff.mp opened
        exact told handle (Milestone.opened?_eq_some_iff.mp opened ▸ same)
      rw [none, Option.toList_none, List.append_nil]
      exact chronicle.ascends

theorem logs_step (command : Command) :
    (bench.step command).1.driver.lifecycle =
      (history ++ (bench.milestone? command).toList).filterMap Milestone.logged? := by
  rw [lifecycle_step, chronicle.logs, List.filterMap_append, filterMap_toList]

theorem releases_step (command : Command) (handle : Handle) :
    (bench.step command).1.driver.isReleased handle = true ↔
      [.opened handle, .released handle].Sublist
        (history ++ (bench.milestone? command).toList) := by
  rw [← (chronicle.reachable.step command).released_mem_iff (chronicle.logs_step command)]
  constructor
  · intro released
    rcases List.mem_append.mp released with before | told
    · have known := (chronicle.reachable.released_mem_iff chronicle.logs).mp before
      exact ((chronicle.releases handle).mp known).trans (List.sublist_append_left _ _)
    · -- The handle is given back just now, so it was handed out before.
      have told := Option.mem_toList.mp told
      obtain ⟨device, found⟩ := found_of_told told rfl
      have opened := (chronicle.issued handle).mpr
        ⟨chronicle.reachable.positive.2 found, chronicle.reachable.issued found⟩
      rw [told]
      exact (List.singleton_sublist.mpr opened).append (List.Sublist.refl [Milestone.released handle])
  · exact fun listed => listed.subset (by simp)

theorem ends_step (command : Command) (handle : Handle) (earlier later : List LifecycleCall)
    (split : (bench.step command).1.driver.callsOn handle = earlier ++ .release :: later) :
    later = [] := by
  rw [Driver.callsOn, lifecycle_step, List.filter_append, List.map_append, ← Driver.callsOn]
    at split
  cases logged : (bench.milestone? command).bind Milestone.logged? with
  | none =>
      rw [logged, Option.toList_none, List.filter_nil, List.map_nil, List.append_nil] at split
      exact chronicle.ends handle earlier later split
  | some entry =>
      obtain ⟨milestone, told, logs⟩ := Option.bind_eq_some_iff.mp logged
      obtain ⟨other, call⟩ := entry
      by_cases same : other = handle
      · subst same
        rw [logged, Option.toList_some, List.filter_cons_of_pos (by simp)] at split
        rcases eq_or_earlier_of_concat split with ⟨_, _, last⟩ | ⟨middle, before⟩
        · exact last
        · -- The call is made on a device that the release would have dropped.
          obtain ⟨rfl, known⟩ := Milestone.handle_of_logged? logs
          obtain ⟨device, found⟩ := found_of_told told known
          have released := chronicle.reachable.release_mem_callsOn_iff.mp
            (before ▸ List.mem_append_right earlier List.mem_cons_self)
          rw [absent_of_isReleased released] at found
          contradiction
      · rw [logged, Option.toList_some, List.filter_cons_of_neg (by simpa using same),
          List.filter_nil, List.map_nil, List.append_nil] at split
        exact chronicle.ends handle earlier later split

theorem stops_step (command : Command) (handle : Handle) (target : ScanTarget)
    (earlier later : List Milestone)
    (split : (history ++ (bench.milestone? command).toList).filter
      (Milestone.concerns handle target) = earlier ++ .stopped handle target :: later) :
    ∃ first, earlier = first ++ [.started handle target] := by
  rw [List.filter_append] at split
  cases told : bench.milestone? command with
  | none =>
      rw [told, Option.toList_none, List.filter_nil, List.append_nil] at split
      exact chronicle.stops handle target earlier later split
  | some milestone =>
      rw [told, Option.toList_some] at split
      by_cases concerned : milestone.concerns handle target = true
      · rw [List.filter_cons_of_pos concerned] at split
        rcases eq_or_earlier_of_concat split with ⟨same, rfl, _⟩ | ⟨middle, before⟩
        · -- The scan is stopped just now, so its start was the last thing told of it.
          rw [← same]
          exact chronicle.runs handle target (idle_of_stopped told).1
        · exact chronicle.stops handle target earlier middle before
      · rw [List.filter_cons_of_neg concerned, List.filter_nil, List.append_nil] at split
        exact chronicle.stops handle target earlier later split

theorem runs_step (command : Command) (handle : Handle) (target : ScanTarget)
    (running : (bench.step command).1.isRunning handle target = true) :
    ∃ first, (history ++ (bench.milestone? command).toList).filter
      (Milestone.concerns handle target) = first ++ [.started handle target] := by
  rw [List.filter_append]
  rcases told_of_running running with started | ⟨before, unstopped⟩
  · have concerned : (Milestone.started handle target).concerns handle target = true := by
      simp [Milestone.concerns]
    rw [started, Option.toList_some, List.filter_cons_of_pos concerned]
    exact ⟨_, rfl⟩
  · cases told : bench.milestone? command with
    | none =>
        rw [Option.toList_none, List.filter_nil, List.append_nil]
        exact chronicle.runs handle target before
    | some milestone =>
        rw [Option.toList_some]
        by_cases concerned : milestone.concerns handle target = true
        · rw [List.filter_cons_of_pos concerned]
          rw [Milestone.concerns, Bool.or_eq_true, decide_eq_true_eq, decide_eq_true_eq]
            at concerned
          rcases concerned with rfl | rfl
          · exact ⟨_, rfl⟩
          · exact absurd told unstopped
        · rw [List.filter_cons_of_neg concerned, List.filter_nil, List.append_nil]
          exact chronicle.runs handle target before

/-- One command keeps a chronicle. -/
theorem step (command : Command) :
    (bench.step command).1.Chronicle (history ++ (bench.milestone? command).toList) := by
  have reachable := chronicle.reachable.step command
  have logs := chronicle.logs_step command
  constructor
  · constructor
    · exact chronicle.ascends_step command
    · exact logs
    · exact chronicle.releases_step command
    · intro handle released
      exact isDead_of_absent (absent_of_isReleased ((reachable.released_mem_iff logs).mp released))
    · exact chronicle.ends_step command
    · exact chronicle.stops_step command
  · exact reachable
  · exact chronicle.issued_step command
  · exact chronicle.runs_step command

/-- Any commands keep a chronicle. -/
theorem run (commands : List Command) :
    (bench.run commands).1.Chronicle (history ++ bench.history commands) := by
  induction commands generalizing bench history with
  | nil => rwa [Bench.history, List.append_nil]
  | cons command rest ih =>
      rw [Bench.history, ← List.append_assoc]
      exact ih (chronicle.step command)

end Chronicle

theorem Chronicle.initial : Bench.initial.Chronicle [] where
  ascends := List.Pairwise.nil
  logs := rfl
  releases handle := by
    have none : Bench.initial.driver.lifecycle = ([] : List Milestone).filterMap
        Milestone.logged? := rfl
    rw [← Reachable.initial.released_mem_iff none]
    simp
  dies := nofun
  ends handle earlier later split := by simp [Bench.initial, Driver.initial, Driver.callsOn] at split
  stops handle target earlier later split := by simp at split
  reachable := .initial
  issued handle := by
    simp only [Bench.initial, Driver.initial, List.not_mem_nil, false_iff, not_and]
    exact fun positive => Int.not_lt.mpr positive
  runs handle target running := by
    obtain ⟨run, ran⟩ := isRunning_iff_running?.mp running
    contradiction

/-- Along any commands on a driver without devices, handles are handed out in ascending order and
so only once each, those handed out and given back since are the released ones, and nothing
can be done with them any more.  The release of a handle is the last entry in its log, and every
stop in a log has an accepted start of its own. -/
theorem handleLaw_run (commands : List Command) :
    (Bench.initial.run commands).1.HandleLaw (Bench.initial.history commands) :=
  (Chronicle.initial.run commands).toHandleLaw

/-- A stop that finds no scan running and a second release are not told of. -/
example :
    let stop := Command.request (.stopScan 1 .analogIn)
    let release := Command.request (.release 1)
    (withCells #[0, 0]).history [startPair, stop, stop, startPair, stop, release, release] =
      [.started 1 .analogIn, .stopped 1 .analogIn, .started 1 .analogIn, .stopped 1 .analogIn,
        .released 1] := by
  decide +kernel

end Bench

end Acquisition
