import Acquisition.Proofs.Local
import Acquisition.Proofs.Reachable

/-!
# One handle among others

The commands of a handle are those that name it and those that name no handle, except that
opening a device belongs to the handle that the device gets.  Without the other commands the
device behind the handle goes the same way behind the handle 1 (`Alongside`): a command of
the handle does the same there (`Alongside.own`), and any other command changes nothing that
counts (`Alongside.foreign`), as long as no scan buffer of another handle shares a storage with
one of this handle.  Main statement: `handles_isolated`.
-/

namespace Acquisition

/-! ## The commands of a handle -/

namespace Command

/-- The handle that a command names. -/
def handle? : Command → Option Handle
  | .request asked => asked.handle?
  | .stimulus applied => applied.handle?
  | .edit _ => none

/-- The same command, for the device behind another handle. -/
def readdress (handle : Handle) : Command → Command
  | .request asked => .request (asked.readdress handle)
  | .stimulus applied => .stimulus (applied.readdress handle)
  | .edit made => .edit made

theorem handle?_readdress {command : Command} {named handle : Handle}
    (names : command.handle? = some named) : (command.readdress handle).handle? = some handle := by
  cases command with
  | request asked => exact asked.handle?_readdress names
  | stimulus applied => exact applied.handle?_readdress names
  | edit made => contradiction

theorem readdress_eq_self {command : Command} {handle : Handle}
    (names : ∀ named, command.handle? = some named → named = handle) :
    command.readdress handle = command := by
  cases command with
  | request asked => exact congrArg Command.request (asked.readdress_eq_self names)
  | stimulus applied => exact congrArg Command.stimulus (applied.readdress_eq_self names)
  | edit made => rfl

end Command

/-- Whether a request opens a device. -/
def Request.opens {α : Type} : Request α → Bool
  | .create _ => true
  | _ => false

theorem Request.opens_eq_false {α : Type} {request : Request α} {named : Handle}
    (names : request.handle? = some named) : request.opens = false := by
  cases request with
  | create identity => contradiction
  | _ => rfl

/-- What a handler does to the device whose event it handles. -/
def Due.reaction (due : Due) : List Command :=
  match due.firing.handler.reaction with
  | .record | .breakDown => []
  | .stop target => [.request (.stopScan due.handle target)]
  | .status target => [.request (.scanStatus due.handle target)]
  | .disable kinds => [.request (.disableEvents due.handle kinds)]

theorem Due.readdress_reaction (handle other : Handle) (firing : Firing) :
    (Due.mk other firing).reaction =
      (Due.mk handle firing).reaction.map (Command.readdress other) := by
  simp only [reaction]
  cases firing.handler.reaction <;> rfl

theorem Due.handle?_of_reaction {due : Due} {command : Command} (reacts : command ∈ due.reaction) :
    command.handle? = some due.handle := by
  simp only [reaction] at reacts
  split at reacts
  · contradiction
  · contradiction
  all_goals
    obtain rfl := List.mem_singleton.mp reacts
    rfl

/-- What is seen of a run under a handle.  The answer to opening a device leaves out the handle
that was handed out. -/
inductive Report : Type 1
  | answered {α : Type} (answer : Except Error α)
  | fired (firing : Firing)

namespace Bench

/-- Whether a command is one of a handle: it names the handle, or it names none and opens no
device behind another one. -/
def concerns (bench : Bench) (handle : Handle) (command : Command) : Bool :=
  match command.handle? with
  | some named => named = handle
  | none => bench.driver.nextHandle = handle ||
      (bench.step command).1.driver.nextHandle = bench.driver.nextHandle

/-- What is answered to a command. -/
def answer (bench : Bench) : Command → List Report
  | .request (.create identity) =>
      [.answered (((Request.create identity).serve bench).map fun _ => ())]
  | .request request => [.answered ((request.serve bench).map Outcome.answer)]
  | .stimulus stimulus => [.answered ((stimulus.apply bench).map Outcome.answer)]
  | .edit _ => []

/-- The handlers that are due on a handle among some that are due. -/
def firedOn (handle : Handle) (due : List Due) : List Report :=
  (due.filter fun due => due.handle = handle).map fun due => .fired due.firing

/-- What is seen of a command under a handle: its answer, if it is one of the handle, and the
handlers that are due on the handle. -/
def reportsOf (bench : Bench) (handle : Handle) (command : Command) : List Report :=
  (if bench.concerns handle command then bench.answer command else []) ++
    firedOn handle (bench.step command).2

/-- What is seen of some commands under a handle. -/
def reports (handle : Handle) : Bench → List Command → List Report
  | _, [] => []
  | bench, command :: rest =>
      bench.reportsOf handle command ++ reports handle (bench.step command).1 rest

/-- The commands of a handle among some commands, for the device behind the handle 1. -/
def ownCommands (handle : Handle) : Bench → List Command → List Command
  | _, [] => []
  | bench, command :: rest =>
      if bench.concerns handle command then
        command.readdress 1 :: ownCommands handle (bench.step command).1 rest
      else ownCommands handle (bench.step command).1 rest

/-- Along some commands the handlers that are due react at once. -/
def Reacting : Bench → List Command → Prop
  | _, [] => True
  | bench, command :: rest =>
      (bench.step command).2.flatMap Due.reaction <+: rest ∧
        Reacting (bench.step command).1 rest

/-- The scan that a command starts, as its buffer and the handle of its device. -/
def startOf (bench : Bench) (command : Command) : Option (Handle × ScanBuffer) := do
  let (asked, _) ← command.action?
  match ← bench.taken? asked command with
  | .start scan => some (asked, scan.buffer)
  | _ => none

/-- The scans that some commands start. -/
def starts : Bench → List Command → List (Handle × ScanBuffer)
  | _, [] => []
  | bench, command :: rest => (bench.startOf command).toList ++ starts (bench.step command).1 rest

end Bench

/-! ## The buffers of a device -/

theorem Instrument.ScansOnly.act {kind : ScanBuffer → Prop} {instrument : Instrument}
    {store : Store} {action : Action} {result : Instrument × Store × List Firing}
    (only : instrument.ScansOnly kind) (starts : ∀ scan, action = .start scan → kind scan.buffer)
    (done : action.act instrument store = .ok result) : result.1.ScansOnly kind := by
  intro target run found
  rcases Action.record_of_act done found with ⟨earlier, before, continues⟩ |
    ⟨scan, columns, asks, _, _, rfl⟩
  · exact continues.buffer ▸ only target earlier before
  · have kept : (scan.plan columns).opening.buffer = scan.buffer := scan.plan_buffer columns
    exact kept ▸ starts scan asks

namespace Bench

variable {bench : Bench} {handle : Handle} {command : Command}

/-- Each scan on the bench is one of some scans. -/
def ScansAmong (bench : Bench) (scans : List (Handle × ScanBuffer)) : Prop :=
  ∀ {handle device}, bench.driver.instruments.get? handle = some device →
    device.ScansOnly fun buffer => (handle, buffer) ∈ scans

theorem startOf_of_taken {scan : ScanStart}
    (taken : bench.taken? handle command = some (.start scan)) :
    bench.startOf command = some (handle, scan.buffer) := by
  rw [startOf, (taken?_eq_some_iff.mp taken).1]
  simp only [Option.bind_eq_bind, Option.bind_some, taken]

/-- A command that starts none but some scans keeps the bench to them. -/
theorem ScansAmong.step {scans : List (Handle × ScanBuffer)} (among : bench.ScansAmong scans)
    (more : ∀ start ∈ bench.startOf command, start ∈ scans) :
    (bench.step command).1.ScansAmong scans := by
  intro handle device found
  cases bench.change_of_step command handle with
  | kept unchanged => exact among (unchanged.symm.trans found)
  | acted taken before done now store =>
      obtain rfl := Option.some.inj (now.symm.trans found)
      refine (among before).act ?_ done
      rintro scan rfl
      exact more _ (startOf_of_taken taken)
  | tuned before now adjustment =>
      obtain rfl := Option.some.inj (now.symm.trans found)
      intro target run record
      rw [adjustment.alike.scans] at record
      exact among before target run record
  | opened descriptor profile next counted now =>
      obtain rfl := Option.some.inj (now.symm.trans found)
      intro target run record
      contradiction
  | closed asks now =>
      rw [now] at found
      contradiction

/-! ## With and without the other handles -/

/-- The device behind a handle of one bench is behind the handle 1 of the other bench, where no
other handle was handed out.  What all handles share is alike, but for the samples of some
buffers. -/
structure Alongside (handle : Handle) (others : List ScanBuffer) (full alone : Bench) : Prop where
  device : alone.driver.instruments.get? 1 = full.driver.instruments.get? handle
  calls : alone.driver.callsOn 1 = full.driver.callsOn handle
  handed : alone.driver.nextHandle =
    if 0 < handle ∧ handle < full.driver.nextHandle then 2 else 1
  positive : 0 < full.driver.nextHandle
  inventory : alone.driver.inventory = full.driver.inventory
  transferPriority : alone.driver.transferPriority = full.driver.transferPriority
  version : alone.driver.version = full.driver.version
  stores : Store.Agree others full.store alone.store

/-- A command does on one bench under a handle what another one does under the handle 1 of the
other bench. -/
structure Paces (handle : Handle) (others : List ScanBuffer) (full alone : Bench)
    (command own : Command) : Prop where
  alongside : Alongside handle others (full.step command).1 (alone.step own).1
  answer : alone.answer own = full.answer command
  due : ∃ due : List Firing, (full.step command).2 = due.map (Due.mk handle) ∧
    (alone.step own).2 = due.map (Due.mk 1)

/-- Two operations are refused alike, or they answer alike and go on alongside. -/
inductive Paired (handle : Handle) (others : List ScanBuffer) {α : Type} :
    Except Error (Outcome α) → Except Error (Outcome α) → Prop
  | refused (error : Error) : Paired handle others (.error error) (.error error)
  | done (answer : α) {full alone : Bench} (due : List Firing)
      (alongside : Alongside handle others full alone) :
      Paired handle others (.ok ⟨answer, full, due.map (Due.mk handle)⟩)
        (.ok ⟨answer, alone, due.map (Due.mk 1)⟩)

theorem firedOn_self (handle : Handle) (due : List Firing) :
    firedOn handle (due.map (Due.mk handle)) = due.map .fired := by
  rw [firedOn, List.filter_eq_self.mpr (by simp), List.map_map]
  rfl

theorem Paces.fired {handle : Handle} {others : List ScanBuffer} {full alone : Bench}
    {own : Command} (paces : Paces handle others full alone command own) :
    firedOn 1 (alone.step own).2 = firedOn handle (full.step command).2 := by
  obtain ⟨due, here, there⟩ := paces.due
  rw [here, there, firedOn_self, firedOn_self]

theorem firedOn_of_ne {handle other : Handle} (ne : other ≠ handle) (due : List Firing) :
    firedOn handle (due.map (Due.mk other)) = [] := by
  simp [firedOn, List.filter_map, Function.comp_def, ne]

/-- Opening a device aside, what is answered to a request is what serving it answers. -/
theorem answer_request {α : Type} (bench : Bench) {request : Request α}
    (opens : request.opens = false) :
    bench.answer (.request request) = [.answered ((request.serve bench).map Outcome.answer)] := by
  cases request with
  | create identity => contradiction
  | _ => rfl

section Alongside

variable {α : Type} {others : List ScanBuffer} {full alone : Bench} {named : Handle}
  {first second : Except Error (Outcome α)}

namespace Paired

theorem alongside (paired : Paired handle others first second)
    (before : Alongside handle others full alone) :
    Alongside handle others (full.settled first).1 (alone.settled second).1 := by
  cases paired with
  | refused error => exact before
  | done answer due after => exact after

theorem answer (paired : Paired handle others first second) :
    second.map Outcome.answer = first.map Outcome.answer := by
  cases paired with
  | refused error => rfl
  | done answer due after => rfl

theorem due (paired : Paired handle others first second) (full alone : Bench) :
    ∃ due : List Firing, (full.settled first).2 = due.map (Due.mk handle) ∧
      (alone.settled second).2 = due.map (Due.mk 1) := by
  cases paired with
  | refused error => exact ⟨[], rfl, rfl⟩
  | done answer due after => exact ⟨due, rfl, rfl⟩

end Paired

namespace Alongside

variable (alongside : Alongside handle others full alone)

include alongside

theorem request {request own : Request α}
    (opens : request.opens = false) (owns : own.opens = false)
    (paired : Paired handle others (request.serve full) (own.serve alone)) :
    Paces handle others full alone (.request request) (.request own) where
  alongside := paired.alongside alongside
  answer := by rw [answer_request full opens, answer_request alone owns, paired.answer]
  due := paired.due full alone

theorem stimulus {stimulus own : Stimulus α}
    (paired : Paired handle others (stimulus.apply full) (own.apply alone)) :
    Paces handle others full alone (.stimulus stimulus) (.stimulus own) where
  alongside := paired.alongside alongside
  answer := by rw [answer, answer, paired.answer]
  due := paired.due full alone

/-- The handle counts as released exactly when the handle 1 does alone. -/
theorem isReleased : alone.driver.isReleased 1 = full.driver.isReleased handle := by
  rw [Driver.isReleased, Driver.isReleased, Table.contains, Table.contains, alongside.device,
    alongside.handed]
  by_cases issued : 0 < handle ∧ handle < full.driver.nextHandle
  · rw [if_pos issued]
    simp [issued.1, issued.2]
  · rw [if_neg issued]
    rcases Classical.not_and_iff_not_or_not.mp issued with before | after
    · simp [before]
    · simp [after]

/-- The same is settled behind the handle and alone. -/
theorem settle (outcome : LocalOutcome α) {left right : Store}
    (stores : Store.Agree others left right) :
    Alongside handle others ⟨full.driver.settle handle outcome.device outcome.calls, left⟩
      ⟨alone.driver.settle 1 outcome.device outcome.calls, right⟩ where
  device := by rw [Driver.get?_settle_self, Driver.get?_settle_self]
  calls := by rw [Driver.callsOn_settle_self, Driver.callsOn_settle_self, alongside.calls]
  handed := alongside.handed
  positive := alongside.positive
  inventory := alongside.inventory
  transferPriority := alongside.transferPriority
  version := alongside.version
  stores := stores

/-- What is settled behind another handle does not count. -/
theorem settle_of_ne (ne : named ≠ handle) (device : Option Instrument)
    (calls : List LifecycleCall) {store : Store} (stores : Store.Agree others full.store store) :
    Alongside handle others ⟨full.driver.settle named device calls, store⟩ alone where
  device := by rw [Driver.get?_settle_of_ne _ _ _ _ ne.symm, alongside.device]
  calls := by rw [Driver.callsOn_settle_of_ne _ _ _ _ ne.symm, alongside.calls]
  handed := alongside.handed
  positive := alongside.positive
  inventory := alongside.inventory
  transferPriority := alongside.transferPriority
  version := alongside.version
  stores := stores.symm.trans alongside.stores

/-- What is local does the same to the device behind the handle and alone. -/
theorem of_isLocal (apart : ∀ {device}, full.driver.instruments.get? handle = some device →
      device.ScansOnly (ScanBuffer.IsApart · others))
    {done : Bench → Handle → Except Error (Outcome α)} (isLocal : IsLocal done) :
    Paired handle others (done full handle) (done alone 1) := by
  obtain ⟨operation, confined, same⟩ := isLocal
  rw [same, same]
  cases found : full.driver.instruments.get? handle with
  | none =>
      rw [locally_of_absent found, locally_of_absent (alongside.device.trans found)]
      exact .refused _
  | some device =>
      have reads := confined.reads (apart found) alongside.stores
      rw [locally_of_found found, locally_of_found (alongside.device.trans found)]
      generalize operation device full.store = first at reads
      generalize operation device alone.store = second at reads
      cases reads with
      | refused error => exact .refused error
      | done outcome stores =>
          exact .done outcome.answer outcome.due (alongside.settle outcome stores)

/-- What is local to another handle does not count. -/
theorem of_isLocal_of_ne (ne : named ≠ handle)
    (among : ∀ {device}, full.driver.instruments.get? named = some device →
      device.ScansOnly (· ∈ others))
    {done : Bench → Handle → Except Error (Outcome α)} (isLocal : IsLocal done) :
    Alongside handle others (full.settled (done full named)).1 alone ∧
      firedOn handle (full.settled (done full named)).2 = [] := by
  obtain ⟨operation, confined, same⟩ := isLocal
  rw [same]
  cases found : full.driver.instruments.get? named with
  | none =>
      rw [locally_of_absent found]
      exact ⟨alongside, rfl⟩
  | some device =>
      rw [locally_of_found found]
      cases result : operation device full.store with
      | error error => exact ⟨alongside, rfl⟩
      | ok result =>
          have stores := confined.writes (among found) result
          exact ⟨alongside.settle_of_ne ne _ _ stores, firedOn_of_ne ne _⟩

/-- A device that is opened behind the handle is opened alone. -/
theorem create_self (next : full.driver.nextHandle = handle) (known : Descriptor)
    (profile : Profile) :
    Alongside handle others
      (full.withDriver { full.driver.put full.driver.nextHandle (.initial known profile) with
        nextHandle := full.driver.nextHandle + 1 })
      (alone.withDriver { alone.driver.put alone.driver.nextHandle (.initial known profile) with
        nextHandle := alone.driver.nextHandle + 1 }) := by
  subst next
  have first : alone.driver.nextHandle = 1 := by
    rw [alongside.handed, if_neg fun issued => Int.lt_irrefl _ issued.2]
  exact { alongside with
    device := by simp only [withDriver, Driver.put, first, Table.get?_set_self]
    handed := (congrArg (· + 1) first).trans (if_pos ⟨alongside.positive, Int.lt_succ _⟩).symm
    positive := Int.lt_trans alongside.positive (Int.lt_succ _) }

/-- A device that is opened behind another handle does not count. -/
theorem create_of_ne (ne : handle ≠ full.driver.nextHandle) (known : Descriptor)
    (profile : Profile) :
    Alongside handle others
      (full.withDriver { full.driver.put full.driver.nextHandle (.initial known profile) with
        nextHandle := full.driver.nextHandle + 1 }) alone :=
  { alongside with
    device := alongside.device.trans (Table.get?_set_of_ne _ ne _).symm
    handed := by
      have issued : handle < full.driver.nextHandle + 1 ↔ handle < full.driver.nextHandle :=
        ⟨fun below => Int.lt_iff_le_and_ne.mpr ⟨Int.le_of_lt_add_one below, ne⟩,
          fun below => Int.lt_trans below (Int.lt_succ _)⟩
      simp only [withDriver, issued, alongside.handed]
    positive := Int.lt_trans alongside.positive (Int.lt_succ _) }

/-- To open a device, when it is not for another handle, does the same alone. -/
theorem create {identity : Descriptor}
    (concerns : full.concerns handle (.request (.create identity)) = true) :
    Paces handle others full alone (.request (.create identity)) (.request (.create identity)) := by
  have same : (alone.driver.inventory.find? fun entry => entry.1.sameUnit identity) =
      full.driver.inventory.find? fun entry => entry.1.sameUnit identity := by
    rw [alongside.inventory]
  rcases full.step_create identity with ⟨known, profile, found, opened⟩ | ⟨unknown, refused⟩
  · have opened' : alone.step (.request (.create identity)) =
        (alone.withDriver { alone.driver.put alone.driver.nextHandle (.initial known profile) with
          nextHandle := alone.driver.nextHandle + 1 }, []) := by
      simp only [step, Request.serve, Driver.create, same, found]
      rfl
    have next : full.driver.nextHandle = handle := by
      simp only [Bench.concerns, Command.handle?, Request.handle?, opened, Bool.or_eq_true,
        decide_eq_true_eq] at concerns
      exact concerns.resolve_right (Int.ne_of_gt (Int.lt_succ _))
    refine ⟨?_, ?_, [], by rw [opened]; rfl, by rw [opened']; rfl⟩
    · rw [opened, opened']
      exact alongside.create_self next known profile
    · simp only [answer, Request.serve, Driver.create, same, found]
      rfl
  · have refused' : alone.step (.request (.create identity)) = (alone, []) := by
      simp only [step, Request.serve, Driver.create, same, unknown]
      rfl
    refine ⟨?_, ?_, [], by rw [refused]; rfl, by rw [refused']; rfl⟩
    · rw [refused, refused']
      exact alongside
    · simp only [answer, Request.serve, Driver.create, same, unknown]
      rfl

/-- A command that names no handle does the same alone. -/
theorem unnamed (names : command.handle? = none) (concerns : full.concerns handle command = true) :
    Paces handle others full alone command command := by
  cases command with
  | edit edit =>
      exact ⟨{ alongside with stores := alongside.stores.edit edit }, rfl, [], rfl, rfl⟩
  | stimulus applied =>
      cases applied with
      | attach descriptor profile =>
          apply alongside.stimulus
          have attached : Alongside handle others
              (full.withDriver (full.driver.attach descriptor profile))
              (alone.withDriver (alone.driver.attach descriptor profile)) :=
            { alongside with
              inventory := congrArg (· ++ [(descriptor, profile)]) alongside.inventory }
          exact .done () [] attached
      | _ => contradiction
  | request asked =>
      cases asked with
      | create identity => exact alongside.create concerns
      | inventory transport most =>
          apply alongside.request rfl rfl
          have same : alone.driver.devicesOn transport most =
              full.driver.devicesOn transport most := by
            simp only [Driver.devicesOn, alongside.inventory]
          simp only [Request.serve, same]
          exact .done _ [] alongside
      | libraryText item =>
          apply alongside.request rfl rfl
          simp only [Request.serve, Driver.libraryText, alongside.version]
          split
          · exact .done _ [] alongside
          · exact .refused _
      | librarySetting item =>
          apply alongside.request rfl rfl
          simp only [Request.serve, Driver.librarySetting, alongside.transferPriority]
          split
          · exact .done _ [] alongside
          · exact .refused _
      | setLibrarySetting item index value =>
          apply alongside.request rfl rfl
          simp only [Request.serve, change, Driver.setLibrarySetting]
          split
          · exact .refused _
          · split
            · exact .done () [] { alongside with transferPriority := rfl }
            · exact .refused _
      | _ => contradiction

/-- A command that names the handle does alone what it does behind the handle. -/
theorem of_named (apart : ∀ {device}, full.driver.instruments.get? handle = some device →
      device.ScansOnly (ScanBuffer.IsApart · others)) (names : command.handle? = some handle) :
    Paces handle others full alone command (command.readdress 1) := by
  have itself : ∀ named, command.handle? = some named → named = handle :=
    fun _ same => Option.some.inj (same.symm.trans names)
  cases command with
  | edit made => contradiction
  | request asked =>
      have paired := alongside.of_isLocal apart (asked.isLocal names)
      rw [asked.readdress_eq_self itself] at paired
      exact alongside.request (asked.opens_eq_false names)
        (Request.opens_eq_false (asked.handle?_readdress names)) paired
  | stimulus applied =>
      have paired := alongside.of_isLocal apart (applied.isLocal names)
      rw [applied.readdress_eq_self itself] at paired
      exact alongside.stimulus paired

/-- A command of the handle does alone what it does behind the handle. -/
theorem own (apart : ∀ {device}, full.driver.instruments.get? handle = some device →
      device.ScansOnly (ScanBuffer.IsApart · others))
    (concerns : full.concerns handle command = true) :
    Paces handle others full alone command (command.readdress 1) ∧
      alone.concerns 1 (command.readdress 1) = true := by
  cases names : command.handle? with
  | some named =>
      obtain rfl : named = handle := by simpa [Bench.concerns, names] using concerns
      refine ⟨alongside.of_named apart names, ?_⟩
      simp [Bench.concerns, Command.handle?_readdress names]
  | none =>
      have paces := alongside.unnamed names concerns
      rw [Command.readdress_eq_self fun _ named => by rw [names] at named; contradiction]
      refine ⟨paces, ?_⟩
      simp only [Bench.concerns, names, Bool.or_eq_true, decide_eq_true_eq] at concerns ⊢
      rw [paces.alongside.handed, alongside.handed]
      rcases concerns with next | kept
      · exact .inl (if_neg fun issued => Int.ne_of_gt issued.2 next)
      · exact .inr (by rw [kept])

/-- A command that is not one of the handle does not count. -/
theorem foreign (among : ∀ {named device}, named ≠ handle →
      full.driver.instruments.get? named = some device → device.ScansOnly (· ∈ others))
    (foreign : full.concerns handle command = false) :
    Alongside handle others (full.step command).1 alone ∧
      firedOn handle (full.step command).2 = [] := by
  cases names : command.handle? with
  | some named =>
      have ne : named ≠ handle := by simpa [Bench.concerns, names] using foreign
      have itself : ∀ other, command.handle? = some other → other = named :=
        fun _ same => Option.some.inj (same.symm.trans names)
      cases command with
      | edit made => contradiction
      | request asked =>
          have apart := alongside.of_isLocal_of_ne ne (among ne) (asked.isLocal names)
          rw [asked.readdress_eq_self itself] at apart
          exact apart
      | stimulus applied =>
          have apart := alongside.of_isLocal_of_ne ne (among ne) (applied.isLocal names)
          rw [applied.readdress_eq_self itself] at apart
          exact apart
  | none =>
      simp only [Bench.concerns, names, Bool.or_eq_false_iff, decide_eq_false_iff_not] at foreign
      by_cases opens : ∃ identity, command = .request (.create identity)
      · obtain ⟨identity, rfl⟩ := opens
        rcases full.step_create identity with ⟨known, profile, _, opened⟩ | ⟨_, refused⟩
        · rw [opened]
          exact ⟨alongside.create_of_ne (Ne.symm foreign.1) known profile, rfl⟩
        · exact absurd (by rw [refused]) foreign.2
      · exact absurd (nextHandle_step fun identity same => opens ⟨identity, same⟩) foreign.2

end Alongside

end Alongside

/-! ## Whole runs -/

/-- The buffers of the scans that are on other handles. -/
def otherBuffers (handle : Handle) (scans : List (Handle × ScanBuffer)) : List ScanBuffer :=
  (scans.filter fun scan => scan.1 ≠ handle).map Prod.snd

theorem mem_otherBuffers {scans : List (Handle × ScanBuffer)} {other : Handle}
    {buffer : ScanBuffer} (member : (other, buffer) ∈ scans) (ne : other ≠ handle) :
    buffer ∈ otherBuffers handle scans :=
  List.mem_map.mpr ⟨(other, buffer), List.mem_filter.mpr ⟨member, decide_eq_true ne⟩, rfl⟩

theorem isApart_otherBuffers {scans : List (Handle × ScanBuffer)} {buffer : ScanBuffer}
    (apart : ∀ scan ∈ scans, scan.1 ≠ handle → buffer.sharesStorage scan.2 = false) :
    buffer.IsApart (otherBuffers handle scans) := by
  intro other among
  obtain ⟨scan, kept, rfl⟩ := List.mem_map.mp among
  obtain ⟨member, ne⟩ := List.mem_filter.mp kept
  exact apart scan member (of_decide_eq_true ne)

theorem alongside_initial (handle : Handle) (others : List ScanBuffer) :
    Alongside handle others initial initial where
  device := rfl
  calls := rfl
  handed := (if_neg fun issued => Int.not_lt.mpr (Int.add_one_le_of_lt issued.1) issued.2).symm
  positive := Int.zero_lt_one
  inventory := rfl
  transferPriority := rfl
  version := rfl
  stores := .refl others _

theorem ownCommands_append_of_named {first : List Command}
    (names : ∀ command ∈ first, command.handle? = some handle) (bench : Bench)
    (rest : List Command) :
    ownCommands handle bench (first ++ rest) =
      first.map (Command.readdress 1) ++ ownCommands handle (bench.run first).1 rest := by
  induction first generalizing bench with
  | nil => rfl
  | cons command first ih =>
      obtain ⟨named, others⟩ := List.forall_mem_cons.mp names
      have concerns : bench.concerns handle command = true := by simp [Bench.concerns, named]
      simp only [List.cons_append, ownCommands, concerns, if_true, ih others, List.map_cons,
        run_cons]

/-- When the handlers on the handle react in the one run, they react alike alone. -/
theorem Paces.prefix_ownCommands {others : List ScanBuffer} {full alone : Bench} {own : Command}
    (paces : Paces handle others full alone command own) {rest : List Command}
    (reacts : (full.step command).2.flatMap Due.reaction <+: rest) :
    (alone.step own).2.flatMap Due.reaction <+: ownCommands handle (full.step command).1 rest := by
  obtain ⟨due, here, there⟩ := paces.due
  obtain ⟨later, rfl⟩ := reacts
  have names : ∀ reaction ∈ (full.step command).2.flatMap Due.reaction,
      reaction.handle? = some handle := by
    rw [here]
    simp only [List.mem_flatMap, List.mem_map]
    rintro reaction ⟨_, ⟨firing, _, rfl⟩, member⟩
    exact Due.handle?_of_reaction member
  have same : (alone.step own).2.flatMap Due.reaction =
      ((full.step command).2.flatMap Due.reaction).map (Command.readdress 1) := by
    simp only [here, there, List.map_flatMap, List.flatMap_map, Due.readdress_reaction handle 1]
  rw [ownCommands_append_of_named names, same]
  exact List.prefix_append _ _

/-- The commands of the handle go alongside all commands. -/
theorem Alongside.run {scans : List (Handle × ScanBuffer)} {full alone : Bench}
    (alongside : Alongside handle (otherBuffers handle scans) full alone)
    (among : full.ScansAmong scans) {commands : List Command}
    (more : ∀ start ∈ starts full commands, start ∈ scans)
    (apart : ∀ own ∈ scans, own.1 = handle → own.2.IsApart (otherBuffers handle scans)) :
    Alongside handle (otherBuffers handle scans) (full.run commands).1
        (alone.run (ownCommands handle full commands)).1 ∧
      reports 1 alone (ownCommands handle full commands) = reports handle full commands ∧
      (Reacting full commands → Reacting alone (ownCommands handle full commands)) := by
  induction commands generalizing full alone with
  | nil => exact ⟨alongside, rfl, fun _ => trivial⟩
  | cons command rest ih =>
      have later : (full.step command).1.ScansAmong scans := among.step fun start started =>
        more start (List.mem_append_left _ (Option.mem_toList.mpr started))
      have others : ∀ start ∈ starts (full.step command).1 rest, start ∈ scans :=
        fun start started => more start (List.mem_append_right _ started)
      cases concerns : full.concerns handle command with
      | true =>
          have own : ∀ {device}, full.driver.instruments.get? handle = some device →
              device.ScansOnly (ScanBuffer.IsApart · (otherBuffers handle scans)) :=
            fun found target run record => apart _ (among found target run record) rfl
          obtain ⟨paces, itself⟩ := alongside.own own concerns
          obtain ⟨last, seen, reacting⟩ := ih paces.alongside later others
          simp only [ownCommands, concerns, if_true, run_cons, reports, reportsOf, itself,
            paces.answer, paces.fired, seen]
          exact ⟨last, trivial, fun ⟨reacts, onward⟩ =>
            ⟨paces.prefix_ownCommands reacts, reacting onward⟩⟩
      | false =>
          have foreign : ∀ {named device}, named ≠ handle →
              full.driver.instruments.get? named = some device →
              device.ScansOnly (· ∈ otherBuffers handle scans) :=
            fun ne found target run record => mem_otherBuffers (among found target run record) ne
          obtain ⟨onward, unfired⟩ := alongside.foreign foreign concerns
          obtain ⟨last, seen, reacting⟩ := ih onward later others
          simp only [ownCommands, concerns, Bool.false_eq_true, if_false, run_cons, reports,
            reportsOf, unfired, List.nil_append]
          exact ⟨last, seen, fun reacts => reacting reacts.2⟩

/-- Handles are isolated: take any commands, what handlers do in reaction included, and of them
the commands of one handle.  When no scan on another handle is on a buffer that shares its storage
with one of a scan on this handle, the same is answered and the same handlers are due on the
handle as without the other commands, and their reactions follow as they did.  The device behind
the handle, the calls logged on it and all buffers but those of the other handles are the same in
the end. -/
theorem handles_isolated (commands : List Command) (handle : Handle)
    (apart : ∀ own ∈ starts initial commands, own.1 = handle →
      ∀ other ∈ starts initial commands, other.1 ≠ handle → own.2.sharesStorage other.2 = false) :
    let full := (initial.run commands).1
    let alone := (initial.run (ownCommands handle initial commands)).1
    reports 1 initial (ownCommands handle initial commands) = reports handle initial commands ∧
      (Reacting initial commands → Reacting initial (ownCommands handle initial commands)) ∧
      alone.driver.instruments.get? 1 = full.driver.instruments.get? handle ∧
      alone.driver.callsOn 1 = full.driver.callsOn handle ∧
      alone.driver.isReleased 1 = full.driver.isReleased handle ∧
      ∀ buffer : ScanBuffer,
        (∀ other ∈ starts initial commands, other.1 ≠ handle →
          buffer.sharesStorage other.2 = false) →
        buffer.Unchanged full.store alone.store := by
  have none : initial.ScansAmong (starts initial commands) := nofun
  have all : ∀ start ∈ starts initial commands, start ∈ starts initial commands :=
    fun _ started => started
  obtain ⟨alongside, seen, reacting⟩ := (alongside_initial handle _).run none all
    fun own started same => isApart_otherBuffers (apart own started same)
  exact ⟨seen, reacting, alongside.device, alongside.calls, alongside.isReleased,
    fun buffer unshared => alongside.stores.unchanged buffer (isApart_otherBuffers unshared)⟩

/-- Two devices are opened from one entry of the inventory.  Both scan an input into a buffer of
their own; the first one is released, the second one disconnected. -/
def twoHandles : List Command :=
  let device := Descriptor.ofIdentity "USB-1808X" 317 (.named ["USB"]) "01D97CFA"
  Command.opening ++
    [.request (.create device), .request (.connect 2),
     .edit (.allocateReals #[0, 0]), .edit (.allocateReals #[0, 0]),
     .request (.enableEvents 2 EventKind.dataAvailable 1 ⟨"data", .record⟩),
     .request (.scanAnalogIn 1 ⟨0, 0, 2, 1000, .empty⟩ .singleEnded .bip10Volts .empty ⟨0, 1⟩),
     .request (.scanAnalogIn 2 ⟨0, 0, 2, 1000, .empty⟩ .singleEnded .bip10Volts .empty ⟨1, 1⟩),
     .stimulus (.setInput 1 0 3), .stimulus (.setInput 2 0 5),
     .stimulus (.advance 2 .analogIn 1), .stimulus (.advance 1 .analogIn 2),
     .request (.release 1), .request (.disconnect 2)]

/-- Alone, the second device is behind the handle 1.  The same is seen there, its scan has put
the same sample into its buffer, and the disconnect finds it running. -/
theorem handles_isolated_two :
    starts initial twoHandles = [(1, .reals ⟨0, 1⟩), (2, .reals ⟨1, 1⟩)] ∧
    reports 1 initial (ownCommands 2 initial twoHandles) = reports 2 initial twoHandles ∧
    (initial.run (ownCommands 2 initial twoHandles)).1.driver.callsOn 1 = [.disconnect true] ∧
    (ScanBuffer.reals ⟨1, 1⟩).get?
      (initial.run (ownCommands 2 initial twoHandles)).1.store 0 = some 5 := by
  have started : starts initial twoHandles = [(1, .reals ⟨0, 1⟩), (2, .reals ⟨1, 1⟩)] := by
    decide +kernel
  have apart : ∀ own ∈ starts initial twoHandles, own.1 = 2 →
      ∀ other ∈ starts initial twoHandles, other.1 ≠ 2 → own.2.sharesStorage other.2 = false := by
    rw [started]
    decide
  have unshared : ∀ other ∈ starts initial twoHandles, other.1 ≠ 2 →
      (ScanBuffer.reals ⟨1, 1⟩).sharesStorage other.2 = false := by
    rw [started]
    decide
  obtain ⟨seen, _, _, calls, _, unchanged⟩ := handles_isolated twoHandles 2 apart
  have logged : (initial.run twoHandles).1.driver.callsOn 2 = [.disconnect true] := by
    decide +kernel
  have stored : (ScanBuffer.reals ⟨1, 1⟩).get? (initial.run twoHandles).1.store 0 = some 5 := by
    decide +kernel
  exact ⟨started, seen, calls.trans logged, ((unchanged _ unshared).get?_eq 0).trans stored⟩

end Bench

end Acquisition
