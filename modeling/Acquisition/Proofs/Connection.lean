import Acquisition.Proofs.Calm
import Acquisition.Proofs.ScanLaw

/-!
# Connections

A device without a connection runs no scan, and a device that was detached has no connection
(`Instrument.Tethered`).  Nothing attaches a device again, so it stays without one
(`Bench.detached_run`).  Main statement: `Bench.Reachable.unconnected_idle`.
-/

namespace Acquisition

namespace Instrument

variable {action : Action} {instrument : Instrument} {store : Store} {target : ScanTarget}
  {result : Instrument × Store × List Firing}

/-! ## What an action does to the connection -/

/-- An action on a device that is detached leaves it detached and without a connection. -/
structure StaysDetached (before after : Instrument) : Prop where
  isPresent : before.isPresent = false → after.isPresent = false
  isConnected : before.isPresent = false → before.isConnected = false → after.isConnected = false

theorem StaysDetached.of_same {before after : Instrument}
    (isPresent : after.isPresent = before.isPresent)
    (isConnected : after.isConnected = before.isConnected) : before.StaysDetached after :=
  ⟨isPresent.trans, fun _ => isConnected.trans⟩

theorem haltScan_isPresent (instrument : Instrument) (target : ScanTarget) :
    (instrument.haltScan target).isPresent = instrument.isPresent := by
  unfold haltScan
  split <;> rfl

theorem haltScan_isConnected (instrument : Instrument) (target : ScanTarget) :
    (instrument.haltScan target).isConnected = instrument.isConnected := by
  unfold haltScan
  split <;> rfl

/-- Moving rows of a scan has nothing to do with the connection. -/
theorem advance_connection (target : ScanTarget) (rows : Nat) (instrument : Instrument)
    (store : Store) :
    (advance target rows instrument store).1.isPresent = instrument.isPresent ∧
      (advance target rows instrument store).1.isConnected = instrument.isConnected := by
  refine advance_induction (P := fun later _ =>
    later.isPresent = instrument.isPresent ∧ later.isConnected = instrument.isConnected)
    ?_ rows ⟨rfl, rfl⟩
  rintro later store run ⟨present, connected⟩ _
  have alike := later.moveRow_alike store target run
  exact ⟨alike.isPresent.trans present, alike.isConnected.trans connected⟩

/-- Only connecting, disconnecting and detaching change the connection. -/
theorem connection_of_act (done : action.act instrument store = .ok result) :
    (result.1.isPresent = instrument.isPresent ∧ result.1.isConnected = instrument.isConnected) ∨
    (action = .connect ∧ instrument.isPresent = true ∧
      result.1 = { instrument with isConnected := true }) ∨
    (action = .disconnect ∧ result.1 = instrument.disconnect) ∨
    (action = .unplug ∧ result.1 = instrument.unplug) := by
  cases action with
  | connect =>
      simp only [Action.act, bind_eq_ok_iff, pure_eq_ok_iff, Instrument.connect] at done
      rcases done with ⟨after, connected, rfl⟩
      split at connected
      · next present => exact .inr (.inl ⟨rfl, present, (Except.ok.inj connected).symm⟩)
      · contradiction
  | disconnect =>
      obtain rfl := Except.ok.inj done
      exact .inr (.inr (.inl ⟨rfl, rfl⟩))
  | unplug =>
      obtain rfl := Except.ok.inj done
      exact .inr (.inr (.inr ⟨rfl, rfl⟩))
  | loadQueue queue =>
      simp only [Action.act, bind_eq_ok_iff, pure_eq_ok_iff, Instrument.loadQueue] at done
      rcases done with ⟨_, _, after, ⟨_, _, rfl⟩, rfl⟩
      exact .inl ⟨rfl, rfl⟩
  | enableEvents kinds period handler =>
      simp only [Action.act, bind_eq_ok_iff, pure_eq_ok_iff, Instrument.enableEvents] at done
      rcases done with ⟨after, ⟨_, _, rfl⟩, rfl⟩
      exact .inl ⟨rfl, rfl⟩
  | disableEvents kinds =>
      obtain rfl := Except.ok.inj done
      exact .inl ⟨rfl, rfl⟩
  | start scan =>
      rcases Action.act_start_eq_ok_iff.mp done with ⟨_, columns, rate, _, _, rfl⟩
      have alike := settle_alike (instrument.launch scan.target (scan.plan columns)) scan
      exact .inl ⟨alike.isPresent, alike.isConnected⟩
  | halt other =>
      obtain rfl := Except.ok.inj done
      exact .inl ⟨haltScan_isPresent instrument other, haltScan_isConnected instrument other⟩
  | advance other rows =>
      obtain rfl := Except.ok.inj done
      exact .inl (advance_connection other rows instrument store)
  | finish other =>
      rcases advance_of_finishScan done with ⟨rows, rfl⟩
      exact .inl (advance_connection other rows instrument store)
  | abort other error =>
      obtain rfl := Except.ok.inj done
      change ((instrument.abortScan other error).1.isPresent = _ ∧
        (instrument.abortScan other error).1.isConnected = _) ∨ _
      rw [abortScan_fst]
      split
      · exact .inl ⟨haltScan_isPresent instrument other, haltScan_isConnected instrument other⟩
      · exact .inl ⟨rfl, rfl⟩

theorem staysDetached_of_act (done : action.act instrument store = .ok result) :
    instrument.StaysDetached result.1 := by
  rcases connection_of_act done with
    ⟨present, connected⟩ | ⟨_, present, same⟩ | ⟨_, same⟩ | ⟨_, same⟩
  · exact .of_same present connected
  · -- A device that is detached is not connected to.
    exact ⟨fun gone => by simp [present] at gone, fun gone => by simp [present] at gone⟩
  · exact same ▸ ⟨id, fun _ _ => rfl⟩
  · exact same ▸ ⟨fun _ => rfl, fun _ _ => rfl⟩

/-! ## Devices without a connection -/

/-- A device without a connection runs no scan, and a detached one has no connection. -/
structure Tethered (instrument : Instrument) : Prop where
  idle : instrument.isConnected = false → ∀ target, instrument.running? target = none
  detached : instrument.isPresent = false → instrument.isConnected = false

theorem running?_disconnect (instrument : Instrument) (target : ScanTarget) :
    instrument.disconnect.running? target = none :=
  running?_of_scans_halt (Table.get?_map _ _ _)

theorem running?_unplug (instrument : Instrument) (target : ScanTarget) :
    instrument.unplug.running? target = none :=
  running?_of_scans_halt (Table.get?_map _ _ _)

theorem Tethered.of_alike {after : Instrument} (tethered : instrument.Tethered)
    (alike : instrument.Alike after) : after.Tethered where
  idle off target := by
    rw [running?_of_scans_eq (congrArg (fun scans => scans.get? target) alike.scans)]
    exact tethered.idle (alike.isConnected.symm.trans off) target
  detached gone := alike.isConnected.trans (tethered.detached (alike.isPresent.symm.trans gone))

/-- A scan that is running without a connection would have been started without one. -/
theorem running?_eq_none_of_act (done : action.act instrument store = .ok result)
    (idle : ∀ target, instrument.running? target = none) (off : instrument.isConnected = false)
    (target : ScanTarget) : result.1.running? target = none := by
  cases running : result.1.running? target with
  | none => rfl
  | some run =>
      by_cases started : action.started? = some target
      · obtain ⟨scan, rfl, _⟩ := Action.start_of_started? started
        have connected := (Action.act_start_eq_ok_iff.mp done).1
        rw [off] at connected
        contradiction
      · obtain ⟨earlier, ran, _⟩ := running?_of_act done started running
        rw [idle target] at ran
        contradiction

theorem Tethered.act (tethered : instrument.Tethered)
    (done : action.act instrument store = .ok result) : result.1.Tethered := by
  rcases connection_of_act done with
    ⟨present, connected⟩ | ⟨_, present, same⟩ | ⟨_, same⟩ | ⟨_, same⟩
  · constructor
    · intro off target
      have before := connected.symm.trans off
      exact running?_eq_none_of_act done (tethered.idle before) before target
    · intro gone
      exact connected.trans (tethered.detached (present.symm.trans gone))
  · rw [same]
    exact ⟨nofun, fun gone => by simp [present] at gone⟩
  · rw [same]
    exact ⟨fun _ => running?_disconnect instrument, fun _ => rfl⟩
  · rw [same]
    exact ⟨fun _ => running?_unplug instrument, fun _ => rfl⟩

/-- Every device of a bench is tethered. -/
theorem tethered_invariant : Invariant fun instrument _ => instrument.Tethered where
  opened _ _ _ := ⟨fun _ _ => rfl, nofun⟩
  adjusted adjustment tethered := tethered.of_alike adjustment.alike
  acted done tethered := tethered.act done
  grown _ tethered := tethered

end Instrument

namespace Bench

variable {bench : Bench} {handle : Handle} {target : ScanTarget} {device later : Instrument}

theorem isRunning_of_absent (absent : bench.driver.instruments.get? handle = none) :
    bench.isRunning handle target = false := by
  show (bench.scan? handle target).any ScanRun.isRunning = false
  rw [scan?, absent, Option.bind_none, Option.any_none]

/-- A device without a connection runs no scan. -/
theorem Reachable.isRunning_eq_false (reachable : bench.Reachable)
    (found : bench.driver.instruments.get? handle = some device)
    (off : device.isConnected = false) (target : ScanTarget) :
    bench.isRunning handle target = false := by
  have tethered := Instrument.tethered_invariant.holds reachable found
  rw [isRunning_of_found found, Instrument.isRunning, tethered.idle off target, Option.isSome_none]

/-- A device that a scan is running on is connected. -/
theorem Reachable.connected (reachable : bench.Reachable)
    (found : bench.driver.instruments.get? handle = some device) {run : ScanRun}
    (running : device.running? target = some run) : device.isConnected = true := by
  cases connection : device.isConnected with
  | true => rfl
  | false =>
      have idle := (Instrument.tethered_invariant.holds reachable found).idle connection target
      rw [idle] at running
      contradiction

/-! ## Devices that were detached -/

theorem staysDetached_step (found : bench.driver.instruments.get? handle = some device)
    (issued : handle < bench.driver.nextHandle) {command : Command}
    (still : (bench.step command).1.driver.instruments.get? handle = some later) :
    device.StaysDetached later := by
  cases bench.change_of_step command handle with
  | kept unchanged =>
      obtain rfl := Option.some.inj (found.symm.trans (unchanged.symm.trans still))
      exact .of_same rfl rfl
  | acted taken lookup done now =>
      obtain rfl := Option.some.inj (found.symm.trans lookup)
      obtain rfl := Option.some.inj (now.symm.trans still)
      exact Instrument.staysDetached_of_act done
  | tuned lookup now adjustment =>
      obtain rfl := Option.some.inj (found.symm.trans lookup)
      obtain rfl := Option.some.inj (now.symm.trans still)
      exact .of_same adjustment.alike.isPresent adjustment.alike.isConnected
  | opened descriptor profile next => exact absurd next (Int.ne_of_lt issued)
  | closed asks now =>
      rw [now] at still
      contradiction

/-- A device that is detached is so for good. -/
theorem detached_run {commands : List Command}
    (found : bench.driver.instruments.get? handle = some device)
    (issued : handle < bench.driver.nextHandle) (gone : device.isPresent = false)
    (off : device.isConnected = false)
    (still : (bench.run commands).1.driver.instruments.get? handle = some later) :
    later.isPresent = false ∧ later.isConnected = false := by
  induction commands generalizing bench device with
  | nil =>
      obtain rfl := Option.some.inj (found.symm.trans still)
      exact ⟨gone, off⟩
  | cons command rest ih =>
      have known := Int.lt_of_lt_of_le issued (bench.nextHandle_le_step command)
      obtain ⟨middle, there⟩ := found_of_run known still
      have stays := staysDetached_step found issued there
      exact ih there known (stays.isPresent gone) (stays.isConnected gone off) still

theorem step_unplug (found : bench.driver.instruments.get? handle = some device) :
    bench.step (.stimulus (.unplug handle)) = (bench.put handle device.unplug, []) := by
  have applied : (Stimulus.unplug handle).apply bench =
      .ok ⟨(), bench.put handle device.unplug, []⟩ :=
    adjust_eq_ok_iff.mpr ⟨device, _, found, rfl, rfl⟩
  simp only [step, settled, applied]

theorem serve_connect_of_detached (found : bench.driver.instruments.get? handle = some device)
    (gone : device.isPresent = false) :
    (Request.connect handle).serve bench = .error .devNotFound := by
  simp [Request.serve, adjust, Driver.instrument, found, Instrument.connect, gone, bind,
    Except.bind]

theorem apply_advance_of_idle (found : bench.driver.instruments.get? handle = some device)
    (idle : device.running? target = none) (rows : Nat) :
    (Stimulus.advance handle target rows).apply bench =
      .ok (bench.reply (device.scanStatus target).2) := by
  have there := Driver.instrument_eq_ok_iff.mpr found
  simp only [Stimulus.apply, there, bind, Except.bind, pure, Except.pure, moved,
    Instrument.advance_of_not_running idle, Driver.put_of_get? found, List.map_nil, reply]

/-- A device of a reachable bench runs no scan while it has no connection, and advancing one
then changes nothing and makes no handler due.  Once it has been detached, no commands connect
it or make a scan run on it again: as long as its handle leads to it, to connect is refused
because there is no device. -/
theorem Reachable.unconnected_idle (reachable : bench.Reachable)
    (found : bench.driver.instruments.get? handle = some device) :
    (device.isConnected = false → ∀ target,
      bench.isRunning handle target = false ∧
      ∀ rows, (Stimulus.advance handle target rows).apply bench =
        .ok ⟨(device.scanStatus target).2, bench, []⟩) ∧
    ∀ commands,
      let after := ((bench.step (.stimulus (.unplug handle))).1.run commands).1
      (∀ target, after.isRunning handle target = false) ∧
      ∀ later, after.driver.instruments.get? handle = some later →
        later.isConnected = false ∧
          (Request.connect handle).serve after = .error .devNotFound := by
  constructor
  · intro off target
    have tethered := Instrument.tethered_invariant.holds reachable found
    exact ⟨reachable.isRunning_eq_false found off target,
      apply_advance_of_idle found (tethered.idle off target)⟩
  · intro commands after
    have unplugged := step_unplug found
    have reached : after.Reachable := (reachable.step _).run commands
    have issued := Int.lt_of_lt_of_le (reachable.issued found)
      (bench.nextHandle_le_step (.stimulus (.unplug handle)))
    have there : (bench.step (.stimulus (.unplug handle))).1.driver.instruments.get? handle =
        some device.unplug := by
      rw [unplugged]
      exact Table.get?_set_self _ _ _
    have gone : ∀ later, after.driver.instruments.get? handle = some later →
        later.isPresent = false ∧ later.isConnected = false :=
      fun later still => detached_run there issued rfl rfl still
    constructor
    · intro target
      cases still : after.driver.instruments.get? handle with
      | none => exact isRunning_of_absent still
      | some later => exact reached.isRunning_eq_false still (gone later still).2 target
    · intro later still
      exact ⟨(gone later still).2, serve_connect_of_detached still (gone later still).1⟩

/-- A device is detached while a scan is running on it.  It cannot be connected again, a start is
refused, and there is nothing to advance. -/
theorem unconnected_idle_unplugged :
    let busy := ((withCells #[0, 0]).step startPair).1
    let unplugged := (busy.step (.stimulus (.unplug 1))).1
    let retried := (unplugged.run [.request (.connect 1), startPair]).1
    busy.isRunning 1 .analogIn = true ∧
    retried.isRunning 1 .analogIn = false ∧
    (Request.connect 1).serve retried = .error .devNotFound ∧
    ∃ transfer, (Stimulus.advance 1 .analogIn 1).apply unplugged = .ok ⟨transfer, unplugged, []⟩ := by
  intro busy unplugged retried
  have reachable : busy.Reachable := (withCells_reachable #[0, 0]).step startPair
  have there : (busy.driver.instruments.get? 1).isSome = true := by decide +kernel
  obtain ⟨device, found⟩ := Option.isSome_iff_exists.mp there
  have still : (retried.driver.instruments.get? 1).isSome = true := by decide +kernel
  obtain ⟨later, kept⟩ := Option.isSome_iff_exists.mp still
  have gone : unplugged.driver.instruments.get? 1 = some device.unplug := by
    rw [show unplugged = busy.put 1 device.unplug from congrArg Prod.fst (step_unplug found)]
    exact Table.get?_set_self _ _ _
  have lasting := (reachable.unconnected_idle found).2 [.request (.connect 1), startPair]
  have unmoved := ((reachable.step _).unconnected_idle gone).1 rfl .analogIn
  exact ⟨by decide +kernel, lasting.1 .analogIn, (lasting.2 later kept).2, _, unmoved.2 1⟩

end Bench

end Acquisition
