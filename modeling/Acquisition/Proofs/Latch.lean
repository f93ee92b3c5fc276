import Acquisition.Proofs.Ports
import Acquisition.Proofs.ScanLaw

/-!
# What reaches the latch of a port

The direction of a port is looked at when a value or a bit is written and when a digital output
scan is started.  It is not looked at when a synchronous output scan is started, nor before the
rows of an output scan are put out.  So the latch of a port without outputs is safe from
everything but the rows of a running output scan that has the port among its columns.

Main statement: `Bench.Reachable.latch_kept`.
-/

namespace Acquisition.Bench

variable {bench : Bench} {handle : Handle} {command : Command} {device after : Instrument}
  {port : Port} {index : Nat}

/-- A digital output scan is not started over a port without outputs. -/
theorem not_mem_columns_digitalOut {scan : ScanStart} {columns : List Column}
    (aimed : scan.target = .digitalOut) (asked : scan.columns device = .ok columns)
    (first : device.port port.kind = .ok port) (input : port.outputs = 0) :
    .port port.kind ∉ columns := by
  cases scan with
  | digitalOut request buffer =>
      simp only [ScanStart.columns, bind_eq_ok_iff] at asked
      rcases asked with ⟨found, _, checked⟩
      split at checked
      · contradiction
      · next driven =>
          obtain rfl := pure_eq_ok_iff.mp checked
          intro member
          apply driven
          refine List.any_eq_true.mpr ⟨_, member, ?_⟩
          simp only [Instrument.isUndriven, first, input, decide_true]
  | _ => cases aimed

/-- No command changes the latch of a port without outputs, unless it moves rows of a running
output scan that has the port among its columns.  A digital output scan can have it there only
if the port had an output when the scan was started. -/
theorem Reachable.latch_kept (reachable : bench.Reachable)
    (found : bench.driver.instruments.get? handle = some device)
    (listed : device.ports[index]? = some port) (input : port.outputs = 0)
    (undriven : ∀ target run, command.Moves handle target → target.isInput = false →
      device.running? target = some run → .port port.kind ∉ run.columns)
    (still : (bench.step command).1.driver.instruments.get? handle = some after) :
    (∃ later, after.ports[index]? = some later ∧ later.latch = port.latch) ∧
    (device.port port.kind = .ok port → ∀ (scan : ScanStart) (columns : List Column),
      scan.target = .digitalOut → scan.columns device = .ok columns →
      .port port.kind ∉ columns) := by
  refine ⟨?_, fun first scan columns aimed asked =>
    not_mem_columns_digitalOut aimed asked first input⟩
  have same (unchanged : after.ports = device.ports) :
      ∃ later, after.ports[index]? = some later ∧ later.latch = port.latch :=
    ⟨port, unchanged ▸ listed, rfl⟩
  cases bench.change_of_step command handle with
  | kept unchanged =>
      obtain rfl := Option.some.inj (found.symm.trans (unchanged.symm.trans still))
      exact same rfl
  | @acted action _ result taken lookup done now =>
      obtain rfl := Option.some.inj (found.symm.trans lookup)
      obtain rfl := Option.some.inj (now.symm.trans still)
      cases moved : action.moved? with
      | none => exact same (Instrument.ports_of_unmoved done moved)
      | some target =>
          obtain ⟨rows, rfl⟩ := Action.advance_of_act moved done
          cases running : device.running? target with
          | none =>
              rw [Instrument.advance_of_not_running running]
              exact ⟨port, listed, rfl⟩
          | some run =>
              cases direction : target.isInput with
              | true => exact same (Instrument.ports_advance_of_input direction rows _ _)
              | false =>
                  have moves := Command.moves_of_moved? (taken?_eq_some_iff.mp taken).1 moved
                  obtain ⟨later, there, driven⟩ := Port.getElem?_of_forall₂
                    (Instrument.ports_advance running rows bench.store) listed
                  exact ⟨later, there, driven.latch (undriven target run moves direction running)⟩
  | tuned lookup now adjustment =>
      obtain rfl := Option.some.inj (found.symm.trans lookup)
      obtain rfl := Option.some.inj (now.symm.trans still)
      obtain ⟨later, there, retained⟩ := Port.getElem?_of_forall₂ adjustment.ports listed
      exact ⟨later, there, retained.latch input⟩
  | opened descriptor profile next =>
      exact absurd next (Int.ne_of_lt (reachable.issued found))
  | closed asks now =>
      rw [now] at still
      contradiction

/-- Move one row of the scan on a target. -/
def tick (target : ScanTarget) : Command :=
  .stimulus (.advance 1 target 1)

/-- A digital output scan runs over the first port, whose bits are outputs. -/
def playing : Bench :=
  ((withCells #[]).run
    [.edit (.allocateWords #[3]), .request (.configurePort 1 .firstPortA .output),
     .request (.scanDigitalOut 1
       ⟨Coded.code PortKind.firstPortA, Coded.code PortKind.firstPortA, 1, 1000, .empty⟩
       .empty ⟨0, 1⟩)]).1

/-- A row of a scan over one port leaves the latch of another one alone. -/
theorem latch_kept_beside :
    ∃ (device after : Instrument) (port later : Port),
      playing.driver.instruments.get? 1 = some device ∧
      (playing.step (tick .digitalOut)).1.driver.instruments.get? 1 = some after ∧
      device.isRunning .digitalOut = true ∧ port.outputs = 0 ∧
      device.ports[0]? = some port ∧ after.ports[0]? = some later ∧
      later.latch = port.latch := by
  have reachable : playing.Reachable := (withCells_reachable #[]).run _
  have before : (playing.driver.instruments.get? 1).map (fun device =>
      ((device.running? .digitalOut).map ScanRun.columns, device.ports[0]?)) =
      some (some [.port .firstPortA], some ⟨.auxPort, .bitIo, 4, 0, 0, 0⟩) := by decide +kernel
  have stays : ((playing.step (tick .digitalOut)).1.driver.instruments.get? 1).isSome := by
    decide +kernel
  obtain ⟨device, found, same⟩ := Option.map_eq_some_iff.mp before
  obtain ⟨running, listed⟩ := Prod.mk.inj same
  obtain ⟨run, active, columns⟩ := Option.map_eq_some_iff.mp running
  obtain ⟨after, still⟩ := Option.isSome_iff_exists.mp stays
  have undriven : ∀ target record, (tick .digitalOut).Moves 1 target → target.isInput = false →
      device.running? target = some record → .port .auxPort ∉ record.columns := by
    rintro _ record ⟨⟩ _ recorded
    obtain rfl := Option.some.inj (active.symm.trans recorded)
    rw [columns]
    decide
  obtain ⟨⟨later, there, kept⟩, _⟩ := reachable.latch_kept found listed rfl undriven still
  exact ⟨device, after, _, later, found, still, by rw [Instrument.isRunning, active]; rfl, rfl,
    listed, there, kept⟩

/-- A synchronous output scan runs over the auxiliary port, of which no bit is an output. -/
def unchecked : Bench :=
  (withCells #[5]).step (.request (.scanSyncOut 1
    [⟨Coded.code PortKind.auxPort, ⟨0x2⟩, .bip10Volts⟩] 1 1000 .empty .empty ⟨0, 1⟩)) |>.1

/-- The row of a synchronous output scan reaches the latch of a port without outputs. -/
theorem not_latch_kept_unchecked :
    ¬∀ (bench : Bench) (handle : Handle) (command : Command) (device after : Instrument)
      (index : Nat) (port : Port), bench.Reachable →
      bench.driver.instruments.get? handle = some device →
      device.ports[index]? = some port → port.outputs = 0 →
      (bench.step command).1.driver.instruments.get? handle = some after →
      ∃ later, after.ports[index]? = some later ∧ later.latch = port.latch := by
  intro claim
  have reachable : unchecked.Reachable := (withCells_reachable #[5]).step _
  have before : (unchecked.driver.instruments.get? 1).map (fun device => device.ports[0]?) =
      some (some ⟨.auxPort, .bitIo, 4, 0, 0, 0⟩) := by decide +kernel
  have driven : ((unchecked.step (tick .syncOut)).1.driver.instruments.get? 1).map
      (fun device => device.ports[0]?.map Port.latch) = some (some 5) := by decide +kernel
  obtain ⟨device, found, listed⟩ := Option.map_eq_some_iff.mp before
  obtain ⟨after, still, latched⟩ := Option.map_eq_some_iff.mp driven
  obtain ⟨later, there, kept⟩ :=
    claim unchecked 1 (tick .syncOut) device after 0 _ reachable found listed rfl still
  rw [there, Option.map_some, kept] at latched
  contradiction

end Acquisition.Bench
