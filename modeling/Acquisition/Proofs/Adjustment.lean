import Acquisition.Instrument.Analog
import Acquisition.Instrument.Counter
import Acquisition.Instrument.Memory
import Acquisition.Instrument.Setting
import Acquisition.Instrument.Timer
import Acquisition.Instrument.Trigger
import Acquisition.Proofs.Answer

/-!
# Adjustments

Most operations on a device touch neither its connection nor its scans nor its
event bindings.  `Adjustment` lists them with what they take, and
`Adjustment.alike` says what all of them leave alone.
-/

namespace Acquisition

namespace Instrument

/-! ## What scans and events depend on -/

/-- Two states of a device that differ in nothing that starting a scan, the progress of a
scan or the firing of an event depends on. -/
structure Alike (before after : Instrument) : Prop where
  profile : after.profile = before.profile := by rfl
  isPresent : after.isPresent = before.isPresent := by rfl
  isConnected : after.isConnected = before.isConnected := by rfl
  queue : after.queue = before.queue := by rfl
  portKinds : after.ports.map Port.kind = before.ports.map Port.kind := by rfl
  scans : after.scans = before.scans := by rfl
  bindings : after.bindings = before.bindings := by rfl

theorem Alike.refl (instrument : Instrument) : instrument.Alike instrument :=
  {}

theorem Alike.trans {first middle last : Instrument} (left : first.Alike middle)
    (right : middle.Alike last) : first.Alike last where
  profile := right.profile.trans left.profile
  isPresent := right.isPresent.trans left.isPresent
  isConnected := right.isConnected.trans left.isConnected
  queue := right.queue.trans left.queue
  portKinds := right.portKinds.trans left.portKinds
  scans := right.scans.trans left.scans
  bindings := right.bindings.trans left.bindings

end Instrument

/-! ## Ports -/

namespace Port

/-- Changing the first port of a kind keeps the kinds, if the change of the port does. -/
theorem kinds_of_updateFirst {kind : PortKind} {change : Port → Except Error Port}
    (keeps : ∀ ⦃port changed : Port⦄, change port = .ok changed → changed.kind = port.kind)
    {ports changed : List Port} (done : updateFirst kind change ports = .ok changed) :
    changed.map Port.kind = ports.map Port.kind := by
  induction ports generalizing changed with
  | nil => simp [updateFirst] at done
  | cons port rest ih =>
      by_cases hit : port.kind = kind
      · simp only [updateFirst, hit, if_true, bind_eq_ok_iff, pure_eq_ok_iff] at done
        rcases done with ⟨replaced, accepted, rfl⟩
        simp [keeps accepted]
      · simp only [updateFirst, hit, if_false, bind_eq_ok_iff, pure_eq_ok_iff] at done
        rcases done with ⟨others, accepted, rfl⟩
        simp [ih accepted]

/-- What one request, or one level from outside, makes of a port. -/
inductive Turn (before : Port) : Port → Prop
  | configure {after} (direction : Direction)
      (done : before.configure direction = .ok after) : Turn before after
  | configureBit {after} (bit : Int) (direction : Direction)
      (done : before.configureBit bit direction = .ok after) : Turn before after
  | write {after} (value : UInt64) (done : before.write value = .ok after) : Turn before after
  | writeBit {after} (bit : Int) (value : Nat)
      (done : before.writeBit bit value = .ok after) : Turn before after
  | setLevels (levels : UInt64) : Turn before { before with levels := levels }

/-- What a port is, whatever is done with it: its kind, its access and its width. -/
def form (port : Port) : PortKind × PortAccess × Nat :=
  (port.kind, port.access, port.width)

/-- A port stays what it is; its latch changes only if some of its bits are outputs. -/
structure Retained (before after : Port) : Prop where
  form : after.form = before.form := by rfl
  latch : before.outputs = 0 → after.latch = before.latch := by exact fun _ => rfl

theorem Turn.retained {before after : Port} (turn : before.Turn after) :
    before.Retained after := by
  cases turn with
  | configure direction done =>
      unfold Port.configure at done
      split at done
      · exact (Except.ok.inj done) ▸ {}
      · exact (Except.ok.inj done) ▸ {}
      · contradiction
  | configureBit bit direction done =>
      unfold Port.configureBit at done
      split at done
      · contradiction
      · simp only [bind_eq_ok_iff, pure_eq_ok_iff] at done
        rcases done with ⟨_, _, rfl⟩
        exact {}
  | write value done =>
      unfold Port.write at done
      split at done
      · contradiction
      · split at done
        · contradiction
        · next driven =>
            obtain rfl := Except.ok.inj done
            exact { latch := fun input => absurd input driven }
  | writeBit bit value done =>
      simp only [Port.writeBit, bind_eq_ok_iff] at done
      rcases done with ⟨_, _, done⟩
      split at done
      · contradiction
      · split at done
        · contradiction
        · next driven =>
            obtain rfl := pure_eq_ok_iff.mp done
            refine { latch := fun input => absurd ?_ driven }
            rw [input, UInt64.zero_and]
  | setLevels levels => exact {}

end Port

namespace Instrument

theorem alike_of_updatePort {before after : Instrument} {kind : PortKind}
    {change : Port → Except Error Port}
    (keeps : ∀ ⦃port changed : Port⦄, change port = .ok changed → changed.kind = port.kind)
    (done : before.updatePort kind change = .ok after) : before.Alike after := by
  simp only [updatePort, bind_eq_ok_iff, pure_eq_ok_iff] at done
  rcases done with ⟨ports, updated, rfl⟩
  exact { portKinds := Port.kinds_of_updateFirst keeps updated }

/-! ## The adjustments -/

/-- An operation that touches neither the connection nor the queue nor the scans nor the
bindings of a device. -/
inductive Adjustment (before : Instrument) : Instrument → Prop
  | flashLed {after} (count : Int) (done : before.flashLed count = .ok after) :
      Adjustment before after
  | setSetting {after} (item : Int) (index : Nat) (value : Int)
      (done : before.setSetting item index value = .ok after) : Adjustment before after
  | setRealSetting {after} (item : Int) (index : Nat) (value : Float)
      (done : before.setRealSetting item index value = .ok after) : Adjustment before after
  | writeAnalog {after} (channel : Int) (range : Range) (flags : Flags .analogOutWrite)
      (value : Float) (done : before.writeAnalog channel range flags value = .ok after) :
      Adjustment before after
  | configurePort {after} (kind : PortKind) (direction : Direction)
      (done : before.updatePort kind (fun port => port.configure direction) = .ok after) :
      Adjustment before after
  | configureBit {after} (kind : PortKind) (bit : Int) (direction : Direction)
      (done : before.updatePort kind (fun port => port.configureBit bit direction) = .ok after) :
      Adjustment before after
  | writePort {after} (kind : PortKind) (value : UInt64)
      (done : before.updatePort kind (fun port => port.write value) = .ok after) :
      Adjustment before after
  | writeBit {after} (kind : PortKind) (bit : Int) (value : Nat)
      (done : before.updatePort kind (fun port => port.writeBit bit value) = .ok after) :
      Adjustment before after
  | setLevels {after} (kind : PortKind) (levels : UInt64)
      (done : before.updatePort kind (fun port => .ok { port with levels := levels }) =
        .ok after) : Adjustment before after
  | setInput (channel : Int) (volts : Float) :
      Adjustment before { before with inputs := before.inputs.set channel volts }
  | loadRegister {after} (counter : Int) (register : Flags .register) (value : UInt64)
      (done : before.loadRegister counter register value = .ok after) : Adjustment before after
  | clearCounter {after} (counter : Int) (done : before.clearCounter counter = .ok after) :
      Adjustment before after
  | presetCounter {after} (counter : Int) (value : UInt64)
      (done : before.presetCounter counter value = .ok after) : Adjustment before after
  | setupCounter {after} (counter : Int) (setup : CounterSetup)
      (done : before.setupCounter counter setup = .ok after) : Adjustment before after
  | startTimer {after} (timer : Int) (request : PulseRequest) (timing : PulseTiming)
      (done : before.startTimer timer request = .ok (timing, after)) : Adjustment before after
  | stopTimer {after} (timer : Int) (done : before.stopTimer timer = .ok after) :
      Adjustment before after
  | setTrigger {after} (target : TriggerTarget) (channel : Int) (trigger : Trigger)
      (done : before.setTrigger target channel trigger = .ok after) : Adjustment before after
  | setSyncTrigger {after} (target : ScanTarget) (channel : SyncChannel .syncInChannel)
      (trigger : Trigger) (done : before.setSyncTrigger target channel trigger = .ok after) :
      Adjustment before after
  | writeMemory {after} (region : Flags .memoryRegion) (address : UInt32) (data : List UInt8)
      (done : before.writeMemory region address data = .ok after) : Adjustment before after

/-- An adjustment leaves the ports alone, or gives the first port of a kind one turn. -/
theorem Adjustment.cases {before after : Instrument} (adjustment : Adjustment before after) :
    (before.Alike after ∧ after.ports = before.ports) ∨
    ∃ kind change, (∀ ⦃port changed : Port⦄, change port = .ok changed → port.Turn changed) ∧
      before.updatePort kind change = .ok after := by
  cases adjustment with
  | flashLed count done =>
      unfold Instrument.flashLed at done
      split at done
      · contradiction
      · exact .inl ((Except.ok.inj done) ▸ ⟨{}, rfl⟩)
  | setSetting item index value done =>
      simp only [Instrument.setSetting, bind_eq_ok_iff, pure_eq_ok_iff] at done
      rcases done with ⟨_, _, _, _, rfl⟩
      exact .inl ⟨{}, rfl⟩
  | setRealSetting item index value done =>
      unfold Instrument.setRealSetting at done
      split at done
      · contradiction
      · simp only [bind_eq_ok_iff, pure_eq_ok_iff] at done
        rcases done with ⟨_, _, _, _, rfl⟩
        exact .inl ⟨{}, rfl⟩
  | writeAnalog channel range flags value done =>
      simp only [Instrument.writeAnalog, bind_eq_ok_iff, pure_eq_ok_iff] at done
      rcases done with ⟨_, _, _, _, rfl⟩
      exact .inl ⟨{}, rfl⟩
  | configurePort kind direction done =>
      exact .inr ⟨kind, _, fun _ _ accepted => .configure direction accepted, done⟩
  | configureBit kind bit direction done =>
      exact .inr ⟨kind, _, fun _ _ accepted => .configureBit bit direction accepted, done⟩
  | writePort kind value done =>
      exact .inr ⟨kind, _, fun _ _ accepted => .write value accepted, done⟩
  | writeBit kind bit value done =>
      exact .inr ⟨kind, _, fun _ _ accepted => .writeBit bit value accepted, done⟩
  | setLevels kind levels done =>
      refine .inr ⟨kind, _, ?_, done⟩
      intro port changed accepted
      exact (Except.ok.inj accepted) ▸ .setLevels levels
  | setInput channel volts => exact .inl ⟨{}, rfl⟩
  | loadRegister counter register value done =>
      simp only [Instrument.loadRegister, bind_eq_ok_iff] at done
      rcases done with ⟨_, _, done⟩
      split at done <;> exact .inl ((pure_eq_ok_iff.mp done) ▸ ⟨{}, rfl⟩)
  | clearCounter counter done =>
      simp only [Instrument.clearCounter, bind_eq_ok_iff, pure_eq_ok_iff] at done
      rcases done with ⟨_, _, rfl⟩
      exact .inl ⟨{}, rfl⟩
  | presetCounter counter value done =>
      simp only [Instrument.presetCounter, bind_eq_ok_iff, pure_eq_ok_iff] at done
      rcases done with ⟨_, _, rfl⟩
      exact .inl ⟨{}, rfl⟩
  | setupCounter counter setup done =>
      simp only [Instrument.setupCounter, bind_eq_ok_iff, pure_eq_ok_iff] at done
      rcases done with ⟨_, _, rfl⟩
      exact .inl ⟨{}, rfl⟩
  | startTimer timer request timing done =>
      simp only [Instrument.startTimer, bind_eq_ok_iff] at done
      rcases done with ⟨_, _, done⟩
      split at done
      · contradiction
      · simp only [bind_eq_ok_iff, pure_eq_ok_iff, Prod.mk.injEq] at done
        rcases done with ⟨_, _, _, _, _, _, _, rfl⟩
        exact .inl ⟨{}, rfl⟩
  | stopTimer timer done =>
      simp only [Instrument.stopTimer, bind_eq_ok_iff, pure_eq_ok_iff] at done
      rcases done with ⟨_, _, rfl⟩
      exact .inl ⟨{}, rfl⟩
  | setTrigger target channel trigger done =>
      simp only [Instrument.setTrigger, bind_eq_ok_iff, pure_eq_ok_iff] at done
      rcases done with ⟨_, _, rfl⟩
      exact .inl ⟨{}, rfl⟩
  | setSyncTrigger target channel trigger done =>
      simp only [Instrument.setSyncTrigger, bind_eq_ok_iff, pure_eq_ok_iff] at done
      rcases done with ⟨_, _, _, _, rfl⟩
      exact .inl ⟨{}, rfl⟩
  | writeMemory region address data done =>
      simp only [Instrument.writeMemory, bind_eq_ok_iff] at done
      rcases done with ⟨_, _, done⟩
      split at done
      · simp only [bind_eq_ok_iff, pure_eq_ok_iff] at done
        rcases done with ⟨_, _, rfl⟩
        exact .inl ⟨{}, rfl⟩
      · contradiction

/-- No adjustment changes what scans and events depend on. -/
theorem Adjustment.alike {before after : Instrument} (adjustment : Adjustment before after) :
    before.Alike after := by
  rcases adjustment.cases with ⟨alike, _⟩ | ⟨kind, change, turns, done⟩
  · exact alike
  · refine alike_of_updatePort ?_ done
    intro port changed accepted
    exact congrArg Prod.fst (turns accepted).retained.form

end Instrument

end Acquisition
