import Acquisition.Device.Operation
import Acquisition.Proofs.Answer
import Acquisition.Proofs.Expansion

/-!
# Triggers that a device takes

Triggers are set on eight parts of a device (`TriggerInlet`), and all of them are kept in one
place.  Those that start a scan take one flag that the profile reports, and a timer takes whatever
is not empty (`TriggerInlet.taken_of_set`), also where it is not one flag with a name
(`TriggerInlet.set_of_unfit`).
-/

namespace Acquisition

/-! ## Where triggers are set -/

/-- The parts of a device that take a trigger, with the channel that is named when one is set. -/
inductive TriggerInlet where
  | part (target : TriggerTarget) (channel : Int)
  | syncIn (channel : SyncChannel .syncInChannel)
  | syncOut (channel : SyncChannel .syncInChannel)
  deriving DecidableEq

namespace TriggerInlet

/-- The scans that wait for a trigger; for that of a timer there are none. -/
def target? : TriggerInlet → Option ScanTarget
  | part .analogIn _ => some .analogIn
  | part .analogOut _ => some .analogOut
  | part .digitalIn _ => some .digitalIn
  | part .digitalOut _ => some .digitalOut
  | part .counterIn _ => some .counterIn
  | part .timer _ => none
  | syncIn _ => some .syncIn
  | syncOut _ => some .syncOut

/-- The timer that a trigger is set on. -/
def timer? : TriggerInlet → Option Int
  | part .timer timer => some timer
  | _ => none

/-- Whether a trigger is set on a timer. -/
def isTimer (inlet : TriggerInlet) : Bool :=
  inlet.timer?.isSome

/-- The triggers that are supported: those that the profile reports, and for timers those with a
name. -/
def supported (profile : Profile) (inlet : TriggerInlet) : Flags .trigger :=
  match inlet.target? with
  | some target => profile.triggerKinds target
  | none => .all

/-- A kind of trigger is exactly one bit, which is supported. -/
def Admits (profile : Profile) (inlet : TriggerInlet) (kind : Flags .trigger) : Prop :=
  ∃ bit, (∀ other, kind.has other = true ↔ other = bit) ∧
    (inlet.supported profile).has bit = true

/-- What is named when a trigger is set is there.  Only timers are told by their number. -/
def IsThere (profile : Profile) (inlet : TriggerInlet) : Prop :=
  ∀ timer ∈ inlet.timer?, 0 ≤ timer ∧ timer < profile.integerD .timer Item.Timer.count 0 0

instance (profile : Profile) (inlet : TriggerInlet) : Decidable (inlet.IsThere profile) :=
  inferInstanceAs (Decidable (∀ timer ∈ inlet.timer?, _ ∧ _))

/-- The operation that sets a trigger. -/
def operation (trigger : Trigger) : TriggerInlet → Operation Unit
  | part target channel => .setTrigger target channel trigger
  | syncIn channel => .setSyncInTrigger channel trigger
  | syncOut channel => .setSyncOutTrigger channel trigger

/-- The request that sets a trigger. -/
def request (handle : Handle) (trigger : Trigger) : TriggerInlet → Request Unit
  | part target channel => .setTrigger handle target channel trigger
  | syncIn channel => .setSyncInTrigger handle channel trigger
  | syncOut channel => .setSyncOutTrigger handle channel trigger

/-- What setting a trigger does to a device. -/
def set (trigger : Trigger) (inlet : TriggerInlet) (device : Instrument) :
    Except Error Instrument :=
  match inlet with
  | part target channel => device.setTrigger target channel trigger
  | syncIn channel => device.setSyncInTrigger channel trigger
  | syncOut channel => device.setSyncOutTrigger channel trigger

variable {inlet : TriggerInlet} {device made : Instrument} {trigger : Trigger}
  {profile : Profile} {kind : Flags .trigger}

/-- A trigger is for the scans of a part, or for a timer. -/
theorem target_or_timer (inlet : TriggerInlet) :
    (∃ target, inlet.target? = some target ∧ inlet.timer? = none) ∨
      ∃ timer, inlet = .part .timer timer := by
  cases inlet with
  | part part channel =>
      cases part with
      | timer => exact .inr ⟨channel, rfl⟩
      | _ => exact .inl ⟨_, rfl, rfl⟩
  | syncIn | syncOut => exact .inl ⟨_, rfl, rfl⟩

/-- A kind is admitted if it is single and supported. -/
theorem admits_iff :
    inlet.Admits profile kind ↔
      kind.isSingle = true ∧ (inlet.supported profile).contains kind = true := by
  rw [Flags.isSingle_iff, Flags.contains_iff, Admits]
  constructor
  · rintro ⟨bit, single, there⟩
    refine ⟨⟨bit, single⟩, fun other own => ?_⟩
    rwa [(single other).mp own]
  · rintro ⟨⟨bit, single⟩, whole⟩
    exact ⟨bit, single, whole bit ((single bit).mpr rfl)⟩

instance : Decidable (inlet.Admits profile kind) :=
  decidable_of_iff _ admits_iff.symm

/-- A trigger that is admitted has a kind. -/
theorem Admits.isEmpty (admits : inlet.Admits profile kind) : kind.isEmpty = false := by
  obtain ⟨bit, single, _⟩ := admits
  exact Flags.isEmpty_eq_false_iff.mpr ⟨bit, (single bit).mpr rfl⟩

/-- A timer admits the named flags. -/
theorem admits_timer_iff (timer : Int) :
    (part .timer timer).Admits profile kind ↔ kind ∈ Flags.declared .trigger :=
  Flags.mem_declared_iff.symm

/-! ## What is accepted -/

/-- The kind of a trigger passes the check of a part if the part admits it. -/
theorem checkTrigger_eq {target : ScanTarget} (own : inlet.target? = some target) :
    Instrument.checkTrigger (profile.triggerKinds target) trigger =
      if inlet.Admits profile trigger.kind then .ok () else .error .badTrigType := by
  simp only [Instrument.checkTrigger, admits_iff, supported, own, Bool.and_eq_true]

/-- Where a trigger starts a scan, its kind is checked first, and it is kept at last. -/
theorem set_of_target? {target : ScanTarget} (own : inlet.target? = some target)
    (trigger : Trigger) (device : Instrument) :
    ∃ channel : Except Error Unit, inlet.set trigger device = (do
      Instrument.checkTrigger (device.profile.triggerKinds target) trigger
      channel
      return { device with trigger := some trigger }) := by
  have synchronous : ∀ (target : ScanTarget) channel,
      device.setSyncTrigger target channel trigger = (do
        Instrument.checkTrigger (device.profile.triggerKinds target) trigger
        (device.syncInColumn channel).map fun _ => ()
        return { device with trigger := some trigger }) := by
    intro target channel
    unfold Instrument.setSyncTrigger
    cases device.syncInColumn channel <;> rfl
  cases inlet with
  | part part channel =>
      refine ⟨.ok (), ?_⟩
      cases part with
      | timer => contradiction
      | _ =>
          obtain rfl := Option.some.inj own
          rfl
  | syncIn channel | syncOut channel =>
      obtain rfl := Option.some.inj own
      exact ⟨_, synchronous _ channel⟩

/-- A timer is looked up first, and takes what is not empty. -/
theorem set_timer (timer : Int) (trigger : Trigger) (device : Instrument) :
    (part .timer timer).set trigger device = (do
      device.checkTimer timer
      if trigger.kind.isEmpty then .error .badTrigType
      else .ok { device with trigger := some trigger }) := by
  simp only [set, Instrument.setTrigger, Instrument.checkTriggerFor]
  cases device.checkTimer timer with
  | error error => rfl
  | ok checked => cases trigger.kind.isEmpty <;> rfl

/-- A kind of trigger is one that is taken: on a timer whatever is not empty, elsewhere what is
admitted. -/
structure Takes (profile : Profile) (inlet : TriggerInlet) (kind : Flags .trigger) : Prop where
  nonempty : kind.isEmpty = false
  admits : inlet.isTimer = false → inlet.Admits profile kind

/-- A trigger that is accepted is kept, and one that is taken. -/
theorem taken_of_set (done : inlet.set trigger device = .ok made) :
    made = { device with trigger := some trigger } ∧ inlet.Takes device.profile trigger.kind := by
  rcases inlet.target_or_timer with ⟨target, own, _⟩ | ⟨timer, rfl⟩
  · obtain ⟨channel, sets⟩ := set_of_target? own trigger device
    rw [sets, checkTrigger_eq own] at done
    obtain ⟨_, checked, done⟩ := bind_eq_ok_iff.mp done
    obtain ⟨_, _, done⟩ := bind_eq_ok_iff.mp done
    split at checked
    · next admits => exact ⟨(pure_eq_ok_iff.mp done).symm, admits.isEmpty, fun _ => admits⟩
    · contradiction
  · rw [set_timer] at done
    obtain ⟨_, _, done⟩ := bind_eq_ok_iff.mp done
    split at done
    · contradiction
    · next filled => exact ⟨(Except.ok.inj done).symm, Bool.eq_false_iff.mpr filled, nofun⟩

/-- A trigger of a kind that is not admitted is refused for it, but on a timer if it has any. -/
theorem set_of_unfit (unfit : ¬inlet.Admits device.profile trigger.kind)
    (there : inlet.IsThere device.profile) :
    inlet.set trigger device =
      if inlet.isTimer && !trigger.kind.isEmpty then .ok { device with trigger := some trigger }
      else .error .badTrigType := by
  rcases inlet.target_or_timer with ⟨target, own, untimed⟩ | ⟨timer, rfl⟩
  · obtain ⟨channel, sets⟩ := set_of_target? own trigger device
    rw [sets, checkTrigger_eq own, if_neg unfit, isTimer, untimed]
    rfl
  · obtain ⟨low, high⟩ := there timer rfl
    have counted : device.checkTimer timer = .ok () :=
      if_neg (not_or.mpr ⟨Int.not_lt.mpr low, Int.not_le.mpr high⟩)
    rw [set_timer, counted]
    cases trigger.kind.isEmpty <;> rfl

end TriggerInlet

end Acquisition
