import Acquisition.World

/-!
# Settings that a caller makes

Each setting of the analog inputs has a type of value.  Its item and index are
where the driver keeps it, and its value travels as an integer or a real number.
-/

namespace Acquisition

/-- Settings of the analog inputs by the type of their value. -/
inductive AnalogSetting : Type → Type where
  | channelKind (channel : Nat) : AnalogSetting (Flags .analogChannel)
  | thermocouple (channel : Nat) : AnalogSetting Thermocouple
  | channelTemperatureUnit (channel : Nat) : AnalogSetting TemperatureUnit
  | temperatureUnit : AnalogSetting TemperatureUnit
  | converterTiming : AnalogSetting ConverterTiming
  | autoZero : AnalogSetting AutoZero
  | excitation (channel : Nat) : AnalogSetting Excitation
  | coupling (channel : Nat) : AnalogSetting Coupling
  | sensitivity (channel : Nat) : AnalogSetting Float
  | slope (channel : Nat) : AnalogSetting Float
  | offset (channel : Nat) : AnalogSetting Float

namespace AnalogSetting

variable {α : Type}

/-- The item of a setting. -/
def item : AnalogSetting α → Int
  | .channelKind _ => Item.AnalogInSetting.channelKind
  | .thermocouple _ => Item.AnalogInSetting.thermocouple
  | .channelTemperatureUnit _ => Item.AnalogInSetting.channelTemperatureUnit
  | .temperatureUnit => Item.AnalogInSetting.temperatureUnit
  | .converterTiming => Item.AnalogInSetting.converterTiming
  | .autoZero => Item.AnalogInSetting.autoZero
  | .excitation _ => Item.AnalogInSetting.excitation
  | .coupling _ => Item.AnalogInSetting.coupling
  | .sensitivity _ => Item.AnalogInSetting.sensitivity
  | .slope _ => Item.AnalogInSetting.slope
  | .offset _ => Item.AnalogInSetting.offset

/-- The channel of a setting; a setting of the device is kept under channel zero. -/
def channel : AnalogSetting α → Nat
  | .channelKind channel | .thermocouple channel | .channelTemperatureUnit channel
  | .excitation channel | .coupling channel | .sensitivity channel | .slope channel
  | .offset channel => channel
  | .temperatureUnit | .converterTiming | .autoZero => 0

/-- The request that makes a setting of an integer. -/
def integerRequest (setting : AnalogSetting α) (handle : Handle) (value : Nat) : Request Unit :=
  .setSetting handle setting.item setting.channel value

/-- The request that makes a setting. -/
def request (setting : AnalogSetting α) (handle : Handle) (value : α) : Request Unit :=
  match setting with
  | .channelKind _ => setting.integerRequest handle (Flags.bits value).toNat
  | .thermocouple _ | .channelTemperatureUnit _ | .temperatureUnit | .converterTiming
  | .autoZero | .excitation _ | .coupling _ => setting.integerRequest handle (Coded.code value)
  | .sensitivity _ | .slope _ | .offset _ =>
      .setRealSetting handle setting.item setting.channel value

/-- The flag that a reading stands for when it is exactly one, or a refusal that names
the family. -/
def readFlag {family : Family} (reading : Int) : Except Error (Flags family) :=
  match Flags.single? reading with
  | some flag => .ok flag
  | none => .error (.unknownValue family.typeName reading)

/-- Ask over the link how a setting of integers is made. -/
def currentInteger (setting : AnalogSetting α) (handle : Handle) : Act Int :=
  Act.send (.setting handle setting.item setting.channel)

/-- Ask over the link how a setting is made. -/
def current (setting : AnalogSetting α) (handle : Handle) : Act α :=
  match setting with
  | .channelKind _ => do Act.resume (readFlag (← setting.currentInteger handle))
  | .thermocouple _ | .channelTemperatureUnit _ | .temperatureUnit | .converterTiming
  | .autoZero | .excitation _ | .coupling _ => do
      Act.resume (Coded.ofCode (← setting.currentInteger handle))
  | .sensitivity _ | .slope _ | .offset _ =>
      Act.send (.realSetting handle setting.item setting.channel)

end AnalogSetting

end Acquisition
