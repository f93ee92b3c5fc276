import Acquisition.Coded.Analog
import Acquisition.Instrument.Check

/-!
# Settings of the analog inputs

A setting belongs to one channel or to the whole device; a setting of the device
is kept under channel zero whatever index it is addressed by.  A setting that
was never made has a default.
-/

namespace Acquisition.Instrument

open Item.AnalogInSetting

/-- Whether a setting belongs to the whole device. -/
def isDeviceWide (item : Int) : Bool :=
  [temperatureUnit, converterTiming, autoZero, calibrationDate].contains item

/-- The default of an integer setting. -/
def settingDefault? (item : Int) : Option Int :=
  if item = channelKind then some 1
  else if item = thermocouple then some (Coded.code Thermocouple.j)
  else if item = channelTemperatureUnit ∨ item = temperatureUnit then
    some (Coded.code TemperatureUnit.celsius)
  else if item = converterTiming then some (Coded.code ConverterTiming.auto)
  else if item = autoZero then some (Coded.code AutoZero.never)
  else if item = excitation then some (Coded.code Excitation.disabled)
  else if item = coupling then some (Coded.code Coupling.dc)
  else none

/-- The default of a real setting. -/
def realSettingDefault? (item : Int) : Option Float :=
  if item = slope ∨ item = sensitivity then some 1
  else if item = offset then some 0
  else none

/-- Where a setting is kept. -/
def settingKey (item : Int) (index : Nat) : Int × Nat :=
  (item, if isDeviceWide item then 0 else index)

/-- Accept the channel of a setting, unless it belongs to the whole device. -/
def checkSettingIndex (instrument : Instrument) (item : Int) (index : Nat) : Except Error Unit :=
  if isDeviceWide item then .ok () else instrument.checkSettingChannel index

/-- Accept a code of a closed set. -/
def checkCode (α : Type) [Coded α] (value : Int) (refusal : Error) : Except Error Unit :=
  if (Coded.ofCode? value : Option α).isSome then .ok () else .error refusal

/-- Whether a value is exactly one of the kinds that channels can measure. -/
def isChannelKind (instrument : Instrument) (value : Int) : Bool :=
  let supported : Flags .analogChannel :=
    instrument.profile.mask .analogIn Item.AnalogIn.channelKinds 0
  let kind : Flags .analogChannel := .ofInt value
  0 ≤ value && value < 4294967296 && kind.isSingle && supported.contains kind

/-- Accept the value of an integer setting. -/
def checkSetting (instrument : Instrument) (item value : Int) : Except Error Unit :=
  if item = channelKind then
    if instrument.isChannelKind value then .ok () else .error .badAiChanType
  else if item = thermocouple then checkCode Thermocouple value .badTcType
  else if item = channelTemperatureUnit ∨ item = temperatureUnit then
    checkCode TemperatureUnit value .badUnit
  else if item = converterTiming then checkCode ConverterTiming value .badConfigVal
  else if item = autoZero then checkCode AutoZero value .badConfigVal
  else if item = excitation then checkCode Excitation value .badIepeMode
  else if item = coupling then checkCode Coupling value .badCouplingMode
  else if item = calibrationDate then .error .configNotSupported
  else .error .badConfigItem

/-- Make an integer setting. -/
def setSetting (instrument : Instrument) (item : Int) (index : Nat) (value : Int) :
    Except Error Instrument := do
  instrument.checkSettingIndex item index
  instrument.checkSetting item value
  return { instrument with settings := instrument.settings.set (settingKey item index) value }

/-- An integer setting. -/
def setting (instrument : Instrument) (item : Int) (index : Nat) : Except Error Int := do
  instrument.checkSettingIndex item index
  if item = calibrationDate then
    return instrument.profile.calibrationDate
  else
    match settingDefault? item with
    | some default => return instrument.settings.getD (settingKey item index) default
    | none => .error .badConfigItem

/-- Accept the value of a real setting. -/
def checkRealSetting (item : Int) (value : Float) : Except Error Unit :=
  if !value.isFinite then .error .badConfigVal
  else if item = sensitivity ∧ value ≤ 0 then .error .badSensorSensitivity
  else .ok ()

/-- Make a real setting. -/
def setRealSetting (instrument : Instrument) (item : Int) (index : Nat) (value : Float) :
    Except Error Instrument :=
  match realSettingDefault? item with
  | none => .error .badConfigItem
  | some _ => do
      instrument.checkSettingChannel index
      checkRealSetting item value
      return { instrument with realSettings := instrument.realSettings.set (item, index) value }

/-- A real setting. -/
def realSetting (instrument : Instrument) (item : Int) (index : Nat) : Except Error Float :=
  match realSettingDefault? item with
  | none => .error .badConfigItem
  | some default => do
      instrument.checkSettingChannel index
      return instrument.realSettings.getD (item, index) default

/-- A text setting. -/
def textSetting (instrument : Instrument) (item : Int) : Except Error String :=
  if item = calibrationText then .ok instrument.profile.calibrationText
  else .error .badConfigItem

/-- The mask of output bits of the port at a position, as a signed reading. -/
def portSetting (instrument : Instrument) (item : Int) (index : Nat) : Except Error Int :=
  if item = Item.DigitalSetting.directionMask then
    match instrument.ports[index]? with
    | some port => .ok port.outputs.toInt64.toInt
    | none => .error .badPortType
  else .error .badConfigItem

end Acquisition.Instrument
