import Acquisition.Device.Setting
import Acquisition.Proofs.Answer
import Acquisition.Proofs.Bits

/-!
# Settings of one device

A device keeps what a setting was made last under the item and the channel of the setting, and no
two settings share them (`AnalogSetting.meets`).  So making one setting leaves what is kept of the
others alone (`AnalogSetting.holds_of_make`), and what a device tells of a setting is what it keeps,
or the default (`AnalogSetting.tell_of_holds`).  Only a kind of channel may be kept that cannot be
told, because its flag has no name.
-/

namespace Acquisition

/-- A channel measures a voltage. -/
def AnalogChannel.voltage : Flags .analogChannel :=
  ⟨0x1⟩

namespace AnalogSetting

variable {α β : Type}

/-- The channel that a setting belongs to, unless it belongs to the device. -/
def channel? : AnalogSetting α → Option Nat
  | .channelKind channel | .thermocouple channel | .channelTemperatureUnit channel
  | .excitation channel | .coupling channel | .sensitivity channel | .slope channel
  | .offset channel => some channel
  | .temperatureUnit | .converterTiming | .autoZero => none

/-- What a setting is before it is made. -/
def default : AnalogSetting α → α
  | .channelKind _ => AnalogChannel.voltage
  | .thermocouple _ => .j
  | .channelTemperatureUnit _ | .temperatureUnit => .celsius
  | .converterTiming => .auto
  | .autoZero => .never
  | .excitation _ => .disabled
  | .coupling _ => .dc
  | .sensitivity _ | .slope _ => 1
  | .offset _ => 0

/-- What a setting with a value is told as: the value, but for a kind of channel without a name. -/
def told : AnalogSetting α → α → Except Error α
  | .channelKind _, kind =>
      if Flags.isKnown kind then .ok kind
      else .error (.unknownValue Family.analogChannel.typeName (Flags.bits kind).toNat)
  | _, value => .ok value

/-- The value that a setting gets when one is made. -/
def gets? : AnalogSetting α → AnalogSetting β → β → Option α
  | .channelKind channel, .channelKind other, kind => if other = channel then some kind else none
  | .thermocouple channel, .thermocouple other, kind =>
      if other = channel then some kind else none
  | .channelTemperatureUnit channel, .channelTemperatureUnit other, unit =>
      if other = channel then some unit else none
  | .temperatureUnit, .temperatureUnit, unit => some unit
  | .converterTiming, .converterTiming, timing => some timing
  | .autoZero, .autoZero, mode => some mode
  | .excitation channel, .excitation other, mode => if other = channel then some mode else none
  | .coupling channel, .coupling other, mode => if other = channel then some mode else none
  | .sensitivity channel, .sensitivity other, value =>
      if other = channel then some value else none
  | .slope channel, .slope other, value => if other = channel then some value else none
  | .offset channel, .offset other, value => if other = channel then some value else none
  | _, _, _ => none

/-! ## Where a setting is kept -/

/-- Where a device keeps a setting. -/
def key (setting : AnalogSetting α) : Int × Nat :=
  (setting.item, setting.channel)

theorem settingKey_eq_key (setting : AnalogSetting α) :
    Instrument.settingKey setting.item setting.channel = setting.key := by
  cases setting <;> rfl

/-- Two settings are the same or kept apart. -/
inductive Meets : {α β : Type} → AnalogSetting α → AnalogSetting β → Prop
  | same {α : Type} (setting : AnalogSetting α) : Meets setting setting
  | apart {α β : Type} {setting : AnalogSetting α} {other : AnalogSetting β}
      (keys : setting.key ≠ other.key) (gets : ∀ value, setting.gets? other value = none) :
      Meets setting other

theorem meets (setting : AnalogSetting α) (other : AnalogSetting β) : setting.Meets other := by
  have unlike {α β : Type} {setting : AnalogSetting α} {other : AnalogSetting β}
      (items : setting.item ≠ other.item) (gets : ∀ value, setting.gets? other value = none) :
      setting.Meets other := .apart (fun keys => items (congrArg Prod.fst keys)) gets
  cases setting <;> cases other <;>
    first
    | exact .same _
    | exact unlike (by simp only [item]; decide) fun _ => rfl
    | skip
  -- The settings of one kind on two channels are left.
  all_goals
    rename_i channel other
    by_cases same : other = channel
    · subst same
      exact .same _
    · exact .apart (fun keys => same (congrArg Prod.snd keys).symm) fun _ => if_neg same

@[simp]
theorem gets?_self (setting : AnalogSetting α) (value : α) :
    setting.gets? setting value = some value := by
  cases setting <;> simp [gets?]

end AnalogSetting

/-! ## Making and telling -/

namespace Instrument

variable {device after : Instrument} {item : Int} {index : Nat}

/-- A device has the channel of a setting, if it has one. -/
def HasChannel {α : Type} (device : Instrument) (setting : AnalogSetting α) : Prop :=
  ∀ channel ∈ setting.channel?,
    (channel : Int) < device.profile.integerD .analogIn Item.AnalogIn.channelCount 0 0

/-- The tables of the settings that were made on a device. -/
def made (device : Instrument) : Table (Int × Nat) Int × Table (Int × Nat) Float :=
  (device.settings, device.realSettings)

/-- No setting has changed but the one that is kept under a key, and nothing else. -/
def Sets (key : Int × Nat) (before after : Instrument) : Prop :=
  ∃ settings realSettings, after = { before with settings, realSettings } ∧
    ∀ other, other ≠ key → settings.get? other = before.settings.get? other ∧
      realSettings.get? other = before.realSettings.get? other

theorem sets_of_setSetting {value : Int} (done : device.setSetting item index value = .ok after) :
    after.settings.get? (settingKey item index) = some value ∧
      device.Sets (settingKey item index) after := by
  simp only [setSetting, bind_eq_ok_iff, pure_eq_ok_iff] at done
  obtain ⟨_, _, _, _, rfl⟩ := done
  exact ⟨Table.get?_set_self _ _ _, _, _, rfl,
    fun key other => ⟨Table.get?_set_of_ne _ other _, rfl⟩⟩

/-- Only single flags are accepted as kinds of channels. -/
theorem isSingle_of_setSetting {kind : Flags .analogChannel}
    (done : device.setSetting Item.AnalogInSetting.channelKind index kind.bits.toNat = .ok after) :
    kind.isSingle = true := by
  simp only [setSetting, checkSetting, bind_eq_ok_iff, if_pos] at done
  obtain ⟨_, _, _, checked, _⟩ := done
  split at checked
  · next accepted =>
      simp only [isChannelKind, Flags.ofInt_toNat, Bool.and_eq_true] at accepted
      exact accepted.1.2
  · cases checked

theorem sets_of_setRealSetting {value : Float}
    (done : device.setRealSetting item index value = .ok after) :
    after.realSettings.get? (item, index) = some value ∧ device.Sets (item, index) after := by
  unfold setRealSetting at done
  split at done
  · contradiction
  · simp only [bind_eq_ok_iff, pure_eq_ok_iff] at done
    obtain ⟨_, _, _, _, rfl⟩ := done
    exact ⟨Table.get?_set_self _ _ _, _, _, rfl,
      fun key other => ⟨rfl, Table.get?_set_of_ne _ other _⟩⟩

end Instrument

namespace AnalogSetting

variable {α β : Type}

/-- What making a setting does to a device. -/
def make (setting : AnalogSetting α) (value : α) (device : Instrument) :
    Except Error Instrument :=
  match setting with
  | .channelKind _ => device.setSetting setting.item setting.channel (Flags.bits value).toNat
  | .thermocouple _ | .channelTemperatureUnit _ | .temperatureUnit | .converterTiming
  | .autoZero | .excitation _ | .coupling _ =>
      device.setSetting setting.item setting.channel (Coded.code value : Nat)
  | .sensitivity _ | .slope _ | .offset _ =>
      device.setRealSetting setting.item setting.channel value

/-- What a device tells of a setting. -/
def tell (setting : AnalogSetting α) (device : Instrument) : Except Error α :=
  match setting with
  | .channelKind _ => device.setting setting.item setting.channel >>= readFlag
  | .thermocouple _ | .channelTemperatureUnit _ | .temperatureUnit | .converterTiming
  | .autoZero | .excitation _ | .coupling _ =>
      device.setting setting.item setting.channel >>= Coded.ofCode
  | .sensitivity _ | .slope _ | .offset _ => device.realSetting setting.item setting.channel

/-- A device keeps a value of a setting, or none if it was never made.  A kind of channel is a
single flag. -/
def Holds (setting : AnalogSetting α) (device : Instrument) (value? : Option α) : Prop :=
  match setting with
  | .channelKind _ =>
      (device.settings.get? setting.key = value?.map fun kind => ((Flags.bits kind).toNat : Int)) ∧
        ∀ kind ∈ value?, Flags.isSingle kind = true
  | .thermocouple _ | .channelTemperatureUnit _ | .temperatureUnit | .converterTiming
  | .autoZero | .excitation _ | .coupling _ =>
      device.settings.get? setting.key = value?.map fun value => (Coded.code value : Int)
  | .sensitivity _ | .slope _ | .offset _ => device.realSettings.get? setting.key = value?

section Made

variable {setting : AnalogSetting α} {device after : Instrument}

/-- What a device keeps of a setting is in its tables, under the key of the setting. -/
theorem Holds.congr {value? : Option α} (holds : setting.Holds device value?)
    (settings : after.settings.get? setting.key = device.settings.get? setting.key)
    (realSettings : after.realSettings.get? setting.key = device.realSettings.get? setting.key) :
    setting.Holds after value? := by
  cases setting with
  | channelKind => exact ⟨settings.trans holds.1, holds.2⟩
  | sensitivity | slope | offset => exact realSettings.trans holds
  | _ => exact settings.trans holds

/-- What a device keeps of a setting is in the tables of the settings that were made. -/
theorem Holds.of_made {value? : Option α} (same : after.made = device.made)
    (holds : setting.Holds device value?) : setting.Holds after value? := by
  obtain ⟨settings, realSettings⟩ := Prod.mk.inj same
  exact holds.congr (by rw [settings]) (by rw [realSettings])

/-- No setting has been made on a device that has just been opened. -/
theorem Holds.initial {descriptor : Descriptor} {profile : Profile} :
    setting.Holds (Instrument.initial descriptor profile) none := by
  cases setting with
  | channelKind => exact ⟨rfl, nofun⟩
  | _ => rfl

/-- Making a setting changes what is kept under its key, and nothing else. -/
theorem sets_of_make {value : α} (done : setting.make value device = .ok after) :
    setting.Holds after (some value) ∧ device.Sets setting.key after := by
  cases setting with
  | channelKind =>
      obtain ⟨held, sets⟩ := Instrument.sets_of_setSetting done
      refine ⟨⟨held, fun kind given => ?_⟩, sets⟩
      exact Option.some.inj given ▸ Instrument.isSingle_of_setSetting done
  | sensitivity | slope | offset => exact Instrument.sets_of_setRealSetting done
  | _ => exact Instrument.sets_of_setSetting done

/-- What a device keeps of a setting once one has been made. -/
theorem holds_of_make {other : AnalogSetting β} {value : β} {value? : Option α}
    (holds : setting.Holds device value?) (done : other.make value device = .ok after) :
    setting.Holds after ((setting.gets? other value).or value?) := by
  obtain ⟨held, settings, realSettings, rfl, kept⟩ := sets_of_make done
  cases setting.meets other with
  | same =>
      rw [gets?_self]
      exact held
  | apart keys gets =>
      rw [gets]
      exact holds.congr (kept _ keys).1 (kept _ keys).2

end Made

/-! ## Telling -/

/-- A single flag is read back if it has a name. -/
theorem readFlag_of_isSingle {family : Family} {flag : Flags family} (single : flag.isSingle = true) :
    readFlag (flag.bits.toNat : Int) =
      if flag.isKnown then .ok flag
      else .error (.unknownValue family.typeName flag.bits.toNat) := by
  have small : 0 ≤ (flag.bits.toNat : Int) ∧ (flag.bits.toNat : Int) < 4294967296 := by
    have small := flag.bits.toNat_lt
    omega
  rw [readFlag, Flags.single?, if_pos small]
  simp only [Flags.ofInt_toNat, single, Bool.true_and]
  cases flag.isKnown <;> rfl

section Told

variable {setting : AnalogSetting α} {device : Instrument} {value? : Option α}

/-- A device tells the code of an integer setting that it keeps, or that of the default. -/
theorem setting_eq (there : device.HasChannel setting)
    (plain : setting.item ≠ Item.AnalogInSetting.calibrationDate) {default : Int}
    (known : Instrument.settingDefault? setting.item = some default) :
    device.setting setting.item setting.channel =
      .ok ((device.settings.get? setting.key).getD default) := by
  have indexed : device.checkSettingIndex setting.item setting.channel = .ok () := by
    cases setting with
    | temperatureUnit | converterTiming | autoZero => rfl
    | _ => exact if_pos (there _ rfl)
  rw [Instrument.setting, indexed, known, ← settingKey_eq_key]
  exact if_neg plain

/-- The code of a value is read back as the value. -/
theorem ofCode_of_kept [Coded α] (reads : ∀ value : α, Coded.ofCode (Coded.code value) = .ok value)
    {code? : Option Int} (kept : code? = value?.map fun value => (Coded.code value : Int))
    (default : α) :
    (Except.ok (code?.getD (Coded.code default)) >>= Coded.ofCode) =
      .ok (value?.getD default) := by
  subst kept
  cases value? <;> exact reads _

/-- What a device tells of a setting is what it keeps, or the default. -/
theorem tell_of_holds (there : device.HasChannel setting) (holds : setting.Holds device value?) :
    setting.tell device = setting.told (value?.getD setting.default) := by
  cases setting with
  | channelKind channel =>
      obtain ⟨kept, single⟩ := holds
      change device.setting _ _ >>= readFlag = _
      rw [setting_eq there (by simp only [item]; decide) rfl]
      change readFlag ((device.settings.get? _).getD _) = _
      rw [kept]
      cases value? with
      | none =>
          have bits : (AnalogChannel.voltage.bits.toNat : Int) = 1 := by decide
          have single : AnalogChannel.voltage.isSingle = true := by decide +kernel
          change readFlag 1 = _
          rw [← bits]
          exact readFlag_of_isSingle single
      | some kind => exact readFlag_of_isSingle (single kind rfl)
  | sensitivity channel | slope channel | offset channel =>
      have indexed : device.checkSettingChannel channel = .ok () := if_pos (there channel rfl)
      change (device.checkSettingChannel channel >>= fun _ => pure _) = _
      rw [indexed]
      exact congrArg (fun value : Option Float => Except.ok (value.getD _)) holds
  | _ =>
      have told := setting_eq there (by simp only [item]; decide) rfl
      change device.setting _ _ >>= Coded.ofCode = _
      rw [told]
      exact ofCode_of_kept (by intro value; cases value <;> rfl) holds _

end Told

/-- Making a setting changes nothing that is told of another. -/
theorem tell_of_sets {setting : AnalogSetting α} {other : AnalogSetting β}
    {device after : Instrument} (sets : device.Sets other.key after)
    (keys : setting.key ≠ other.key) : setting.tell after = setting.tell device := by
  obtain ⟨settings, realSettings, rfl, kept⟩ := sets
  obtain ⟨same, sameReal⟩ := kept _ keys
  rw [← settingKey_eq_key] at same
  cases setting with
  | sensitivity channel | slope channel | offset channel =>
      exact congrArg (fun value? : Option Float =>
        device.checkSettingChannel channel >>= fun _ => pure (value?.getD _)) sameReal
  | _ =>
      refine congrArg (· >>= _) ?_
      change (device.checkSettingIndex _ _ >>= fun _ => pure ((settings.get? _).getD _)) = _
      rw [same]
      rfl

end AnalogSetting

end Acquisition
