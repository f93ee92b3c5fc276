import Acquisition.Coded

/-!
# Settings of analog channels
-/

namespace Acquisition

/-- How an analog input is wired. -/
inductive InputMode where
  | differential
  | singleEnded
  | pseudoDifferential
  deriving DecidableEq, Repr

instance : Coded InputMode where
  typeName := "AiInputMode"
  all :=
    [.differential, .singleEnded, .pseudoDifferential]
  label
    | .differential => (1, "Differential")
    | .singleEnded => (2, "SingleEnded")
    | .pseudoDifferential => (3, "PseudoDifferential")

/-- Thermocouple types. -/
inductive Thermocouple where
  | j
  | k
  | t
  | e
  | r
  | s
  | b
  | n
  deriving DecidableEq, Repr

instance : Coded Thermocouple where
  typeName := "TcType"
  all :=
    [.j, .k, .t, .e, .r, .s, .b, .n]
  label
    | .j => (1, "J")
    | .k => (2, "K")
    | .t => (3, "T")
    | .e => (4, "E")
    | .r => (5, "R")
    | .s => (6, "S")
    | .b => (7, "B")
    | .n => (8, "N")

/-- Temperature units of a channel or a device. -/
inductive TemperatureUnit where
  | celsius
  | fahrenheit
  | kelvin
  deriving DecidableEq, Repr

instance : Coded TemperatureUnit where
  typeName := "TempUnit"
  all :=
    [.celsius, .fahrenheit, .kelvin]
  label
    | .celsius => (1, "Celsius")
    | .fahrenheit => (2, "Fahrenheit")
    | .kelvin => (3, "Kelvin")

/-- Scales that returned temperatures are given in. -/
inductive TemperatureScale where
  | celsius
  | fahrenheit
  | kelvin
  | volts
  | noScale
  deriving DecidableEq, Repr

instance : Coded TemperatureScale where
  typeName := "TempScale"
  all :=
    [.celsius, .fahrenheit, .kelvin, .volts, .noScale]
  label
    | .celsius => (1, "Celsius")
    | .fahrenheit => (2, "Fahrenheit")
    | .kelvin => (3, "Kelvin")
    | .volts => (4, "Volts")
    | .noScale => (5, "NoScale")

/-- When a converter corrects its zero. -/
inductive AutoZero where
  | never
  | everySample
  | once
  deriving DecidableEq, Repr

instance : Coded AutoZero where
  typeName := "AutoZeroMode"
  all :=
    [.never, .everySample, .once]
  label
    | .never => (1, "None")
    | .everySample => (2, "EverySample")
    | .once => (3, "Once")

/-- Whether a converter favours resolution or speed. -/
inductive ConverterTiming where
  | auto
  | highRes
  | highSpeed
  deriving DecidableEq, Repr

instance : Coded ConverterTiming where
  typeName := "AdcTimingMode"
  all :=
    [.auto, .highRes, .highSpeed]
  label
    | .auto => (1, "Auto")
    | .highRes => (2, "HighRes")
    | .highSpeed => (3, "HighSpeed")

/-- Whether a sensor on a channel is supplied with current. -/
inductive Excitation where
  | disabled
  | enabled
  deriving DecidableEq, Repr

instance : Coded Excitation where
  typeName := "IepeMode"
  all :=
    [.disabled, .enabled]
  label
    | .disabled => (1, "Disabled")
    | .enabled => (2, "Enabled")

/-- How a channel is coupled to its input. -/
inductive Coupling where
  | dc
  | ac
  deriving DecidableEq, Repr

instance : Coded Coupling where
  typeName := "CouplingMode"
  all :=
    [.dc, .ac]
  label
    | .dc => (1, "Dc")
    | .ac => (2, "Ac")

end Acquisition
