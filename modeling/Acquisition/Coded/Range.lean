import Acquisition.Coded

/-!
# Voltage ranges

A range is bipolar, from minus its full scale to plus it, or unipolar, from zero
to its full scale.
-/

namespace Acquisition

/-- Voltage ranges of analog inputs and outputs. -/
inductive Range where
  | bip60Volts
  | bip30Volts
  | bip15Volts
  | bip20Volts
  | bip10Volts
  | bip5Volts
  | bip4Volts
  | bip2Pt5Volts
  | bip2Volts
  | bip1Pt25Volts
  | bip1Volts
  | bipPt625Volts
  | bipPt5Volts
  | bipPt25Volts
  | bipPt125Volts
  | bipPt2Volts
  | bipPt1Volts
  | bipPt078Volts
  | bipPt05Volts
  | bipPt01Volts
  | bipPt005Volts
  | uni60Volts
  | uni30Volts
  | uni15Volts
  | uni20Volts
  | uni10Volts
  | uni5Volts
  | uni4Volts
  | uni2Pt5Volts
  | uni2Volts
  | uni1Pt25Volts
  | uni1Volts
  | uniPt625Volts
  | uniPt5Volts
  | uniPt25Volts
  | uniPt125Volts
  | uniPt2Volts
  | uniPt1Volts
  | uniPt078Volts
  | uniPt05Volts
  | uniPt01Volts
  | uniPt005Volts
  deriving DecidableEq, Repr

instance : Coded Range where
  typeName := "Range"
  all :=
    [.bip60Volts, .bip30Volts, .bip15Volts, .bip20Volts, .bip10Volts, .bip5Volts, .bip4Volts,
     .bip2Pt5Volts, .bip2Volts, .bip1Pt25Volts, .bip1Volts, .bipPt625Volts, .bipPt5Volts,
     .bipPt25Volts, .bipPt125Volts, .bipPt2Volts, .bipPt1Volts, .bipPt078Volts, .bipPt05Volts,
     .bipPt01Volts, .bipPt005Volts, .uni60Volts, .uni30Volts, .uni15Volts, .uni20Volts,
     .uni10Volts, .uni5Volts, .uni4Volts, .uni2Pt5Volts, .uni2Volts, .uni1Pt25Volts, .uni1Volts,
     .uniPt625Volts, .uniPt5Volts, .uniPt25Volts, .uniPt125Volts, .uniPt2Volts, .uniPt1Volts,
     .uniPt078Volts, .uniPt05Volts, .uniPt01Volts, .uniPt005Volts]
  label
    | .bip60Volts => (1, "Bip60Volts")
    | .bip30Volts => (2, "Bip30Volts")
    | .bip15Volts => (3, "Bip15Volts")
    | .bip20Volts => (4, "Bip20Volts")
    | .bip10Volts => (5, "Bip10Volts")
    | .bip5Volts => (6, "Bip5Volts")
    | .bip4Volts => (7, "Bip4Volts")
    | .bip2Pt5Volts => (8, "Bip2Pt5Volts")
    | .bip2Volts => (9, "Bip2Volts")
    | .bip1Pt25Volts => (10, "Bip1Pt25Volts")
    | .bip1Volts => (11, "Bip1Volts")
    | .bipPt625Volts => (12, "BipPt625Volts")
    | .bipPt5Volts => (13, "BipPt5Volts")
    | .bipPt25Volts => (14, "BipPt25Volts")
    | .bipPt125Volts => (15, "BipPt125Volts")
    | .bipPt2Volts => (16, "BipPt2Volts")
    | .bipPt1Volts => (17, "BipPt1Volts")
    | .bipPt078Volts => (18, "BipPt078Volts")
    | .bipPt05Volts => (19, "BipPt05Volts")
    | .bipPt01Volts => (20, "BipPt01Volts")
    | .bipPt005Volts => (21, "BipPt005Volts")
    | .uni60Volts => (1001, "Uni60Volts")
    | .uni30Volts => (1002, "Uni30Volts")
    | .uni15Volts => (1003, "Uni15Volts")
    | .uni20Volts => (1004, "Uni20Volts")
    | .uni10Volts => (1005, "Uni10Volts")
    | .uni5Volts => (1006, "Uni5Volts")
    | .uni4Volts => (1007, "Uni4Volts")
    | .uni2Pt5Volts => (1008, "Uni2Pt5Volts")
    | .uni2Volts => (1009, "Uni2Volts")
    | .uni1Pt25Volts => (1010, "Uni1Pt25Volts")
    | .uni1Volts => (1011, "Uni1Volts")
    | .uniPt625Volts => (1012, "UniPt625Volts")
    | .uniPt5Volts => (1013, "UniPt5Volts")
    | .uniPt25Volts => (1014, "UniPt25Volts")
    | .uniPt125Volts => (1015, "UniPt125Volts")
    | .uniPt2Volts => (1016, "UniPt2Volts")
    | .uniPt1Volts => (1017, "UniPt1Volts")
    | .uniPt078Volts => (1018, "UniPt078Volts")
    | .uniPt05Volts => (1019, "UniPt05Volts")
    | .uniPt01Volts => (1020, "UniPt01Volts")
    | .uniPt005Volts => (1021, "UniPt005Volts")

namespace Range

/-- Whether negative voltages belong to the range. -/
def isBipolar (range : Range) : Bool :=
  Coded.code range < 1000

/-- The largest voltage of the range. -/
def fullScale (range : Range) : Float :=
  match Coded.code range % 1000 with
  | 1 => 60
  | 2 => 30
  | 3 => 15
  | 4 => 20
  | 5 => 10
  | 6 => 5
  | 7 => 4
  | 8 => 2.5
  | 9 => 2
  | 10 => 1.25
  | 11 => 1
  | 12 => 0.625
  | 13 => 0.5
  | 14 => 0.25
  | 15 => 0.125
  | 16 => 0.2
  | 17 => 0.1
  | 18 => 0.078
  | 19 => 0.05
  | 20 => 0.01
  | _ => 0.005

/-- The smallest and the largest voltage of the range. -/
def limits (range : Range) : Float × Float :=
  if range.isBipolar then (-range.fullScale, range.fullScale) else (0, range.fullScale)

end Range

end Acquisition
