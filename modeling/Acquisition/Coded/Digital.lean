import Acquisition.Coded

/-!
# Ports, their directions and how these are chosen
-/

namespace Acquisition

/-- The ports a device can have. -/
inductive PortKind where
  | auxPort
  | auxPort1
  | auxPort2
  | firstPortA
  | firstPortB
  | firstPortC
  | firstPortCH
  | secondPortA
  | secondPortB
  | secondPortCL
  | secondPortCH
  | thirdPortA
  | thirdPortB
  | thirdPortCL
  | thirdPortCH
  | fourthPortA
  | fourthPortB
  | fourthPortCL
  | fourthPortCH
  | fifthPortA
  | fifthPortB
  | fifthPortCL
  | fifthPortCH
  | sixthPortA
  | sixthPortB
  | sixthPortCL
  | sixthPortCH
  | seventhPortA
  | seventhPortB
  | seventhPortCL
  | seventhPortCH
  | eighthPortA
  | eighthPortB
  | eighthPortCL
  | eighthPortCH
  deriving DecidableEq, Repr

instance : Coded PortKind where
  typeName := "DigitalPortType"
  all :=
    [.auxPort, .auxPort1, .auxPort2, .firstPortA, .firstPortB, .firstPortC, .firstPortCH,
     .secondPortA, .secondPortB, .secondPortCL, .secondPortCH, .thirdPortA, .thirdPortB,
     .thirdPortCL, .thirdPortCH, .fourthPortA, .fourthPortB, .fourthPortCL, .fourthPortCH,
     .fifthPortA, .fifthPortB, .fifthPortCL, .fifthPortCH, .sixthPortA, .sixthPortB,
     .sixthPortCL, .sixthPortCH, .seventhPortA, .seventhPortB, .seventhPortCL, .seventhPortCH,
     .eighthPortA, .eighthPortB, .eighthPortCL, .eighthPortCH]
  label
    | .auxPort => (1, "AuxPort")
    | .auxPort1 => (2, "AuxPort1")
    | .auxPort2 => (3, "AuxPort2")
    | .firstPortA => (10, "FirstPortA")
    | .firstPortB => (11, "FirstPortB")
    | .firstPortC => (12, "FirstPortC")
    | .firstPortCH => (13, "FirstPortCH")
    | .secondPortA => (14, "SecondPortA")
    | .secondPortB => (15, "SecondPortB")
    | .secondPortCL => (16, "SecondPortCL")
    | .secondPortCH => (17, "SecondPortCH")
    | .thirdPortA => (18, "ThirdPortA")
    | .thirdPortB => (19, "ThirdPortB")
    | .thirdPortCL => (20, "ThirdPortCL")
    | .thirdPortCH => (21, "ThirdPortCH")
    | .fourthPortA => (22, "FourthPortA")
    | .fourthPortB => (23, "FourthPortB")
    | .fourthPortCL => (24, "FourthPortCL")
    | .fourthPortCH => (25, "FourthPortCH")
    | .fifthPortA => (26, "FifthPortA")
    | .fifthPortB => (27, "FifthPortB")
    | .fifthPortCL => (28, "FifthPortCL")
    | .fifthPortCH => (29, "FifthPortCH")
    | .sixthPortA => (30, "SixthPortA")
    | .sixthPortB => (31, "SixthPortB")
    | .sixthPortCL => (32, "SixthPortCL")
    | .sixthPortCH => (33, "SixthPortCH")
    | .seventhPortA => (34, "SeventhPortA")
    | .seventhPortB => (35, "SeventhPortB")
    | .seventhPortCL => (36, "SeventhPortCL")
    | .seventhPortCH => (37, "SeventhPortCH")
    | .eighthPortA => (38, "EighthPortA")
    | .eighthPortB => (39, "EighthPortB")
    | .eighthPortCL => (40, "EighthPortCL")
    | .eighthPortCH => (41, "EighthPortCH")

/-- How the direction of a port can be chosen. -/
inductive PortAccess where
  | input
  | output
  | bidirectional
  | bitIo
  | nonConfigurable
  deriving DecidableEq, Repr

instance : Coded PortAccess where
  typeName := "DigitalPortIoType"
  all :=
    [.input, .output, .bidirectional, .bitIo, .nonConfigurable]
  label
    | .input => (1, "Input")
    | .output => (2, "Output")
    | .bidirectional => (3, "Bidirectional")
    | .bitIo => (4, "BitIo")
    | .nonConfigurable => (5, "NonConfigurable")

/-- The direction of a port or of one of its bits. -/
inductive Direction where
  | input
  | output
  deriving DecidableEq, Repr

instance : Coded Direction where
  typeName := "DigitalDirection"
  all :=
    [.input, .output]
  label
    | .input => (1, "Input")
    | .output => (2, "Output")

end Acquisition
