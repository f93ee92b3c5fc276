/-!
# Errors

Every refusal of the driver has a cause.  Most causes have a fixed integer code;
the others are a code outside the table and a value outside a closed set.  A call that
breaks down gives no answer at all, and is told apart by a cause that no driver has.

Main statements: `ofCode_code` reads the code of a tabled cause back, and
`code_ofCode` says that every code survives the reading.
-/

namespace Acquisition

/-- Causes a request can be refused for. -/
inductive Error where
  | unhandledException
  | badDevHandle
  | badDevType
  | usbDevNoPermission
  | usbInterfaceClaimed
  | devNotFound
  | devNotConnected
  | deadDev
  | badBufferSize
  | badBuffer
  | badMemType
  | badMemRegion
  | badRange
  | badAiChan
  | badInputMode
  | alreadyActive
  | badTrigType
  | overrun
  | underrun
  | timedOut
  | badOption
  | badRate
  | badBurstIoCount
  | configNotSupported
  | badConfigVal
  | badAiChanType
  | adcOverrun
  | badTcType
  | badUnit
  | badQueueSize
  | badConfigItem
  | badInfoItem
  | badFlag
  | badSampleCount
  | internal
  | badCouplingMode
  | badSensorSensitivity
  | badIepeMode
  | badAiChanQueue
  | badAiGainQueue
  | badAiModeQueue
  | fpgaFileNotFound
  | unableToReadFpgaFile
  | noFpga
  | badArg
  | minSlopeValReached
  | maxSlopeValReached
  | minOffsetValReached
  | maxOffsetValReached
  | badPortType
  | wrongDigConfig
  | badBitNum
  | badPortVal
  | badRetrigCount
  | badAoChan
  | badDaVal
  | badTmr
  | badFrequency
  | badDutyCycle
  | badInitialDelay
  | badCtr
  | badCtrVal
  | badDaqiChanType
  | badNumChans
  | badCtrReg
  | badCtrMeasureType
  | badCtrMeasureMode
  | badDebounceTime
  | badDebounceMode
  | badEdgeDetection
  | badTickSize
  | badDaqoChanType
  | noConnectionEstablished
  | badEventType
  | eventAlreadyEnabled
  | badEventParameter
  | badCallbackFunction
  | badMemAddress
  | memAccessDenied
  | devUnavailable
  | badRetrigTrigType
  | badDescriptor
  /-- A code outside the table. -/
  | unknown (code : Int)
  /-- A value that is no member of the closed set it should belong to. -/
  | unknownValue (typeName : String) (value : Int)
  /-- No refusal: the call broke down, as it was to set aside more bytes than there can be. -/
  | capacityOverflow
  deriving DecidableEq, Repr

namespace Error

/-- The causes with a code of their own, in the order of their codes. -/
def tabled : List Error :=
  [.unhandledException, .badDevHandle, .badDevType, .usbDevNoPermission, .usbInterfaceClaimed,
   .devNotFound, .devNotConnected, .deadDev, .badBufferSize, .badBuffer, .badMemType,
   .badMemRegion, .badRange, .badAiChan, .badInputMode, .alreadyActive, .badTrigType, .overrun,
   .underrun, .timedOut, .badOption, .badRate, .badBurstIoCount, .configNotSupported,
   .badConfigVal, .badAiChanType, .adcOverrun, .badTcType, .badUnit, .badQueueSize,
   .badConfigItem, .badInfoItem, .badFlag, .badSampleCount, .internal, .badCouplingMode,
   .badSensorSensitivity, .badIepeMode, .badAiChanQueue, .badAiGainQueue, .badAiModeQueue,
   .fpgaFileNotFound, .unableToReadFpgaFile, .noFpga, .badArg, .minSlopeValReached,
   .maxSlopeValReached, .minOffsetValReached, .maxOffsetValReached, .badPortType,
   .wrongDigConfig, .badBitNum, .badPortVal, .badRetrigCount, .badAoChan, .badDaVal, .badTmr,
   .badFrequency, .badDutyCycle, .badInitialDelay, .badCtr, .badCtrVal, .badDaqiChanType,
   .badNumChans, .badCtrReg, .badCtrMeasureType, .badCtrMeasureMode, .badDebounceTime,
   .badDebounceMode, .badEdgeDetection, .badTickSize, .badDaqoChanType,
   .noConnectionEstablished, .badEventType, .eventAlreadyEnabled, .badEventParameter,
   .badCallbackFunction, .badMemAddress, .memAccessDenied, .devUnavailable, .badRetrigTrigType,
   .badDescriptor]

/-- The code, the name and the description of a cause. -/
def details : Error → Option Int × String × String
  | .unhandledException => (some 1, "UnhandledException", "Unhandled internal exception")
  | .badDevHandle => (some 2, "BadDevHandle", "Invalid device handle")
  | .badDevType => (some 3, "BadDevType", "This function cannot be used with this device")
  | .usbDevNoPermission => (some 4, "UsbDevNoPermission", "Insufficient permission to access this device")
  | .usbInterfaceClaimed => (some 5, "UsbInterfaceClaimed", "USB interface is already claimed")
  | .devNotFound => (some 6, "DevNotFound", "Device not found")
  | .devNotConnected => (some 7, "DevNotConnected", "Device not connected or connection lost")
  | .deadDev => (some 8, "DeadDev", "Device no longer responding")
  | .badBufferSize => (some 9, "BadBufferSize", "Buffer too small for operation")
  | .badBuffer => (some 10, "BadBuffer", "Invalid buffer")
  | .badMemType => (some 11, "BadMemType", "Invalid memory type")
  | .badMemRegion => (some 12, "BadMemRegion", "Invalid memory region")
  | .badRange => (some 13, "BadRange", "Invalid range")
  | .badAiChan => (some 14, "BadAiChan", "Invalid analog input channel specified")
  | .badInputMode => (some 15, "BadInputMode", "Invalid input mode specified")
  | .alreadyActive => (some 16, "AlreadyActive", "A background process is already in progress")
  | .badTrigType => (some 17, "BadTrigType", "Invalid trigger type specified")
  | .overrun => (some 18, "Overrun", "FIFO overrun, data was not transferred from device fast enough")
  | .underrun => (some 19, "Underrun", "FIFO underrun, data was not transferred to device fast enough")
  | .timedOut => (some 20, "TimedOut", "Operation timed out")
  | .badOption => (some 21, "BadOption", "Invalid option specified")
  | .badRate => (some 22, "BadRate", "Invalid sampling rate specified")
  | .badBurstIoCount => (some 23, "BadBurstIoCount", "Sample count cannot be greater than FIFO size for BURSTIO scans")
  | .configNotSupported => (some 24, "ConfigNotSupported", "Configuration not supported")
  | .badConfigVal => (some 25, "BadConfigVal", "Invalid configuration value")
  | .badAiChanType => (some 26, "BadAiChanType", "Invalid analog input channel type specified")
  | .adcOverrun => (some 27, "AdcOverrun", "ADC overrun occurred")
  | .badTcType => (some 28, "BadTcType", "Invalid thermocouple type specified")
  | .badUnit => (some 29, "BadUnit", "Invalid unit specified")
  | .badQueueSize => (some 30, "BadQueueSize", "Invalid queue size")
  | .badConfigItem => (some 31, "BadConfigItem", "Invalid config item specified")
  | .badInfoItem => (some 32, "BadInfoItem", "Invalid info item specified")
  | .badFlag => (some 33, "BadFlag", "Invalid flag specified")
  | .badSampleCount => (some 34, "BadSampleCount", "Invalid sample count specified")
  | .internal => (some 35, "Internal", "Internal error")
  | .badCouplingMode => (some 36, "BadCouplingMode", "Invalid coupling mode")
  | .badSensorSensitivity => (some 37, "BadSensorSensitivity", "Invalid sensor sensitivity")
  | .badIepeMode => (some 38, "BadIepeMode", "Invalid IEPE mode")
  | .badAiChanQueue => (some 39, "BadAiChanQueue", "Invalid channel queue specified")
  | .badAiGainQueue => (some 40, "BadAiGainQueue", "Invalid gain queue specified")
  | .badAiModeQueue => (some 41, "BadAiModeQueue", "Invalid mode queue specified")
  | .fpgaFileNotFound => (some 42, "FpgaFileNotFound", "FPGA file not found")
  | .unableToReadFpgaFile => (some 43, "UnableToReadFpgaFile", "Unable to read FPGA file")
  | .noFpga => (some 44, "NoFpga", "FPGA not loaded")
  | .badArg => (some 45, "BadArg", "Invalid argument")
  | .minSlopeValReached => (some 46, "MinSlopeValReached", "Minimum slope value reached")
  | .maxSlopeValReached => (some 47, "MaxSlopeValReached", "Maximum slope value reached")
  | .minOffsetValReached => (some 48, "MinOffsetValReached", "Minimum offset value reached")
  | .maxOffsetValReached => (some 49, "MaxOffsetValReached", "Maximum offset value reached")
  | .badPortType => (some 50, "BadPortType", "Invalid port type specified")
  | .wrongDigConfig => (some 51, "WrongDigConfig", "Digital I/O is configured incorrectly")
  | .badBitNum => (some 52, "BadBitNum", "Invalid bit number")
  | .badPortVal => (some 53, "BadPortVal", "Invalid port value specified")
  | .badRetrigCount => (some 54, "BadRetrigCount", "Invalid re-trigger count")
  | .badAoChan => (some 55, "BadAoChan", "Invalid analog output channel specified")
  | .badDaVal => (some 56, "BadDaVal", "Invalid D/A output value specified")
  | .badTmr => (some 57, "BadTmr", "Invalid timer specified")
  | .badFrequency => (some 58, "BadFrequency", "Invalid frequency specified")
  | .badDutyCycle => (some 59, "BadDutyCycle", "Invalid duty cycle specified")
  | .badInitialDelay => (some 60, "BadInitialDelay", "Invalid initial delay specified")
  | .badCtr => (some 61, "BadCtr", "Invalid counter specified")
  | .badCtrVal => (some 62, "BadCtrVal", "Invalid counter value specified")
  | .badDaqiChanType => (some 63, "BadDaqiChanType", "Invalid DAQ input channel type specified")
  | .badNumChans => (some 64, "BadNumChans", "Invalid number of channels specified")
  | .badCtrReg => (some 65, "BadCtrReg", "Invalid counter register specified")
  | .badCtrMeasureType => (some 66, "BadCtrMeasureType", "Invalid counter measurement type specified")
  | .badCtrMeasureMode => (some 67, "BadCtrMeasureMode", "Invalid counter measurement mode specified")
  | .badDebounceTime => (some 68, "BadDebounceTime", "Invalid debounce time specified")
  | .badDebounceMode => (some 69, "BadDebounceMode", "Invalid debounce mode specified")
  | .badEdgeDetection => (some 70, "BadEdgeDetection", "Invalid edge detection mode specified")
  | .badTickSize => (some 71, "BadTickSize", "Invalid tick size specified")
  | .badDaqoChanType => (some 72, "BadDaqoChanType", "Invalid DAQ output channel type specified")
  | .noConnectionEstablished => (some 73, "NoConnectionEstablished", "No connection established")
  | .badEventType => (some 74, "BadEventType", "Invalid event type specified")
  | .eventAlreadyEnabled => (some 75, "EventAlreadyEnabled", "An event handler has already been enabled for this event type")
  | .badEventParameter => (some 76, "BadEventParameter", "Invalid event parameter specified")
  | .badCallbackFunction => (some 77, "BadCallbackFunction", "Invalid callback function specified")
  | .badMemAddress => (some 78, "BadMemAddress", "Invalid memory address")
  | .memAccessDenied => (some 79, "MemAccessDenied", "Memory access denied")
  | .devUnavailable => (some 80, "DevUnavailable", "Device is not available at time of request")
  | .badRetrigTrigType => (some 81, "BadRetrigTrigType", "Re-trigger option is not supported for the specified trigger type")
  | .badDescriptor => (some 100001, "BadDescriptor", "Invalid device descriptor")
  | .unknown code => (some code, "Unknown", "Unknown error code " ++ toString code)
  | .unknownValue typeName value =>
      (none, "UnknownValue",
        "Unexpected " ++ typeName ++ " value " ++ toString value ++ " reported by the driver")
  | .capacityOverflow => (none, "Panic", "capacity overflow")

/-- The code a cause is reported with; a value outside its set has none, nor has a breakdown. -/
def code (error : Error) : Option Int :=
  error.details.1

/-- The name of a cause. -/
def name (error : Error) : String :=
  error.details.2.1

/-- The sentence that describes a cause. -/
def message (error : Error) : String :=
  error.details.2.2

/-- The cause a code stands for. -/
def ofCode (code : Int) : Error :=
  (tabled.find? fun error => error.code == some code).getD (.unknown code)

/-- Code zero is success; any other code is a refusal. -/
def check (code : Int) : Except Error Unit :=
  if code = 0 then .ok () else .error (ofCode code)

/-- Whether an operation ran out of time. -/
def isTimeout (error : Error) : Bool :=
  error == .timedOut

/-- Whether the device is gone or was never reached. -/
def isConnection (error : Error) : Bool :=
  [.devNotFound, .devNotConnected, .deadDev, .noConnectionEstablished, .devUnavailable].contains
    error

/-- Whether the scan buffer or the transfer of samples is concerned. -/
def isBuffer (error : Error) : Bool :=
  [.badBuffer, .badBufferSize, .overrun, .underrun, .adcOverrun].contains error

/-- The text of a cause with the code of an unknown one. -/
def debugText : Error → String
  | .unknown code => "Unknown(" ++ toString code ++ ")"
  | error => error.name

/-! ## Codes and causes -/

/-- Reading the code of a tabled cause gives the cause. -/
theorem ofCode_code {error : Error} {code : Int} (isTabled : error ∈ tabled)
    (hasCode : error.code = some code) : ofCode code = error := by
  have all : ∀ e ∈ tabled, ∀ c, e.code = some c → ofCode c = e := by
    intro e mem
    have exact : e.code.all fun c => ofCode c == e := by
      revert e
      decide
    intro c codeEq
    simpa [codeEq] using exact
  exact all error isTabled code hasCode

/-- Every code survives being read as a cause. -/
theorem code_ofCode (code : Int) : (ofCode code).code = some code := by
  unfold ofCode
  cases found : tabled.find? fun error => error.code == some code with
  | none => rfl
  | some error => simpa using List.find?_some found

end Error

end Acquisition
