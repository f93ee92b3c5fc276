import Acquisition.Instrument.Check
import Acquisition.Pulse

/-!
# Timers

A timer divides the pacer clock.  Its frequency and its duty cycle are those of
the whole numbers of clock ticks nearest to the request.
-/

namespace Acquisition.Instrument

/-- Accept a request within a frequency range. -/
def checkPulse (request : PulseRequest) (low high : Float) : Except Error Unit :=
  if !(low ≤ request.frequency ∧ request.frequency ≤ high) then .error .badFrequency
  else if !(0 < request.dutyCycle ∧ request.dutyCycle < 1) then .error .badDutyCycle
  else if !(0 ≤ request.initialDelay) then .error .badInitialDelay
  else .ok ()

/-- The timing that a profile produces for an accepted request. -/
def pulseTiming (profile : Profile) (request : PulseRequest) (low high : Float) : PulseTiming :=
  let divisor := profile.divisor request.frequency
  let ticksHigh := Number.clamp (Number.round (request.dutyCycle * divisor)) 1
    (Number.atLeastOne (divisor - 1))
  { frequency := Number.clamp (profile.pacerClock / divisor) low high
    dutyCycle := ticksHigh / divisor
    initialDelay := request.initialDelay }

/-- Start a pulse train on a timer that is idle. -/
def startTimer (instrument : Instrument) (timer : Int) (request : PulseRequest) :
    Except Error (PulseTiming × Instrument) := do
  instrument.checkTimer timer
  if instrument.timers.get? timer = some .running then .error .alreadyActive
  else
    let low ← instrument.profile.real .timer Item.Timer.minFrequency timer.toNat
    let high ← instrument.profile.real .timer Item.Timer.maxFrequency timer.toNat
    checkPulse request low high
    return (pulseTiming instrument.profile request low high,
      { instrument with timers := instrument.timers.set timer .running })

/-- Stop a timer. -/
def stopTimer (instrument : Instrument) (timer : Int) : Except Error Instrument := do
  instrument.checkTimer timer
  return { instrument with timers := instrument.timers.set timer .idle }

/-- Whether a timer is generating pulses. -/
def timerStatus (instrument : Instrument) (timer : Int) : Except Error TimerStatus := do
  instrument.checkTimer timer
  return instrument.timers.getD timer .idle

end Acquisition.Instrument
