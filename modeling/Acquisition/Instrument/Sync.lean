import Acquisition.Instrument.Scan
import Acquisition.Scan.Request

/-!
# Synchronous scans

A synchronous scan mixes kinds of channel in one row, in the order of the list it
is started with.
-/

namespace Acquisition.Instrument

/-- The column of a channel of a synchronous input scan. -/
def syncInColumn (instrument : Instrument) (channel : SyncChannel .syncInChannel) :
    Except Error Column :=
  let supported : Flags .syncInChannel :=
    instrument.profile.mask .syncIn Item.SyncIn.channelKinds 0
  let kind := channel.kind
  if !(kind.isSingle && supported.contains kind) then .error .badDaqiChanType
  else if kind = SyncChannel.analogDifferential then do
    instrument.checkAnalogIn channel.channel .differential channel.range
    return .analog channel.channel
  else if kind = SyncChannel.analogSingleEnded then do
    instrument.checkAnalogIn channel.channel .singleEnded channel.range
    return .analog channel.channel
  else if kind = SyncChannel.digitalIn then instrument.portColumn channel.channel
  else do
    instrument.checkCounter channel.channel
    return .counter channel.channel

/-- The column of a channel of a synchronous output scan. -/
def syncOutColumn (instrument : Instrument) (channel : SyncChannel .syncOutChannel) :
    Except Error Column :=
  let supported : Flags .syncOutChannel :=
    instrument.profile.mask .syncOut Item.SyncOut.channelKinds 0
  let kind := channel.kind
  if !(kind.isSingle && supported.contains kind) then .error .badDaqoChanType
  else if kind = SyncChannel.analogOut then do
    instrument.checkAnalogOut channel.channel channel.range
    return .analog channel.channel
  else instrument.portColumn channel.channel

/-- The columns of channels, up to the first refusal. -/
def columnsOf {family : Family} (column : SyncChannel family → Except Error Column) :
    List (SyncChannel family) → Except Error (List Column)
  | [] => .ok []
  | channel :: rest => do
      let first ← column channel
      return first :: (← columnsOf column rest)

/-- Start a synchronous input scan. -/
def scanSyncIn (instrument : Instrument) (store : Store)
    (channels : List (SyncChannel .syncInChannel)) (samples : Int) (rate : Float)
    (options : Flags .scanOption) (buffer : Buffer Float) : Except Error (Float × Instrument) := do
  let columns ← columnsOf instrument.syncInColumn channels
  instrument.startScan store .syncIn ⟨options, samples, rate, columns, .reals buffer⟩

/-- Start a synchronous output scan. -/
def scanSyncOut (instrument : Instrument) (store : Store)
    (channels : List (SyncChannel .syncOutChannel)) (samples : Int) (rate : Float)
    (options : Flags .scanOption) (buffer : Buffer Float) : Except Error (Float × Instrument) := do
  let columns ← columnsOf instrument.syncOutColumn channels
  instrument.startScan store .syncOut ⟨options, samples, rate, columns, .reals buffer⟩

end Acquisition.Instrument
