import Acquisition.Proofs.Positions
import Acquisition.Proofs.Session
import Mathlib.Data.Nat.Bitwise

/-!
# What a caller is shown of a port

A caller reads, writes and configures a port by its kind, and the driver does it to the first
port of the kind that it keeps.  What the caller is shown of the port is found by a position: the
properties under the position in the list that the profile reports, and the mask of the output
bits under the same number among the ports that the driver keeps.

Main statement: `World.port_shown`.
-/

namespace Acquisition

/-- Every number of bits that is reported of a listed port is one that a word can have. -/
def Profile.IsNarrow (profile : Profile) : Prop :=
  ∀ index < profile.indexCount .digital Item.Digital.portCount,
    ∀ count ∈ (profile.integer .digital Item.Digital.bitCount index).toOption,
      0 ≤ count ∧ count ≤ 64

instance (profile : Profile) : Decidable profile.IsNarrow :=
  inferInstanceAs (Decidable (∀ index < _, ∀ count ∈ Except.toOption _, _ ∧ _))

/-! ## Masks -/

namespace Port

/-- A mask survives being told as a signed reading. -/
theorem ofInt_toInt (mask : UInt64) : UInt64.ofInt mask.toInt64.toInt = mask := by
  have reading : (mask.toInt64.toInt % 2 ^ 64).toNat = mask.toNat := by
    have small := mask.toNat_lt
    rw [← Int64.toInt_toBitVec, UInt64.toBitVec_toInt64, BitVec.toInt_eq_toNat_bmod,
      UInt64.toNat_toBitVec]
    change ((mask.toNat : Int).bmod (2 ^ 64) % ((2 ^ 64 : Nat) : Int)).toNat = mask.toNat
    rw [Int.bmod_emod]
    omega
  rw [UInt64.ofInt, reading, UInt64.ofNat_toNat]

theorem toNat_bitMask {bit : Nat} (inside : bit < 64) : (bitMask bit).toNat = 2 ^ bit := by
  have small : 2 ^ bit < 2 ^ 64 := Nat.pow_lt_pow_right (by decide) inside
  rw [bitMask, UInt64.toNat_shiftLeft, Nat.toUInt64_eq, UInt64.toNat_ofNat', UInt64.toNat_one,
    Nat.one_shiftLeft, Nat.mod_eq_of_lt (Nat.lt_trans inside (by decide)), Nat.mod_eq_of_lt inside,
    Nat.mod_eq_of_lt small]

/-- A bit of a word is set where the word shares it with the mask of the bit. -/
theorem and_bitMask_eq_zero_iff {word : UInt64} {bit : Nat} (inside : bit < 64) :
    word &&& bitMask bit = 0 ↔ word.toNat.testBit bit = false := by
  rw [← UInt64.toNat_inj, UInt64.toNat_and, toNat_bitMask inside, Nat.and_two_pow]
  cases word.toNat.testBit bit <;> simp

variable {port : Port} {bit : Nat}

theorem readBit_isOk_iff {bit : Int} :
    (port.readBit bit).isOk = true ↔ 0 ≤ bit ∧ bit < port.width := by
  unfold readBit checkBit
  split
  · next inside => exact iff_of_true rfl inside
  · next outside => exact iff_of_false Bool.false_ne_true outside

/-- Clearing a bit is refused for its direction exactly where the bit is not an output. -/
theorem writeBit_zero_eq_wrongDigConfig_iff (inside : bit < port.width) (narrow : bit < 64) :
    port.writeBit bit 0 = .error .wrongDigConfig ↔ port.outputs.toNat.testBit bit = false := by
  have checked : port.checkBit bit = .ok bit :=
    if_pos ⟨Int.natCast_nonneg bit, Int.ofNat_lt.mpr inside⟩
  rw [writeBit, checked, ← and_bitMask_eq_zero_iff narrow]
  change (if port.outputs &&& bitMask bit = 0 then _ else _) = _ ↔ _
  split
  · next input => exact iff_of_true rfl input
  · next output => exact iff_of_false (by rintro ⟨⟩) output

end Port

/-- A code that is accepted is one that is known. -/
theorem Coded.ofCode?_of_ofCode {α : Type} [Coded α] {reading : Int} {value : α}
    (read : ofCode reading = .ok value) : ofCode? reading = some value := by
  unfold ofCode at read
  split at read
  · next known => rw [known, Except.ok.inj read]
  · contradiction

/-! ## Answers -/

namespace World

variable {α : Type}

/-- What an operation on a device answers. -/
def answer (world : World) (id : DeviceId) (operation : Operation α) : Except Error α :=
  ((operation.perform id).on world).1

/-- The world after an operation on a device. -/
def after (world : World) (id : DeviceId) (operation : Operation α) : World :=
  ((operation.perform id).on world).2

/-- What the driver has behind the handle of a device. -/
def behind? (world : World) (id : DeviceId) : Option Instrument :=
  (world.devices.get? id).bind fun held => world.bench.driver.instruments.get? held.handle

/-- A caller can reach what is behind the handle of a device, and it is connected. -/
structure Reaches (world : World) (id : DeviceId) (held : Device) (device : Instrument) : Prop where
  direct : world.IsDirect
  found : world.devices.get? id = some held
  kept : held.isReleased = false
  there : world.bench.driver.instruments.get? held.handle = some device
  connected : device.isConnected = true

theorem Reaches.behind {world : World} {id : DeviceId} {held : Device} {device : Instrument}
    (reaches : world.Reaches id held device) : world.behind? id = some device := by
  rw [behind?, reaches.found, Option.bind_some, reaches.there]

/-- An edit leaves what can be reached as it is. -/
theorem Reaches.edit {world : World} {id : DeviceId} {held : Device} {device : Instrument}
    (reaches : world.Reaches id held device) (edit : Edit) :
    (world.step (.edit edit)).Reaches id held device :=
  ⟨⟨reaches.direct.faults, reaches.direct.rival⟩, reaches.found, reaches.kept, reaches.there,
    reaches.connected⟩

/-- A request that changes a device is answered as the change is. -/
theorem Reaches.answer_adjust {world : World} {id : DeviceId} {held : Device} {device : Instrument}
    (reaches : world.Reaches id held device) {operation : Operation Unit}
    (request : Handle → Request Unit) {change : Instrument → Except Error Instrument}
    (performs : operation.perform id = (do Act.send (request (← Act.live id))))
    (asks : (request held.handle).serve world.bench =
      world.bench.adjustConnected held.handle change) :
    world.answer id operation = (change device).map fun _ => () := by
  rw [Bench.adjustConnected_of_connected reaches.there reaches.connected] at asks
  rw [answer, performs, Act.on_bind_ok (Act.on_live reaches.found reaches.kept)]
  cases changed : change device with
  | error error =>
      rw [Act.on_send_adjust_of_refused _ reaches.direct reaches.there asks changed]
      rfl
  | ok made =>
      obtain ⟨later, sent, _⟩ := Act.on_send_adjust _ reaches.direct reaches.there asks changed
      rw [sent]
      rfl

end World

namespace Act

variable {α : Type} {world : World} {id : DeviceId} {held : Device} {device : Instrument}

variable (reaches : world.Reaches id held device)

include reaches

/-- A question that every device answers. -/
theorem on_question {question : Instrument → Except Error α} (request : Handle → Request α)
    (asks : (request held.handle).serve world.bench = world.bench.ask held.handle question)
    (silent : ∀ outcome, Notice.ofRequest (request held.handle) world.bench outcome = []) :
    (do Act.send (request (← Act.live id)) : Act α).on world = (question device, world) := by
  rw [on_bind_ok (on_live reaches.found reaches.kept)]
  exact on_send_ask reaches.direct reaches.there asks silent

/-- A question that only a connected device answers. -/
theorem on_questionConnected {question : Instrument → Except Error α}
    (request : Handle → Request α)
    (asks : (request held.handle).serve world.bench =
      world.bench.askConnected held.handle question)
    (silent : ∀ outcome, Notice.ofRequest (request held.handle) world.bench outcome = []) :
    (do Act.send (request (← Act.live id)) : Act α).on world = (question device, world) :=
  on_question reaches request
    (asks.trans (Bench.askConnected_of_connected reaches.there reaches.connected question)) silent

theorem on_ask_integer (place : ItemKey) (understand : Int → Except Error α) :
    (ask id (.integer place understand)).on world =
      ((device.profile.integer place.subject place.item place.index >>= understand), world) := by
  have sent := on_question reaches
    (fun handle => .integerItem handle place.subject place.item place.index) rfl fun _ => rfl
  have told := on_bind_told sent fun reading => on_resume world (understand reading)
  rwa [bind_assoc] at told

/-! ## Positions -/

theorem on_searchPort (kind : PortKind) (position remaining : Nat) :
    (searchPort id kind position remaining).on world =
      (device.profile.searchPort kind position remaining, world) := by
  induction remaining generalizing position with
  | zero => rfl
  | succ remaining ih =>
      have read : (ask id (Digital.portCodeAt position)).on world =
          (device.profile.portCode position, world) :=
        (on_ask_integer reaches _ _).trans (congrArg (·, world) (bind_pure _))
      refine on_bind_told read fun code => ?_
      by_cases same : code = Coded.code kind
      · rw [if_pos same, if_pos same]
        rfl
      · rw [if_neg same, if_neg same]
        exact ih (position + 1)

theorem on_portPosition (kind : PortKind) :
    (portPosition id kind).on world = (device.profile.portPosition kind, world) := by
  unfold portPosition Profile.portPosition
  rw [on_bind, Digital.positionCount, Property.indices, on_ask_integer reaches]
  cases device.profile.integer .digital Item.Digital.portCount 0 with
  | error error => rfl
  | ok count => exact on_searchPort reaches kind 0 _

/-- The mask of the port that the driver keeps at a position. -/
theorem on_maskAt (position : Nat) :
    (maskAt id position).on world =
      (match device.ports[position]? with
        | some port => .ok port.outputs
        | none => .error .badPortType, world) := by
  have sent := on_questionConnected reaches
    (fun handle => .portSetting handle Item.DigitalSetting.directionMask position) rfl fun _ => rfl
  have told := on_bind_told sent fun reading => on_pure world (UInt64.ofInt reading)
  rw [bind_assoc] at told
  refine told.trans ?_
  rw [Instrument.portSetting, if_pos rfl]
  cases device.ports[position]? with
  | none => rfl
  | some port =>
      change (Except.ok (UInt64.ofInt port.outputs.toInt64.toInt), world) = _
      rw [Port.ofInt_toInt]

theorem on_directionMask_of_found {kind : PortKind} {position : Nat} {port : Port}
    (located : device.profile.portPosition kind = .ok position)
    (kept : device.ports[position]? = some port) :
    (directionMask id kind).on world = (.ok port.outputs, world) := by
  unfold directionMask
  rw [on_bind_ok (located ▸ on_portPosition reaches kind), on_maskAt reaches, kept]

theorem on_bitCountAt (position : Nat) :
    (ask id (Digital.bitCountAt position)).on world =
      ((device.profile.integer .digital Item.Digital.bitCount position).map Number.quantity,
        world) := by
  refine (on_ask_integer reaches _ _).trans ?_
  cases device.profile.integer .digital Item.Digital.bitCount position <;> rfl

/-- What a device tells about a port was read at the position of the port. -/
theorem portInfo_eq_ok {kind : PortKind} {info : PortInfo}
    (told : ((portInfo id kind).on world).1 = .ok info) :
    ∃ position code count, device.profile.portPosition kind = .ok position ∧
      device.profile.integer .digital Item.Digital.portAccess position = .ok code ∧
      Coded.ofCode? code = some info.access ∧
      device.profile.integer .digital Item.Digital.bitCount position = .ok count ∧
      info.bits = Number.quantity count := by
  have asked := on_bind_told (on_portPosition reaches kind) fun position =>
    on_bind_told (on_ask_integer reaches ⟨.digital, Item.Digital.portAccess, position⟩ Coded.ofCode)
      fun access => on_bind_told (on_bitCountAt reaches position) fun bits =>
        on_pure world (PortInfo.mk kind access bits)
  change (((portInfo id kind).on world)) = _ at asked
  rw [asked] at told
  simp only [bind_eq_ok_iff] at told
  obtain ⟨position, located, access, ⟨code, accessed, known⟩, bits, counted, same⟩ := told
  obtain rfl := Except.ok.inj same
  cases read : device.profile.integer .digital Item.Digital.bitCount position with
  | error error => simp [read, Except.map] at counted
  | ok count =>
      rw [read] at counted
      obtain rfl := Except.ok.inj counted
      exact ⟨position, code, count, located, accessed, Coded.ofCode?_of_ofCode known, read, rfl⟩

end Act

namespace World

variable {α : Type} {world : World} {id : DeviceId} {held : Device} {device : Instrument}
  {kind : PortKind} {port : Port}

/-! ## The port that is operated on -/

/-- An operation does to a port what a change of the port does, and the changed port is then the
one that is operated on. -/
structure Puts (world : World) (id : DeviceId) (kind : PortKind) (port : Port)
    (operation : Operation Unit) (change : Port → Except Error Port) : Prop where
  answer : world.answer id operation = (change port).map fun _ => ()
  leaves : ∀ changed, change port = .ok changed →
    ∃ device, (world.after id operation).behind? id = some device ∧ device.port kind = .ok changed

/-- A port is the one that the operations on ports of its kind read and change. -/
structure Operates (world : World) (id : DeviceId) (kind : PortKind) (port : Port) : Prop where
  read : world.answer id (.readPort kind) = .ok port.read
  readBit : ∀ bit, world.answer id (.readBit kind bit) = port.readBit bit
  write : ∀ value, world.Puts id kind port (.writePort kind value) fun port => port.write value
  writeBit : ∀ bit value,
    world.Puts id kind port (.writeBit kind bit value) fun port => port.writeBit bit value
  configure : ∀ direction,
    world.Puts id kind port (.configurePort kind direction) fun port => port.configure direction
  configureBit : ∀ bit direction,
    world.Puts id kind port (.configureBit kind bit direction) fun port =>
      port.configureBit bit direction

theorem Reaches.puts (reaches : world.Reaches id held device) (first : device.port kind = .ok port)
    (request : Handle → Request Unit) {operation : Operation Unit}
    (performs : operation.perform id = (do Act.send (request (← Act.live id))))
    {change : Port → Except Error Port}
    (asks : (request held.handle).serve world.bench =
      world.bench.adjustConnected held.handle fun device => device.updatePort kind change)
    (turns : ∀ changed, change port = .ok changed → port.Turn changed) :
    world.Puts id kind port operation change := by
  have adjusts := asks.trans
    (Bench.adjustConnected_of_connected reaches.there reaches.connected _)
  have sends : (operation.perform id).on world =
      (Act.send (request held.handle)).on world := by
    rw [performs, Act.on_bind_ok (Act.on_live reaches.found reaches.kept)]
  cases accepted : change port with
  | error error =>
      have refused := Act.on_send_adjust_of_refused _ reaches.direct reaches.there adjusts
        (Instrument.updatePort_of_refused first accepted)
      exact {
        answer := by rw [answer, sends, refused, accepted]; rfl
        leaves := by
          intro _ done
          rw [accepted] at done
          contradiction }
  | ok changed =>
      obtain ⟨later, updated, found⟩ :=
        Instrument.updatePort_of_accepted first accepted (turns changed accepted)
      obtain ⟨next, sent, there, devices⟩ :=
        Act.on_send_adjust _ reaches.direct reaches.there adjusts updated
      exact {
        answer := by rw [answer, sends, sent, accepted]; rfl
        leaves := by
          intro _ done
          obtain rfl := Except.ok.inj (accepted.symm.trans done)
          refine ⟨later, ?_, found⟩
          rw [after, sends, sent, behind?, devices, reaches.found, Option.bind_some, there] }

/-- A port that can be read is one that the operations work on. -/
theorem Reaches.operates (reaches : world.Reaches id held device)
    (first : device.port kind = .ok port) : world.Operates id kind port where
  read := by
    have told := Act.on_questionConnected reaches (fun handle => .readPort handle kind) rfl
      fun _ => rfl
    rw [first] at told
    exact congrArg Prod.fst told
  readBit bit := by
    have told := Act.on_questionConnected reaches (fun handle => .readBit handle kind bit) rfl
      fun _ => rfl
    rw [first] at told
    exact congrArg Prod.fst told
  write value := reaches.puts first (fun handle => .writePort handle kind value) rfl rfl
    fun _ done => .write value done
  writeBit bit value := reaches.puts first (fun handle => .writeBit handle kind bit value) rfl rfl
    fun _ done => .writeBit bit value done
  configure direction := reaches.puts first (fun handle => .configurePort handle kind direction)
    rfl rfl fun _ done => .configure direction done
  configureBit bit direction := reaches.puts first
    (fun handle => .configureBit handle kind bit direction) rfl rfl
    fun _ done => .configureBit bit direction done

/-- Only a device that the caller can reach lets a port be read. -/
theorem reaches_of_readPort (direct : world.IsDirect) {value : UInt64}
    (reads : world.answer id (.readPort kind) = .ok value) :
    ∃ held device port, world.Reaches id held device ∧ device.port kind = .ok port := by
  unfold answer Operation.perform at reads
  rcases Act.on_live_cases world id with ⟨held, found, kept, carried⟩ | carried
  · rw [Act.on_bind_ok carried, Act.on_send direct] at reads
    cases served : (Request.readPort held.handle kind).serve world.bench with
    | error error =>
        rw [Act.on_perform_of_refused served] at reads
        contradiction
    | ok outcome =>
        obtain ⟨device, _, there, connected, asked, _⟩ := Bench.askConnected_eq_ok_iff.mp served
        obtain ⟨port, first, _⟩ := bind_eq_ok_iff.mp asked
        exact ⟨held, device, port, ⟨direct, found, kept, there, connected⟩, first⟩
  · rw [Act.on_bind_error carried] at reads
    contradiction

/-! ## What is shown -/

section Shown

variable (reaches : world.Reaches id held device) (forms : device.HasForms)
  (first : device.port kind = .ok port)

include reaches forms first

/-- The mask that is shown of a port is its own. -/
theorem Reaches.on_directionMask (plain : device.profile.ListsPlainly kind) :
    (Act.directionMask id kind).on world = (.ok port.outputs, world) := by
  obtain ⟨position, _, known, _⟩ := forms.firstKnown? first
  exact Act.on_directionMask_of_found reaches (Profile.portPosition_of_plain plain known)
    (forms.getElem?_ports first plain known)

/-- The number of bits that is shown of a port is its own. -/
theorem Reaches.width_of_portInfo (narrow : device.profile.IsNarrow) {info : PortInfo}
    (told : world.answer id (.portInfo kind) = .ok info) :
    port.width = info.bits ∧ info.bits ≤ 64 := by
  obtain ⟨position, code, count, located, accessed, chosen, counted, bits⟩ :=
    Act.portInfo_eq_ok reaches told
  obtain ⟨low, high⟩ := narrow position (Profile.lt_indexCount_of_portPosition located) count
    (by rw [counted]; rfl)
  have quantity : Number.quantity count = count.toNat := if_pos ⟨low, by omega⟩
  have word : (Number.word count).toNat = count.toNat := by
    rw [Number.word, Int.emod_eq_of_lt low (by omega), Nat.toUInt32_eq, UInt32.toNat_ofNat']
    omega
  rw [forms.width_of_portPosition first located accessed chosen counted, bits, quantity, word]
  exact ⟨rfl, by omega⟩

/-- The direction that is shown of each bit of a port is the one that a write of the bit asks
for. -/
theorem Reaches.bitDirections (plain : device.profile.ListsPlainly kind)
    (narrow : device.profile.IsNarrow) {info : PortInfo}
    (told : world.answer id (.portInfo kind) = .ok info) :
    ∃ directions, world.answer id (.bitDirections kind) = .ok directions ∧
      directions.length = info.bits ∧
      ∀ bit : Nat, bit < info.bits →
        (directions[bit]? = some .output ↔
          world.answer id (.writeBit kind bit 0) ≠ .error .wrongDigConfig) := by
  obtain ⟨wide, small⟩ := reaches.width_of_portInfo forms first narrow told
  obtain ⟨position, _, count, located, _, _, counted, bits⟩ := Act.portInfo_eq_ok reaches told
  refine ⟨Act.directionsOf port.outputs info.bits, ?_, ?_, ?_⟩
  · unfold answer Operation.perform Act.bitDirections
    rw [Act.on_bind_ok (located ▸ Act.on_portPosition reaches kind), Act.on_bind,
      Act.on_bitCountAt reaches, counted]
    change ((Act.directionMask id kind >>= fun mask => _ : Act _).on world).1 = _
    rw [Act.on_bind_ok (reaches.on_directionMask forms first plain), bits]
    rfl
  · rw [Act.directionsOf, List.length_map, List.length_range]
    exact Nat.min_eq_left small
  · intro bit inside
    have narrowBit : bit < 64 := Nat.lt_of_lt_of_le inside small
    have written : port.writeBit bit 0 = .error .wrongDigConfig ↔
        port.outputs.toNat.testBit bit = false :=
      Port.writeBit_zero_eq_wrongDigConfig_iff (wide ▸ inside) narrowBit
    have answered : world.answer id (.writeBit kind bit 0) = .error .wrongDigConfig ↔
        port.writeBit bit 0 = .error .wrongDigConfig := by
      rw [((reaches.operates first).writeBit bit 0).answer]
      cases port.writeBit bit 0 <;> simp [Except.map]
    have listed : bit < min info.bits Act.maskWidth := Nat.lt_min.mpr ⟨inside, narrowBit⟩
    rw [Ne, answered, written, Act.directionsOf, List.getElem?_map, List.getElem?_range listed]
    cases directed : port.outputs.toNat.testBit bit <;> simp [directed]

end Shown

/-- A port that can be read is the one that the other operations on its kind work on.  Its bits
are those that are shown, and if the driver understands every entry that is listed before it, its
mask and the directions of its bits are those that are shown. -/
theorem port_shown (moves : List Move) {value : UInt64}
    (reads : (initial.run moves).answer id (.readPort kind) = .ok value) :
    ∃ device port, (initial.run moves).behind? id = some device ∧
      device.port kind = .ok port ∧ (initial.run moves).Operates id kind port ∧
      (device.profile.ListsPlainly kind →
        (initial.run moves).answer id (.directionMask kind) = .ok port.outputs) ∧
      ∀ info, (initial.run moves).answer id (.portInfo kind) = .ok info →
        device.profile.IsNarrow →
        (∀ bit, ((initial.run moves).answer id (.readBit kind bit)).isOk = true ↔
          0 ≤ bit ∧ bit < info.bits) ∧
        (device.profile.ListsPlainly kind →
          ∃ directions, (initial.run moves).answer id (.bitDirections kind) = .ok directions ∧
            directions.length = info.bits ∧
            ∀ bit : Nat, bit < info.bits →
              (directions[bit]? = some .output ↔
                (initial.run moves).answer id (.writeBit kind bit 0) ≠
                  .error .wrongDigConfig)) := by
  have sound := sound_run moves
  obtain ⟨held, device, port, reaches, first⟩ := reaches_of_readPort sound.direct reads
  have forms : device.HasForms :=
    Instrument.forms_invariant.holds sound.reachable reaches.there
  have operates := reaches.operates first
  refine ⟨device, port, reaches.behind, first, operates, ?_, ?_⟩
  · intro plain
    exact congrArg Prod.fst (reaches.on_directionMask forms first plain)
  · intro info told narrow
    refine ⟨?_, fun plain => reaches.bitDirections forms first plain narrow told⟩
    intro bit
    rw [operates.readBit bit, Port.readBit_isOk_iff,
      (reaches.width_of_portInfo forms first narrow told).1]

/-- The bits of the second port are made outputs. -/
def outward : List Move :=
  connected ++ [.call 0 (.configurePort .firstPortA .output)]

/-- The mask of a port whose bits were made outputs is shown. -/
theorem port_shown_configured :
    ∃ device port, (initial.run outward).behind? 0 = some device ∧
      device.port .firstPortA = .ok port ∧ (initial.run outward).Operates 0 .firstPortA port ∧
      device.profile.ListsPlainly .firstPortA ∧
      (initial.run outward).answer 0 (.directionMask .firstPortA) = .ok port.outputs ∧
      port.outputs = 255 ∧
      ∃ directions, (initial.run outward).answer 0 (.bitDirections .firstPortA) = .ok directions ∧
        directions.length = 8 := by
  have reads : (initial.run outward).answer 0 (.readPort .firstPortA) = .ok 0 := by decide +kernel
  have told : (initial.run outward).answer 0 (.portInfo .firstPortA) =
      .ok ⟨.firstPortA, .bidirectional, 8⟩ := by decide +kernel
  have behind : ((initial.run outward).behind? 0).map (fun device =>
      (decide (device.profile.ListsPlainly .firstPortA), decide device.profile.IsNarrow,
        (device.port .firstPortA).toOption.map Port.outputs)) = some (true, true, some 255) := by
    decide +kernel
  obtain ⟨device, port, there, first, operates, masked, shown⟩ := port_shown outward reads
  rw [there, Option.map_some, first, Option.some.injEq, Prod.mk.injEq, Prod.mk.injEq] at behind
  obtain ⟨plain, narrow, outputs⟩ := behind
  have plainly := of_decide_eq_true plain
  obtain ⟨_, listed⟩ := shown _ told (of_decide_eq_true narrow)
  obtain ⟨directions, answered, length, _⟩ := listed plainly
  exact ⟨device, port, there, first, operates, plainly, masked plainly, Option.some.inj outputs,
    directions, answered, length⟩

/-- A device that lists something unknown before its second port. -/
def skipping : List Move :=
  let device := Descriptor.ofIdentity "USB-1808X" 317 (.named ["USB"]) "01D97CFA"
  let profile := Profile.multifunction.withInteger .digital Item.Digital.portKind 0 999
  [.stimulus (.attach device profile), .take device, .call 0 .connect]

/-- Behind an entry that the driver skips, a port can be read but has no mask. -/
theorem not_port_shown_skipped :
    ¬∀ (moves : List Move) (id : DeviceId) (kind : PortKind) (value : UInt64),
      (∀ device ∈ (initial.run moves).behind? id, device.profile.IsNarrow) →
      (initial.run moves).answer id (.readPort kind) = .ok value →
      ∃ mask, (initial.run moves).answer id (.directionMask kind) = .ok mask := by
  intro claim
  have narrow : ∀ device ∈ (initial.run skipping).behind? 0, device.profile.IsNarrow := by
    decide +kernel
  have reads : (initial.run skipping).answer 0 (.readPort .firstPortA) = .ok 0 := by decide +kernel
  obtain ⟨mask, shown⟩ := claim skipping 0 .firstPortA 0 narrow reads
  have refused : (initial.run skipping).answer 0 (.directionMask .firstPortA) =
      .error .badPortType := by decide +kernel
  rw [refused] at shown
  cases shown

end World

end Acquisition
