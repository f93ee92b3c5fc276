import Acquisition.Proofs.InPlace
import Acquisition.Proofs.PortBits

/-!
# Ports bit by bit

A port whose bits have directions of their own can be configured and written as a whole or bit by
bit.  A bit that is put into a word replaces one bit and no other (`Port.testBit_putBit`), so what
a word is left with does not depend on the order in which its bits are put
(`Port.putBits_eq_of_perm`).  Hence the two ways leave the same port behind, and the requests that
go bit by bit are all served (`Bench.serveAll_turns`).

Main statement: `Bench.Reachable.bit_by_bit`.
-/

namespace Acquisition

namespace Port

open InPlace (putPort)

variable {port : Port} {word target : UInt64} {bit place : Nat} {order : List Nat}

/-! ## Bits that are put into a word -/

/-- Put a level into one bit of a word. -/
def putBit (word : UInt64) (bit : Nat) (level : Bool) : UInt64 :=
  if level then word ||| bitMask bit else word &&& ~~~bitMask bit

/-- Put some bits of a word into another one, one after another. -/
def putBits (target : UInt64) (word : UInt64) (order : List Nat) : UInt64 :=
  order.foldl (fun word bit => putBit word bit (target.toNat.testBit bit)) word

/-- A bit that is put into a word replaces one bit and no other. -/
theorem testBit_putBit (inside : bit < 64) (word : UInt64) (level : Bool) (place : Nat) :
    (putBit word bit level).toNat.testBit place =
      if place = bit then level else word.toNat.testBit place := by
  rcases Nat.lt_or_ge place 64 with within | beyond
  · unfold putBit
    cases level with
    | true =>
        rw [if_pos rfl, testBit_or, testBit_bitMask inside]
        by_cases same : place = bit
        · simp [same]
        · simp [same, Ne.symm same]
    | false =>
        rw [if_neg Bool.false_ne_true, testBit_and, testBit_not _ within, testBit_bitMask inside]
        by_cases same : place = bit
        · simp [same]
        · simp [same, Ne.symm same]
  · have other : place ≠ bit := by omega
    rw [testBit_of_le beyond, if_neg other, testBit_of_le beyond]

/-- Bits that are put into a word replace those bits, in whatever order and however often. -/
theorem testBit_putBits (inside : ∀ bit ∈ order, bit < 64) (target word : UInt64) (place : Nat) :
    (putBits target word order).toNat.testBit place =
      if place ∈ order then target.toNat.testBit place else word.toNat.testBit place := by
  induction order generalizing word with
  | nil => simp [putBits]
  | cons bit rest ih =>
      obtain ⟨first, others⟩ := List.forall_mem_cons.mp inside
      change (putBits target (putBit word bit (target.toNat.testBit bit)) rest).toNat.testBit place
        = _
      rw [ih others, testBit_putBit first]
      by_cases later : place ∈ rest
      · simp [later]
      · by_cases same : place = bit
        · simp [same]
        · simp [later, same]

theorem eq_of_testBit_eq {left right : UInt64}
    (same : ∀ bit, left.toNat.testBit bit = right.toNat.testBit bit) : left = right :=
  UInt64.toNat_inj.mp (Nat.eq_of_testBit_eq same)

/-- All bits of a port put into a word in any order make it the word that they are taken from, if
neither word has other bits. -/
theorem putBits_eq_of_perm (each : order.Perm (List.range port.width)) (narrow : port.width ≤ 64)
    (before : port.Within word) (after : port.Within target) :
    putBits target word order = target := by
  have listed (bit : Nat) : bit ∈ order ↔ bit < port.width :=
    each.mem_iff.trans List.mem_range
  apply eq_of_testBit_eq
  intro bit
  rw [testBit_putBits fun bit member => Nat.lt_of_lt_of_le ((listed bit).mp member) narrow]
  split
  · rfl
  · next absent =>
      have outside : port.width ≤ bit := Nat.not_lt.mp fun inside => absent ((listed bit).mpr inside)
      rw [before bit outside, after bit outside]

/-! ## Turns that are taken bit by bit -/

/-- The output bits of a port that is configured in a direction as a whole. -/
def outputsFor (port : Port) : Direction → UInt64
  | .output => port.widthMask
  | .input => 0

theorem checkBit_of_lt (inside : bit < port.width) : port.checkBit bit = .ok bit :=
  checkBit_eq_ok_iff.mpr ⟨Int.natCast_nonneg bit, Int.ofNat_lt.mpr inside, rfl⟩

theorem within_outputsFor (port : Port) (direction : Direction) :
    port.Within (port.outputsFor direction) := by
  cases direction with
  | output => exact port.within_widthMask
  | input => exact port.within_zero

theorem configure_of_bitIo (single : port.access = .bitIo) (direction : Direction) :
    port.configure direction = .ok { port with outputs := port.outputsFor direction } := by
  unfold configure
  rw [single]
  cases direction <;> rfl

/-- Configuring one bit puts it into the output bits. -/
theorem configureBit_of_lt (single : port.access = .bitIo) (narrow : port.width ≤ 64)
    (inside : bit < port.width) (direction : Direction) :
    port.configureBit bit direction = .ok { port with
      outputs := putBit port.outputs bit ((port.outputsFor direction).toNat.testBit bit) } := by
  have level : (port.outputsFor direction).toNat.testBit bit = (direction = .output : Bool) := by
    cases direction with
    | output =>
        simp [outputsFor, widthMask, testBit_lowBits (Nat.lt_of_lt_of_le inside narrow), inside]
    | input => simp [outputsFor]
  rw [configureBit, if_neg (not_not.mpr single), checkBit_of_lt inside, level]
  cases direction <;> rfl

/-- Writing one bit that is an output puts it into the latch. -/
theorem writeBit_of_output (narrow : port.width ≤ 64) (inside : bit < port.width)
    (output : port.outputs.toNat.testBit bit = true) (level : Bool) :
    port.writeBit bit level.toNat =
      .ok { port with latch := putBit port.latch bit level } := by
  have driven : ¬port.outputs &&& bitMask bit = 0 := by
    rw [and_bitMask_eq_zero_iff (Nat.lt_of_lt_of_le inside narrow), output]
    exact Bool.noConfusion
  rw [writeBit, checkBit_of_lt inside]
  cases level <;> simp [putBit, driven, bind, Except.bind, pure, Except.pure]

/-- Bits that are configured one after another are put into the output bits. -/
theorem foldlM_configureBit (single : port.access = .bitIo) (narrow : port.width ≤ 64)
    (inside : ∀ bit ∈ order, bit < port.width) (direction : Direction) :
    order.foldlM (fun port (bit : Nat) => port.configureBit bit direction) port =
      .ok { port with outputs := putBits (port.outputsFor direction) port.outputs order } := by
  induction order generalizing port with
  | nil => rfl
  | cons bit rest ih =>
      obtain ⟨first, others⟩ := List.forall_mem_cons.mp inside
      rw [List.foldlM_cons, configureBit_of_lt single narrow first direction]
      exact @ih { port with outputs := _ } single narrow others

/-- Output bits that are written one after another are put into the latch. -/
theorem foldlM_writeBit (narrow : port.width ≤ 64)
    (inside : ∀ bit ∈ order, bit < port.width)
    (output : ∀ bit < port.width, port.outputs.toNat.testBit bit = true) (value : UInt64) :
    order.foldlM (fun port (bit : Nat) => port.writeBit bit (value.toNat.testBit bit).toNat) port =
      .ok { port with latch := putBits value port.latch order } := by
  induction order generalizing port with
  | nil => rfl
  | cons bit rest ih =>
      obtain ⟨first, others⟩ := List.forall_mem_cons.mp inside
      rw [List.foldlM_cons, writeBit_of_output narrow first (output bit first)]
      exact @ih { port with latch := _ } narrow others output

/-- A value of the bits that a port has can be written if the port drives some bit. -/
theorem write_of_within {value : UInt64} (within : port.Within value)
    (output : port.outputs.toNat.testBit bit = true) :
    port.write value = .ok { port with latch := value } := by
  have fits : value &&& ~~~port.widthMask = 0 := by
    apply eq_of_testBit_eq
    intro place
    rcases Nat.lt_or_ge place 64 with inside | beyond
    · rw [testBit_and, testBit_not _ inside, widthMask, testBit_lowBits inside]
      by_cases below : place < port.width
      · simp [below]
      · simp [within place (Nat.not_lt.mp below)]
    · rw [testBit_of_le beyond, testBit_of_le beyond]
  have driven : port.outputs ≠ 0 := by
    intro none
    rw [none] at output
    exact absurd output (by simp)
  rw [write, if_neg (not_not.mpr fits), if_neg driven]

theorem within_of_lt {value : UInt64} (small : value.toNat < 2 ^ port.width) :
    port.Within value := fun _ outside =>
  Nat.testBit_lt_two_pow (Nat.lt_of_lt_of_le small (Nat.pow_le_pow_right (by decide) outside))

/-- Reading one bit gives the bit of what is read. -/
theorem readBit_of_lt (narrow : port.width ≤ 64) (inside : bit < port.width) :
    port.readBit bit = .ok (port.read.toNat.testBit bit).toNat := by
  have small : bit < 64 := Nat.lt_of_lt_of_le inside narrow
  have shift : bit % 2 ^ 64 % 64 = bit := by omega
  rw [readBit, checkBit_of_lt inside]
  refine congrArg Except.ok ?_
  rw [UInt64.toNat_and, UInt64.toNat_shiftRight, Nat.toUInt64_eq, UInt64.toNat_ofNat', shift,
    UInt64.toNat_one, Nat.and_one_is_mod, Nat.toNat_testBit, Nat.shiftRight_eq_div_pow]

theorem readBit_of_outside {reading : Int} (outside : ¬(0 ≤ reading ∧ reading < port.width)) :
    port.readBit reading = .error .badBitNum := by
  rw [readBit, checkBit, if_neg outside]
  rfl

/-! ## Ports put back -/

theorem find?_putPort {kind : PortKind} {port changed : Port} {ports : List Port}
    (found : ports.find? (fun port => port.kind = kind) = some port) (same : changed.kind = kind) :
    (putPort kind changed ports).find? (fun port => port.kind = kind) = some changed := by
  let replace (_ : Port) : Except Error Port := .ok changed
  have accepted : replace port = .ok changed := rfl
  obtain ⟨after, updated, there⟩ := updateFirst_of_accepted found accepted same
  rw [updateFirst_eq, found] at updated
  obtain rfl := Except.ok.inj updated
  exact there

/-- The later of two ports put back in one place is the one that counts. -/
theorem putPort_putPort {kind : PortKind} {first : Port} (same : first.kind = kind) (last : Port)
    (ports : List Port) : putPort kind last (putPort kind first ports) = putPort kind last ports := by
  induction ports with
  | nil => rfl
  | cons port rest ih =>
      by_cases hit : port.kind = kind
      · simp [putPort, hit, same]
      · simp [putPort, hit, ih]

end Port

/-- A device with another port in the place of the first one of a kind. -/
def Instrument.withPort (device : Instrument) (kind : PortKind) (port : Port) : Instrument :=
  { device with ports := InPlace.putPort kind port device.ports }

namespace Instrument

variable {device : Instrument} {kind : PortKind} {port after : Port}

theorem updatePort_eq_withPort {change : Port → Except Error Port}
    (first : device.port kind = .ok port) (accepted : change port = .ok after) :
    device.updatePort kind change = .ok (device.withPort kind after) := by
  rw [updatePort, Port.updateFirst_eq, port_eq_ok_iff.mp first]
  dsimp only
  rw [accepted]
  rfl

theorem port_withPort (first : device.port kind = .ok port) (same : after.kind = kind) :
    (device.withPort kind after).port kind = .ok after :=
  port_eq_ok_iff.mpr (Port.find?_putPort (port_eq_ok_iff.mp first) same)

theorem withPort_withPort {middle : Port} (same : middle.kind = kind) :
    (device.withPort kind middle).withPort kind after = device.withPort kind after :=
  congrArg (fun ports => { device with ports := ports }) (Port.putPort_putPort same after _)

theorem withPort_of_port (first : device.port kind = .ok port) :
    device.withPort kind port = device :=
  congrArg (fun ports => { device with ports := ports })
    (Port.putPort_of_find? (port_eq_ok_iff.mp first))

end Instrument

namespace Bench

variable {bench : Bench} {handle : Handle} {device : Instrument} {kind : PortKind}
  {port after : Port}

/-! ## Requests that are served one after another -/

/-- The bench after some requests have been served one after another; a refusal ends it. -/
def serveAll (bench : Bench) (requests : List (Request Unit)) : Except Error Bench :=
  requests.foldlM (fun bench request => Outcome.bench <$> request.serve bench) bench

theorem adjustConnected_updatePort {change : Port → Except Error Port}
    (found : bench.driver.instruments.get? handle = some device)
    (connected : device.isConnected = true) (first : device.port kind = .ok port)
    (accepted : change port = .ok after) :
    (bench.adjustConnected handle fun device => device.updatePort kind change) =
      .ok ⟨(), bench.put handle (device.withPort kind after), []⟩ :=
  (adjustConnected_eq_ok_iff_of_found found connected).mpr
    ⟨_, Instrument.updatePort_eq_withPort first accepted, rfl⟩

/-- Turns of one port that are asked for one after another are served, if each is accepted, and
leave the port that the last of them makes. -/
theorem serveAll_turns (request : Nat → Request Unit) {change : Nat → Port → Except Error Port}
    (serves : ∀ bit (bench : Bench), (request bit).serve bench =
      bench.adjustConnected handle fun device => device.updatePort kind (change bit))
    (turns : ∀ bit port after, change bit port = .ok after → port.Turn after)
    {order : List Nat} (found : bench.driver.instruments.get? handle = some device)
    (connected : device.isConnected = true) (first : device.port kind = .ok port)
    (done : order.foldlM (fun port bit => change bit port) port = .ok after) :
    bench.serveAll (order.map request) =
      .ok (bench.put handle (device.withPort kind after)) := by
  induction order generalizing bench device port with
  | nil =>
      obtain rfl := Except.ok.inj done
      rw [Instrument.withPort_of_port first, put, Driver.put_of_get? found]
      rfl
  | cons bit rest ih =>
      rw [List.foldlM_cons, bind_eq_ok_iff] at done
      obtain ⟨middle, accepted, done⟩ := done
      have same : middle.kind = kind :=
        (congrArg Prod.fst (turns bit port middle accepted).retained.form).trans
          (Instrument.kind_of_port first)
      have served : (request bit).serve bench =
          .ok ⟨(), bench.put handle (device.withPort kind middle), []⟩ := by
        rw [serves, adjustConnected_updatePort found connected first accepted]
      have found : (bench.put handle (device.withPort kind middle)).driver.instruments.get? handle =
          some (device.withPort kind middle) := Table.get?_set_self _ _ _
      have later := ih found connected (Instrument.port_withPort first same) done
      rw [Instrument.withPort_withPort same] at later
      rw [List.map_cons, serveAll, List.foldlM_cons, served]
      refine later.trans ?_
      rw [put, put, put, withDriver, withDriver, withDriver, Driver.put, Driver.put, Driver.put,
        Table.set_set]

/-- A bit-configurable port of a connected device is left the same by the requests that go bit by
bit, in any order of its bits, and by the one that takes it as a whole; all of them are served.
Its bits read as the bits of what the port reads as. -/
theorem Reachable.bit_by_bit (reachable : bench.Reachable)
    (found : bench.driver.instruments.get? handle = some device)
    (connected : device.isConnected = true) (first : device.port kind = .ok port)
    (single : port.access = .bitIo) (wide : 1 ≤ port.width) (narrow : port.width ≤ 64) :
    (∀ order : List Nat, order.Perm (List.range port.width) → ∀ direction : Direction,
      let after := bench.put handle
        (device.withPort kind { port with outputs := port.outputsFor direction })
      (Request.configurePort handle kind direction).serve bench = .ok ⟨(), after, []⟩ ∧
      bench.serveAll (order.map fun bit : Nat => .configureBit handle kind bit direction) =
        .ok after) ∧
    ((∀ bit < port.width, port.outputs.toNat.testBit bit = true) →
      ∀ order : List Nat, order.Perm (List.range port.width) →
      ∀ value : UInt64, value.toNat < 2 ^ port.width →
      let after := bench.put handle (device.withPort kind { port with latch := value })
      (Request.writePort handle kind value).serve bench = .ok ⟨(), after, []⟩ ∧
      bench.serveAll (order.map fun bit : Nat =>
        .writeBit handle kind bit (value.toNat.testBit bit).toNat) = .ok after) ∧
    ∃ word, (Request.readPort handle kind).serve bench = .ok (bench.reply word) ∧
      (∀ bit < port.width, (Request.readBit handle kind bit).serve bench =
        .ok (bench.reply (word.toNat.testBit bit).toNat)) ∧
      ∀ bit : Int, ¬(0 ≤ bit ∧ bit < port.width) →
        (Request.readBit handle kind bit).serve bench = .error .badBitNum := by
  have regular : port.Regular := Instrument.regularPorts_invariant.holds reachable found port
    (List.mem_of_find?_eq_some (Instrument.port_eq_ok_iff.mp first))
  have listed {order : List Nat} (each : order.Perm (List.range port.width)) :
      ∀ bit ∈ order, bit < port.width :=
    fun bit member => List.mem_range.mp (each.mem_iff.mp member)
  refine ⟨?_, ?_, port.read, ?_, ?_, ?_⟩
  · intro order each direction after
    refine ⟨adjustConnected_updatePort found connected first
      (Port.configure_of_bitIo single direction), ?_⟩
    have done := Port.foldlM_configureBit single narrow (listed each) direction
    rw [Port.putBits_eq_of_perm each narrow regular.outputs
      (port.within_outputsFor direction)] at done
    exact serveAll_turns (fun bit => .configureBit handle kind bit direction)
      (fun _ _ => rfl) (fun _ _ _ turned => .configureBit _ _ turned) found connected first done
  · intro output order each value small after
    have within : port.Within value := Port.within_of_lt small
    refine ⟨adjustConnected_updatePort found connected first
      (Port.write_of_within within (output 0 wide)), ?_⟩
    have done := Port.foldlM_writeBit narrow (listed each) output value
    rw [Port.putBits_eq_of_perm each narrow regular.latch within] at done
    exact serveAll_turns
      (fun bit => .writeBit handle kind bit (value.toNat.testBit bit).toNat)
      (fun _ _ => rfl) (fun _ _ _ turned => .writeBit _ _ turned) found connected first done
  · exact (askConnected_eq_ok_iff_of_found found connected).mpr ⟨_, by rw [first]; rfl, rfl⟩
  · intro bit inside
    refine (askConnected_eq_ok_iff_of_found found connected).mpr ⟨_, ?_, rfl⟩
    rw [first]
    exact Port.readBit_of_lt narrow inside
  · intro bit outside
    change bench.askConnected handle _ = _
    rw [askConnected_of_connected found connected, ask, Driver.instrument_eq_ok_iff.mpr found]
    simp only [bind, Except.bind, first, Port.readBit_of_outside outside]

/-- The four bits of the auxiliary port are outputs, and one of them is high. -/
def auxiliary : Bench :=
  ((withCells #[]).run
    [.request (.configurePort 1 .auxPort .output), .request (.writePort 1 .auxPort 4)]).1

/-- The bits are turned into inputs, or written, from the middle outwards. -/
theorem bit_by_bit_auxiliary :
    ∃ device, auxiliary.driver.instruments.get? 1 = some device ∧
      auxiliary.serveAll ([2, 1, 3, 0].map fun bit : Nat => .configureBit 1 .auxPort bit .input) =
        .ok (auxiliary.put 1 (device.withPort .auxPort ⟨.auxPort, .bitIo, 4, 4, 0, 0⟩)) ∧
      auxiliary.serveAll ([2, 1, 3, 0].map fun bit : Nat =>
        .writeBit 1 .auxPort bit ((10 : UInt64).toNat.testBit bit).toNat) =
        .ok (auxiliary.put 1 (device.withPort .auxPort ⟨.auxPort, .bitIo, 4, 10, 0, 15⟩)) ∧
      (Request.readBit 1 .auxPort 2).serve auxiliary = .ok (auxiliary.reply 1) := by
  have reachable : auxiliary.Reachable := (withCells_reachable #[]).run _
  have there : (auxiliary.driver.instruments.get? 1).map (fun device =>
      (device.isConnected, device.port .auxPort)) =
      some (true, .ok ⟨.auxPort, .bitIo, 4, 4, 0, 15⟩) := by decide +kernel
  have word : ((Request.readPort 1 .auxPort).serve auxiliary).map Outcome.answer = .ok 4 := by
    decide +kernel
  obtain ⟨device, found, same⟩ := Option.map_eq_some_iff.mp there
  obtain ⟨connected, first⟩ := Prod.mk.inj same
  obtain ⟨configures, writes, read, reads, bits, _⟩ :=
    reachable.bit_by_bit found connected first rfl (by decide) (by decide)
  have each : [2, 1, 3, 0].Perm (List.range 4) := by decide
  refine ⟨device, found, (configures _ each .input).2, (writes (by decide) _ each 10 (by decide)).2,
    ?_⟩
  rw [reads] at word
  obtain rfl : read = 4 := Except.ok.inj word
  exact bits 2 (by decide)

end Bench

end Acquisition
