import Acquisition.Proofs.Latch
import Acquisition.Proofs.PortViews

/-!
# The bits of a port

Everything that writes to a port keeps the bits that the port does not have clear, each in its own
way: a value that is written has to fit, a bit number is checked, and what a row of a scan puts out
is cut off.  A port whose bits have no directions of their own drives all of them or none
(`Port.Regular`).  So reading takes each bit of the port from the side that drives it.

Main statement: `Bench.Reachable.ports_regular`.
-/

namespace Acquisition

namespace Port

variable {port after : Port} {bit : Nat}

/-! ## Words bit by bit -/

/-- The bits of a word, as those of its bit vector. -/
theorem testBit_word (word : UInt64) (bit : Nat) :
    word.toNat.testBit bit = word.toBitVec.getLsbD bit :=
  rfl

/-- A word has 64 bits. -/
theorem testBit_of_le {word : UInt64} (outside : 64 ≤ bit) : word.toNat.testBit bit = false :=
  BitVec.getLsbD_of_ge _ _ outside

theorem testBit_and (left right : UInt64) (bit : Nat) :
    (left &&& right).toNat.testBit bit = (left.toNat.testBit bit && right.toNat.testBit bit) := by
  rw [UInt64.toNat_and, Nat.testBit_and]

theorem testBit_or (left right : UInt64) (bit : Nat) :
    (left ||| right).toNat.testBit bit = (left.toNat.testBit bit || right.toNat.testBit bit) := by
  rw [UInt64.toNat_or, Nat.testBit_or]

theorem testBit_not (word : UInt64) (inside : bit < 64) :
    (~~~word).toNat.testBit bit = !word.toNat.testBit bit := by
  rw [testBit_word, UInt64.toBitVec_not, BitVec.getLsbD_not, decide_eq_true inside, Bool.true_and,
    testBit_word]

theorem toNat_lowBits {width : Nat} (narrow : width ≤ 64) :
    (lowBits width).toNat = 2 ^ width - 1 := by
  unfold lowBits
  split
  · next wide =>
      obtain rfl := Nat.le_antisymm narrow wide
      rfl
  · next inside =>
      have power := toNat_bitMask (Nat.lt_of_not_le inside)
      have positive : 0 < 2 ^ width := Nat.two_pow_pos width
      rw [bitMask] at power
      rw [UInt64.toNat_sub_of_le, power, UInt64.toNat_one]
      rw [UInt64.le_iff_toNat_le, power]
      exact positive

/-- The lowest bits are those below the width. -/
theorem testBit_lowBits {width : Nat} (inside : bit < 64) :
    (lowBits width).toNat.testBit bit = decide (bit < width) := by
  rcases Nat.le_total width 64 with narrow | wide
  · rw [toNat_lowBits narrow, Nat.testBit_two_pow_sub_one]
  · have whole : lowBits width = lowBits 64 := by
      rw [lowBits, if_pos wide]
      rfl
    rw [whole, toNat_lowBits (Nat.le_refl 64), Nat.testBit_two_pow_sub_one,
      decide_eq_true inside, decide_eq_true (Nat.lt_of_lt_of_le inside wide)]

theorem testBit_bitMask {place : Nat} (inside : place < 64) :
    (bitMask place).toNat.testBit bit = decide (place = bit) := by
  rw [toNat_bitMask inside, Nat.testBit_two_pow]

/-! ## The bits that a port has -/

/-- A word has no bit that the port does not have. -/
def Within (port : Port) (word : UInt64) : Prop :=
  ∀ bit, port.width ≤ bit → word.toNat.testBit bit = false

theorem within_zero (port : Port) : port.Within 0 :=
  fun bit _ => Nat.zero_testBit bit

theorem Within.and_left {word : UInt64} (within : port.Within word) (mask : UInt64) :
    port.Within (word &&& mask) := by
  intro bit outside
  rw [testBit_and, within bit outside, Bool.false_and]

theorem Within.or {left right : UInt64} (first : port.Within left) (second : port.Within right) :
    port.Within (left ||| right) := by
  intro bit outside
  rw [testBit_or, first bit outside, second bit outside, Bool.or_false]

/-- What is cut off to the width of the port is within it. -/
theorem within_and_widthMask (port : Port) (word : UInt64) :
    port.Within (word &&& port.widthMask) := by
  intro bit outside
  rcases Nat.lt_or_ge bit 64 with inside | beyond
  · rw [testBit_and, widthMask, testBit_lowBits inside, decide_eq_false (Nat.not_lt.mpr outside),
      Bool.and_false]
  · exact testBit_of_le beyond

theorem within_widthMask (port : Port) : port.Within port.widthMask := by
  have cut := port.within_and_widthMask port.widthMask
  rwa [UInt64.and_self] at cut

/-- A value that fits is within the port. -/
theorem within_of_fits {value : UInt64} (fits : value &&& ~~~port.widthMask = 0) :
    port.Within value := by
  intro bit outside
  rcases Nat.lt_or_ge bit 64 with inside | beyond
  · have clear : (value &&& ~~~port.widthMask).toNat.testBit bit = false := by
      rw [fits]
      exact Nat.zero_testBit bit
    rwa [testBit_and, testBit_not _ inside, widthMask, testBit_lowBits inside,
      decide_eq_false (Nat.not_lt.mpr outside), Bool.not_false, Bool.and_true] at clear
  · exact testBit_of_le beyond

theorem checkBit_eq_ok_iff {reading : Int} :
    port.checkBit reading = .ok bit ↔ 0 ≤ reading ∧ reading < port.width ∧ bit = reading.toNat := by
  unfold checkBit
  split
  · next inside => simp [inside, eq_comm]
  · next outside =>
      refine iff_of_false (by rintro ⟨⟩) ?_
      rintro ⟨low, high, _⟩
      exact outside ⟨low, high⟩

/-- The mask of a bit that the port has is within it. -/
theorem within_bitMask {reading : Int} (checked : port.checkBit reading = .ok bit) :
    port.Within (bitMask bit) := by
  obtain ⟨low, high, rfl⟩ := checkBit_eq_ok_iff.mp checked
  intro place outside
  rcases Nat.lt_or_ge place 64 with inside | beyond
  · have below : reading.toNat < place := by omega
    rw [testBit_bitMask (Nat.lt_trans below inside), decide_eq_false (Nat.ne_of_lt below)]
  · exact testBit_of_le beyond

/-! ## Regular ports -/

/-- A port stores no bit that it does not have, and only a port whose bits have directions of
their own drives some of them and not all. -/
structure Regular (port : Port) : Prop where
  latch : port.Within port.latch
  outputs : port.Within port.outputs
  input : port.access = .input ∨ port.access = .nonConfigurable → port.outputs = 0
  output : port.access = .output → port.outputs = port.widthMask
  bidirectional : port.access = .bidirectional → port.outputs = 0 ∨ port.outputs = port.widthMask

theorem regular_initial (kind : PortKind) (access : PortAccess) (width : Nat) :
    (initial kind access width).Regular where
  latch := within_zero _
  outputs := by
    cases access with
    | output => exact within_widthMask (initial kind .output width)
    | _ => exact within_zero _
  input := by rintro (rfl | rfl) <;> rfl
  output := by rintro rfl; rfl
  bidirectional := by rintro rfl; exact .inl rfl

/-- Configuring a port makes it drive all of its bits or none. -/
theorem configure_eq_ok {direction : Direction} (done : port.configure direction = .ok after) :
    ∃ outputs, after = { port with outputs := outputs } ∧
      (outputs = 0 ∨ outputs = port.widthMask) ∧
      (port.access = .bidirectional ∨ port.access = .bitIo) := by
  unfold Port.configure at done
  split at done
  · next same =>
      refine ⟨_, (Except.ok.inj done).symm, ?_, .inl same⟩
      cases direction <;> simp
  · next same =>
      refine ⟨_, (Except.ok.inj done).symm, ?_, .inr same⟩
      cases direction <;> simp
  · contradiction

/-- A port that can be configured may drive all of its bits or none. -/
theorem Regular.withDirection (regular : port.Regular)
    (free : port.access = .bidirectional ∨ port.access = .bitIo) {outputs : UInt64}
    (whole : outputs = 0 ∨ outputs = port.widthMask) : Regular { port with outputs := outputs } where
  latch := regular.latch
  outputs := by
    rcases whole with rfl | rfl
    · exact port.within_zero
    · exact port.within_widthMask
  input := by rintro (input | fixed) <;> simp_all
  output output := by simp_all
  bidirectional _ := whole

/-- A latch within the port keeps it regular. -/
theorem Regular.withLatch (regular : port.Regular) {latch : UInt64} (within : port.Within latch) :
    Regular { port with latch := latch } where
  latch := within
  outputs := regular.outputs
  input := regular.input
  output := regular.output
  bidirectional := regular.bidirectional

/-- Bits with directions of their own may have any directions. -/
theorem Regular.withOutputs (regular : port.Regular) (single : port.access = .bitIo)
    {outputs : UInt64} (within : port.Within outputs) :
    Regular { port with outputs := outputs } where
  latch := regular.latch
  outputs := within
  input := by rintro (input | fixed) <;> simp_all
  output output := by simp_all
  bidirectional both := by simp_all

theorem Regular.turn (regular : port.Regular) (turn : port.Turn after) : after.Regular := by
  cases turn with
  | configure direction done =>
      obtain ⟨outputs, rfl, whole, free⟩ := configure_eq_ok done
      exact regular.withDirection free whole
  | configureBit bit direction done =>
      unfold Port.configureBit at done
      split at done
      · contradiction
      · next single =>
          simp only [bind_eq_ok_iff, pure_eq_ok_iff] at done
          obtain ⟨place, checked, rfl⟩ := done
          refine regular.withOutputs (not_not.mp single) ?_
          cases direction with
          | output => exact regular.outputs.or (within_bitMask checked)
          | input => exact regular.outputs.and_left _
  | write value done =>
      unfold Port.write at done
      split at done
      · contradiction
      · next fits =>
          split at done
          · contradiction
          · obtain rfl := Except.ok.inj done
            exact regular.withLatch (within_of_fits (not_not.mp fits))
  | writeBit bit value done =>
      simp only [Port.writeBit, bind_eq_ok_iff] at done
      obtain ⟨place, checked, done⟩ := done
      split at done
      · contradiction
      · split at done
        · contradiction
        · obtain rfl := pure_eq_ok_iff.mp done
          refine regular.withLatch ?_
          split
          · exact regular.latch.or (within_bitMask checked)
          · exact regular.latch.and_left _
  | setLevels levels => exact ⟨regular.latch, regular.outputs, regular.input, regular.output,
      regular.bidirectional⟩

/-- A value of an output scan is cut off. -/
theorem Regular.drive (regular : port.Regular) (value : UInt64) : (port.drive value).Regular :=
  regular.withLatch (port.within_and_widthMask value)

/-- Changing the first port of a kind keeps all ports regular, if the change does. -/
theorem regular_updateFirst {kind : PortKind} {change : Port → Except Error Port}
    (keeps : ∀ ⦃port changed : Port⦄, port.Regular → change port = .ok changed → changed.Regular)
    {ports changed : List Port} (all : ∀ port ∈ ports, port.Regular)
    (done : updateFirst kind change ports = .ok changed) : ∀ port ∈ changed, port.Regular := by
  induction ports generalizing changed with
  | nil => simp [updateFirst] at done
  | cons port rest ih =>
      obtain ⟨first, others⟩ := List.forall_mem_cons.mp all
      by_cases hit : port.kind = kind
      · simp only [updateFirst, hit, if_true, bind_eq_ok_iff, pure_eq_ok_iff] at done
        obtain ⟨replaced, accepted, rfl⟩ := done
        exact List.forall_mem_cons.mpr ⟨keeps first accepted, others⟩
      · simp only [updateFirst, hit, if_false, bind_eq_ok_iff, pure_eq_ok_iff] at done
        obtain ⟨later, accepted, rfl⟩ := done
        exact List.forall_mem_cons.mpr ⟨first, ih others accepted⟩

/-! ## Reading -/

/-- A value has the bits of the port, each from the side that drives it. -/
def Shows (port : Port) (value : UInt64) : Prop :=
  ∀ bit, value.toNat.testBit bit =
    (decide (bit < port.width) &&
      if port.outputs.toNat.testBit bit then port.latch.toNat.testBit bit
      else port.levels.toNat.testBit bit)

theorem shows_read (port : Port) : port.Shows port.read := by
  intro bit
  rcases Nat.lt_or_ge bit 64 with inside | beyond
  · rw [read, testBit_and, testBit_or, testBit_and, testBit_and, testBit_not _ inside, widthMask,
      testBit_lowBits inside, Bool.and_comm]
    cases port.outputs.toNat.testBit bit <;> simp
  · simp only [testBit_of_le beyond, Bool.false_eq_true, if_false, Bool.and_false]

end Port

namespace Instrument

variable {instrument : Instrument} {store : Store}

/-- Every port of the device is regular. -/
def HasRegularPorts (instrument : Instrument) : Prop :=
  ∀ port ∈ instrument.ports, port.Regular

theorem HasRegularPorts.drive (regular : instrument.HasRegularPorts) (value : Float)
    (column : Column) : (instrument.drive value column).HasRegularPorts := by
  cases column with
  | analog channel => exact regular
  | counter counter => exact regular
  | port kind =>
      simp only [Instrument.drive]
      split
      · next ports updated =>
          refine Port.regular_updateFirst ?_ regular updated
          intro port changed kept accepted
          exact (Except.ok.inj accepted) ▸ kept.drive _
      · exact regular

theorem HasRegularPorts.generate (buffer : ScanBuffer) (store : Store) (columns : List Column)
    (index : Nat) {instrument : Instrument} (regular : instrument.HasRegularPorts) :
    (generate buffer store columns index instrument).HasRegularPorts := by
  induction columns generalizing index instrument with
  | nil => exact regular
  | cons column rest ih =>
      simp only [Instrument.generate]
      refine ih (index + 1) ?_
      split
      · exact regular.drive _ column
      · exact regular

theorem HasRegularPorts.moveRow (regular : instrument.HasRegularPorts) (store : Store)
    (target : ScanTarget) (run : ScanRun) :
    (instrument.moveRow store target run).1.HasRegularPorts := by
  cases input : target.isInput with
  | true =>
      unfold HasRegularPorts
      rw [ports_moveRow_of_input input]
      exact regular
  | false =>
      simp only [Instrument.moveRow, moveSamples, input, Bool.false_eq_true, if_false]
      exact regular.generate _ _ _ _

theorem HasRegularPorts.act {action : Action} {result : Instrument × Store × List Firing}
    (regular : instrument.HasRegularPorts) (done : action.act instrument store = .ok result) :
    result.1.HasRegularPorts := by
  cases moved : action.moved? with
  | none =>
      unfold HasRegularPorts
      rw [ports_of_unmoved done moved]
      exact regular
  | some target =>
      obtain ⟨rows, rfl⟩ := Action.advance_of_act moved done
      refine advance_induction (P := fun later _ => later.HasRegularPorts) ?_ rows regular
      intro later store run kept _
      exact kept.moveRow store target run

theorem HasRegularPorts.adjust {before after : Instrument} (regular : before.HasRegularPorts)
    (adjustment : before.Adjustment after) : after.HasRegularPorts := by
  rcases adjustment.cases with ⟨_, same⟩ | ⟨kind, change, turns, done⟩
  · unfold HasRegularPorts
    rw [same]
    exact regular
  · simp only [updatePort, bind_eq_ok_iff, pure_eq_ok_iff] at done
    obtain ⟨changed, updated, rfl⟩ := done
    exact Port.regular_updateFirst (fun _ _ kept accepted => kept.turn (turns accepted))
      regular updated

theorem hasRegularPorts_initial (descriptor : Descriptor) (profile : Profile) :
    (initial descriptor profile).HasRegularPorts := by
  intro port listed
  obtain ⟨index, _, found⟩ := List.mem_filterMap.mp listed
  obtain ⟨_, _, _, _, _, same⟩ := Profile.portAt?_eq_some_iff.mp found
  rw [same]
  exact Port.regular_initial _ _ _

theorem regularPorts_invariant : Invariant fun instrument _ => instrument.HasRegularPorts where
  opened descriptor profile _ := hasRegularPorts_initial descriptor profile
  adjusted adjustment regular := regular.adjust adjustment
  acted done regular := regular.act done
  grown _ regular := regular

end Instrument

namespace Bench

variable {bench : Bench} {handle : Handle} {device : Instrument}

/-- The ports of a device are regular, whatever has been done with them.  So a port of a connected
device that can be found is read, and what is read has the bits of the port and no others: the
latch where the port drives the bit, and the level from outside elsewhere. -/
theorem Reachable.ports_regular (reachable : bench.Reachable)
    (found : bench.driver.instruments.get? handle = some device) :
    (∀ port ∈ device.ports, port.Regular) ∧
    (device.isConnected = true → ∀ port ∈ device.ports,
      ((Request.readPort handle port.kind).serve bench).isOk = true) ∧
    ∀ kind outcome, (Request.readPort handle kind).serve bench = .ok outcome →
      ∃ port ∈ device.ports, device.port kind = .ok port ∧ port.Shows outcome.answer ∧
        outcome = bench.reply outcome.answer := by
  refine ⟨Instrument.regularPorts_invariant.holds reachable found, ?_, ?_⟩
  · intro connected port listed
    have some : (device.ports.find? fun other => other.kind = port.kind).isSome = true :=
      List.find?_isSome.mpr ⟨port, listed, decide_eq_true rfl⟩
    obtain ⟨first, there⟩ := Option.isSome_iff_exists.mp some
    have located := Instrument.port_eq_ok_iff.mpr there
    refine isOk_iff.mpr ⟨bench.reply first.read, ?_⟩
    refine (askConnected_eq_ok_iff_of_found found connected).mpr ⟨_, ?_, rfl⟩
    rw [located]
    rfl
  · intro kind outcome served
    obtain ⟨there, value, lookup, _, read, rfl⟩ := askConnected_eq_ok_iff.mp served
    obtain rfl := Option.some.inj (found.symm.trans lookup)
    simp only [bind_eq_ok_iff, pure_eq_ok_iff] at read
    obtain ⟨port, located, rfl⟩ := read
    have first := Instrument.port_eq_ok_iff.mp located
    exact ⟨port, List.mem_of_find?_eq_some first, located, port.shows_read, rfl⟩

/-- A synchronous output scan has put out more bits than the auxiliary port has, one of which is
an output. -/
def overdriven : Bench :=
  ((withCells #[29]).run
    [.request (.configureBit 1 .auxPort 0 .output),
     .request (.scanSyncOut 1 [⟨Coded.code PortKind.auxPort, ⟨0x2⟩, .bip10Volts⟩] 1 1000 .empty
       .empty ⟨0, 1⟩),
     tick .syncOut]).1

/-- What does not fit is cut off, and only the output bit is read from the latch. -/
theorem ports_regular_overdriven :
    ∃ device, overdriven.driver.instruments.get? 1 = some device ∧ device.isConnected = true ∧
      ∃ port, device.ports[0]? = some port ∧ port.latch = 13 ∧ port.outputs = 1 ∧ port.Regular ∧
        ∃ outcome, (Request.readPort 1 .auxPort).serve overdriven = .ok outcome ∧
          outcome.answer = 1 ∧ port.Shows outcome.answer := by
  have reachable : overdriven.Reachable := (withCells_reachable #[29]).run _
  have there : (overdriven.driver.instruments.get? 1).map (fun device =>
      (device.isConnected, device.ports[0]?,
        device.port .auxPort)) = some (true, some ⟨.auxPort, .bitIo, 4, 13, 0, 1⟩,
          .ok ⟨.auxPort, .bitIo, 4, 13, 0, 1⟩) := by decide +kernel
  obtain ⟨device, found, same⟩ := Option.map_eq_some_iff.mp there
  obtain ⟨connected, rest⟩ := Prod.mk.inj same
  obtain ⟨listed, located⟩ := Prod.mk.inj rest
  obtain ⟨regular, served, shown⟩ := reachable.ports_regular found
  have member := List.mem_of_getElem? listed
  cases reads : (Request.readPort 1 .auxPort).serve overdriven with
  | error error =>
      have answered := served connected _ member
      rw [reads] at answered
      contradiction
  | ok outcome =>
      obtain ⟨port, _, first, shows, same⟩ := shown _ _ reads
      obtain rfl := Except.ok.inj (located.symm.trans first)
      have answer : (((Request.readPort 1 .auxPort).serve overdriven).toOption.map
        Outcome.answer) = some 1 := by decide +kernel
      rw [reads] at answer
      exact ⟨device, found, connected, _, listed, rfl, rfl, regular _ member, outcome, rfl,
        Option.some.inj answer, shows⟩

end Bench

end Acquisition
