import Acquisition.Proofs.Ports
import Acquisition.Proofs.Tuning

/-!
# The memory of a device

A profile that has been built lists no region of memory twice (`Profile.Built.nodup_regions`), so
the bytes that a device stores for a region are as many as the profile says.  Only a write that is
accepted changes any of them, and it changes those at its addresses in its own region
(`Tuning.keeps_of_change`).  So each region is an array of bytes of its own, wherever it lies
(`Bench.keeps_run`).

Main statement: `Bench.memory_arrays`.
-/

namespace Acquisition

/-! ## Profiles that have been built -/

namespace Profile

/-- The profile has been built item by item from one that reports nothing. -/
inductive Built : Profile → Prop
  | empty : Built .empty
  | withInteger {profile} (built : Built profile) (subject : Subject) (item : Int) (index : Nat)
      (value : Int) : Built (profile.withInteger subject item index value)
  | withReal {profile} (built : Built profile) (subject : Subject) (item : Int) (index : Nat)
      (value : Float) : Built (profile.withReal subject item index value)
  | without {profile} (built : Built profile) (subject : Subject) (item : Int) (index : Nat) :
      Built (profile.without subject item index)
  | withVersion {profile} (built : Built profile) (component : Component) (version : String) :
      Built (profile.withVersion component version)
  | withMemory {profile} (built : Built profile) (area : MemoryArea) :
      Built (profile.withMemory area)
  | withPacerClock {profile} (built : Built profile) (rate : Float) :
      Built (profile.withPacerClock rate)
  | withCalibration {profile} (built : Built profile) (seconds : Int) (text : String) :
      Built (profile.withCalibration seconds text)

/-- A profile that has been built lists no region twice. -/
theorem Built.nodup_regions {profile : Profile} (built : profile.Built) :
    (profile.memory.map MemoryArea.region).Nodup := by
  induction built with
  | empty => exact List.nodup_nil
  | @withMemory profile _ area ih =>
      have others : ((profile.memory.filter fun other => other.region ≠ area.region).map
          MemoryArea.region).Nodup := ih.sublist (List.filter_sublist.map _)
      simp only [Profile.withMemory, List.map_append, List.map_cons, List.map_nil]
      refine List.nodup_append.mpr ⟨others, List.pairwise_singleton _ _, ?_⟩
      intro region listed other new
      obtain ⟨earlier, kept, rfl⟩ := List.mem_map.mp listed
      obtain rfl := List.mem_singleton.mp new
      simpa using (List.mem_filter.mp kept).2
  | withInteger _ _ _ _ _ ih | withReal _ _ _ _ _ ih | without _ _ _ _ ih | withVersion _ _ _ ih
  | withPacerClock _ _ ih | withCalibration _ _ _ ih => exact ih

/-- The multifunction device has been built. -/
theorem multifunction_built : multifunction.Built := by
  have folded {α : Type} (place : Profile → α → Profile)
      (keeps : ∀ profile entry, Built profile → Built (place profile entry)) (entries : List α)
      (profile : Profile) (built : Built profile) : Built (entries.foldl place profile) := by
    induction entries generalizing profile with
    | nil => exact built
    | cons entry rest ih => exact ih _ (keeps profile entry built)
  refine ((((Built.withVersion ?_ _ _).withVersion _ _).withMemory _).withMemory _).withCalibration
    _ _
  refine folded _ (fun _ entry built => ?_) _ _ (folded _ (fun _ entry built => ?_) _ _ .empty)
  · exact folded _ (fun _ _ built => built.withReal _ _ _ _) _ _ built
  · exact folded _ (fun _ _ built => built.withInteger _ _ _ _) _ _ built

theorem area_eq_ok_iff {profile : Profile} {region : Flags .memoryRegion} {area : MemoryArea} :
    profile.area region = .ok area ↔
      profile.memory.find? (fun area => area.region = region) = some area := by
  unfold Profile.area
  split
  · next found listed => rw [listed, Except.ok.injEq, Option.some.injEq]
  · next absent => rw [absent]; simp

end Profile

namespace Instrument

variable {instrument : Instrument} {region : Flags .memoryRegion} {address : UInt32}
  {length : Nat} {area : MemoryArea}

/-! ## Access -/

/-- Some bytes lie within a region that the device has, and an access to them is permitted. -/
structure Permits (instrument : Instrument) (access : Flags .memoryAccess)
    (region : Flags .memoryRegion) (address : UInt32) (length : Nat) (area : MemoryArea) :
    Prop where
  listed : instrument.profile.area region = .ok area
  permitted : area.access.contains access = true
  low : area.address.toNat ≤ address.toNat
  high : address.toNat + length ≤ area.address.toNat + area.size.toNat

theorem locate_eq_ok_iff {offset : Nat} :
    instrument.locate region address length = .ok (area, offset) ↔
      instrument.profile.area region = .ok area ∧ area.address.toNat ≤ address.toNat ∧
      address.toNat + length ≤ area.address.toNat + area.size.toNat ∧
      offset = address.toNat - area.address.toNat := by
  unfold locate
  rw [bind_eq_ok_iff]
  constructor
  · rintro ⟨found, listed, within⟩
    split at within
    · contradiction
    · next above =>
        dsimp only at within
        split at within
        · contradiction
        · next inside =>
            obtain ⟨rfl, rfl⟩ := Prod.mk.inj (pure_eq_ok_iff.mp within)
            have low := UInt32.le_iff_toNat_le.mp (UInt32.not_lt.mp above)
            exact ⟨listed, low, by omega, rfl⟩
  · rintro ⟨listed, low, high, rfl⟩
    refine ⟨area, listed, ?_⟩
    have above : ¬address < area.address := UInt32.not_lt.mpr (UInt32.le_iff_toNat_le.mpr low)
    have inside : ¬area.size.toNat < address.toNat - area.address.toNat + length := by omega
    rw [if_neg above]
    exact if_neg inside

theorem cells_eq_ok_iff {cells : MemoryCells} :
    instrument.cells region = .ok cells ↔ instrument.memory.get? region = some cells := by
  unfold Instrument.cells
  split
  · next found stored => rw [stored, Except.ok.injEq, Option.some.injEq]
  · next absent => rw [absent]; simp

/-- What is done with the bytes of a region is done if it is permitted, from where they are
stored. -/
theorem access_eq_ok_iff {α : Type} {access : Flags .memoryAccess} (use : Nat → MemoryCells → α)
    {answer : α} :
    (do
      let (area, offset) ← instrument.locate region address length
      if area.access.contains access then
        let cells ← instrument.cells region
        return use offset cells
      else .error .memAccessDenied) = .ok answer ↔
      ∃ area cells, instrument.Permits access region address length area ∧
        instrument.memory.get? region = some cells ∧
        answer = use (address.toNat - area.address.toNat) cells := by
  rw [bind_eq_ok_iff]
  constructor
  · rintro ⟨⟨area, offset⟩, located, accessed⟩
    obtain ⟨listed, low, high, rfl⟩ := locate_eq_ok_iff.mp located
    dsimp only at accessed
    split at accessed
    · next permitted =>
        simp only [bind_eq_ok_iff, pure_eq_ok_iff, cells_eq_ok_iff] at accessed
        obtain ⟨cells, stored, rfl⟩ := accessed
        exact ⟨area, cells, ⟨listed, permitted, low, high⟩, stored, rfl⟩
    · contradiction
  · rintro ⟨area, cells, permits, stored, rfl⟩
    refine ⟨(area, _), locate_eq_ok_iff.mpr ⟨permits.listed, permits.low, permits.high, rfl⟩, ?_⟩
    simp only [permits.permitted, if_true, cells_eq_ok_iff.mpr stored]
    rfl

theorem readMemory_eq_ok_iff {bytes : List UInt8} :
    instrument.readMemory region address length = .ok bytes ↔
      ∃ area cells, instrument.Permits MemoryAccess.read region address length area ∧
        instrument.memory.get? region = some cells ∧
        bytes = cells.read (address.toNat - area.address.toNat) length :=
  access_eq_ok_iff fun offset cells => cells.read offset length

theorem writeMemory_eq_ok_iff {data : List UInt8} {after : Instrument} :
    instrument.writeMemory region address data = .ok after ↔
      ∃ area cells, instrument.Permits MemoryAccess.write region address data.length area ∧
        instrument.memory.get? region = some cells ∧
        after = { instrument with
          memory := instrument.memory.set region
            (cells.write (address.toNat - area.address.toNat) data) } :=
  access_eq_ok_iff fun offset cells => ({ instrument with
    memory := instrument.memory.set region (cells.write offset data) } : Instrument)

/-! ## The bytes that are stored -/

/-- The bytes that are stored for a region are as many as its area has, and they are the given
ones by their addresses. -/
def Keeps (instrument : Instrument) (region : Flags .memoryRegion) (area : MemoryArea)
    (bytes : Nat → UInt8) : Prop :=
  ∃ cells, instrument.memory.get? region = some cells ∧ cells.size = area.size.toNat ∧
    ∀ offset, cells.byte offset = bytes (area.address.toNat + offset)

/-- What is put over the bytes of an array from an address on. -/
def overlay (bytes : Nat → UInt8) (start : Nat) (data : List UInt8) (address : Nat) : UInt8 :=
  if start ≤ address then data.getD (address - start) (bytes address) else bytes address

/-- The blank memory of a list of areas has the bytes of each of them. -/
theorem get?_foldl_blank {areas : List MemoryArea} (once : (areas.map MemoryArea.region).Nodup)
    (memory : Table (Flags .memoryRegion) MemoryCells) (region : Flags .memoryRegion) :
    (areas.foldl (fun memory area => memory.set area.region (.blank area.size.toNat))
      memory).get? region =
      ((areas.find? fun area => area.region = region).map fun area =>
        MemoryCells.blank area.size.toNat).or (memory.get? region) := by
  induction areas generalizing memory with
  | nil => rfl
  | cons area rest ih =>
      obtain ⟨single, others⟩ := List.nodup_cons.mp once
      rw [List.foldl_cons, ih others]
      by_cases same : area.region = region
      · subst same
        have later : (rest.find? fun other => other.region = area.region) = none := by
          refine List.find?_eq_none.mpr fun other listed same => single ?_
          exact List.mem_map.mpr ⟨other, listed, of_decide_eq_true same⟩
        rw [later, List.find?_cons_of_pos (by simp), Table.get?_set_self]
        rfl
      · rw [List.find?_cons_of_neg (by simpa using same),
          Table.get?_set_of_ne _ (Ne.symm same)]

/-- A device that has just been opened has zeros in its memory. -/
theorem keeps_initial (descriptor : Descriptor) {profile : Profile}
    (once : (profile.memory.map MemoryArea.region).Nodup)
    (listed : profile.area region = .ok area) :
    (initial descriptor profile).Keeps region area fun _ => 0 := by
  refine ⟨.blank area.size.toNat, ?_, rfl, MemoryCells.byte_blank _⟩
  refine (get?_foldl_blank once .empty region).trans ?_
  rw [Profile.area_eq_ok_iff.mp listed]
  rfl

/-- A write puts its data over the bytes of its region from its address on. -/
theorem Keeps.write {bytes : Nat → UInt8} (keeps : instrument.Keeps region area bytes)
    {data : List UInt8} {after : Instrument}
    (listed : instrument.profile.area region = .ok area)
    (done : instrument.writeMemory region address data = .ok after) :
    after.Keeps region area (overlay bytes address.toNat data) := by
  obtain ⟨cells, stored, size, each⟩ := keeps
  obtain ⟨other, found, permits, again, rfl⟩ := writeMemory_eq_ok_iff.mp done
  obtain rfl := Except.ok.inj (listed.symm.trans permits.listed)
  obtain rfl := Option.some.inj (stored.symm.trans again)
  refine ⟨_, Table.get?_set_self _ _ _, (MemoryCells.size_write _ _ _).trans size, ?_⟩
  intro offset
  have low := permits.low
  rw [MemoryCells.byte_write, overlay, each]
  by_cases below : address.toNat ≤ area.address.toNat + offset
  · rw [if_pos below, if_pos (Nat.sub_le_iff_le_add'.mpr below)]
    congr 1
    omega
  · rw [if_neg below, if_neg (mt Nat.sub_le_iff_le_add'.mp below)]

/-- What is stored for a region depends on the memory alone. -/
theorem Keeps.of_memory {after : Instrument} {bytes : Nat → UInt8}
    (keeps : instrument.Keeps region area bytes)
    (same : after.memory.get? region = instrument.memory.get? region) :
    after.Keeps region area bytes := by
  obtain ⟨cells, stored, rest⟩ := keeps
  exact ⟨cells, same.trans stored, rest⟩

/-- Data has been put over the bytes of one region from an address on, and nothing else. -/
structure Overwrites (region : Flags .memoryRegion) (address : UInt32) (data : List UInt8)
    (before after : Instrument) : Prop where
  rest : after = { before with memory := after.memory }
  others : ∀ other, other ≠ region → after.memory.get? other = before.memory.get? other
  own : ∀ area bytes, before.profile.area region = .ok area → before.Keeps region area bytes →
    after.Keeps region area (overlay bytes address.toNat data)

theorem overwrites_writeMemory {data : List UInt8} {after : Instrument}
    (done : instrument.writeMemory region address data = .ok after) :
    instrument.Overwrites region address data after where
  rest := by
    obtain ⟨_, _, _, _, rfl⟩ := writeMemory_eq_ok_iff.mp done
    rfl
  others other ne := by
    obtain ⟨_, _, _, _, rfl⟩ := writeMemory_eq_ok_iff.mp done
    exact Table.get?_set_of_ne _ ne _
  own _ _ listed keeps := keeps.write listed done

end Instrument

/-! ## Writes along some commands -/

/-- The byte that a tuning writes to an address of a region. -/
def Tuning.byte? (region : Flags .memoryRegion) (address : Nat) : Tuning → Option UInt8
  | writeMemory other start data =>
      if other = region ∧ start.toNat ≤ address then data[address - start.toNat]? else none
  | _ => none

/-- A tuning changes the bytes that it writes, and no others. -/
theorem Tuning.keeps_of_change {tuning : Tuning} {device after : Instrument}
    {region : Flags .memoryRegion} {area : MemoryArea} {bytes : Nat → UInt8}
    (listed : device.profile.area region = .ok area) (keeps : device.Keeps region area bytes)
    (done : tuning.change device = .ok after) :
    after.Keeps region area fun address => (tuning.byte? region address).getD (bytes address) := by
  cases tuning with
  | writeMemory other start data =>
      by_cases same : other = region
      · subst same
        have wrote : (fun address => ((writeMemory other start data).byte? other address).getD
            (bytes address)) = Instrument.overlay bytes start.toNat data := by
          funext address
          simp only [byte?, Instrument.overlay, true_and, List.getD_eq_getElem?_getD]
          split <;> rfl
        rw [wrote]
        exact keeps.write listed done
      · have elsewhere := (Instrument.overwrites_writeMemory done).others region (Ne.symm same)
        simp only [byte?, same, false_and, if_false, Option.getD_none]
        exact keeps.of_memory elsewhere
  | _ => exact keeps.of_memory (congrArg (Table.get? · region) ((spares done).memory rfl))

namespace Bench

variable {bench : Bench} {handle : Handle} {device after : Instrument} {command : Command}
  {region : Flags .memoryRegion} {area : MemoryArea}

/-- The byte that a command makes the device behind a handle write to an address of a region. -/
def wrote? (bench : Bench) (handle : Handle) (region : Flags .memoryRegion) (address : Nat)
    (command : Command) : Option UInt8 :=
  (bench.tuned? handle command).bind (Tuning.byte? region address)

/-- The byte that commands write last to an address of a region, or else the one before. -/
def lastByte (handle : Handle) (region : Flags .memoryRegion) (address : Nat) :
    Bench → UInt8 → List Command → UInt8
  | _, last, [] => last
  | bench, last, command :: rest =>
      lastByte handle region address (bench.step command).1
        ((bench.wrote? handle region address command).getD last) rest

/-- A command changes the bytes that it makes the device write, and no others. -/
theorem keeps_step {bytes : Nat → UInt8}
    (found : bench.driver.instruments.get? handle = some device)
    (still : (bench.step command).1.driver.instruments.get? handle = some after)
    (issued : handle < bench.driver.nextHandle)
    (listed : device.profile.area region = .ok area) (keeps : device.Keeps region area bytes) :
    after.Keeps region area fun address =>
      (bench.wrote? handle region address command).getD (bytes address) := by
  unfold wrote?
  cases taken : bench.taken? handle command with
  | some action =>
      obtain ⟨before, result, there, done, acted, _⟩ := step_of_taken? taken
      obtain rfl := Option.some.inj (found.symm.trans there)
      obtain rfl := Option.some.inj (acted.get?_self.symm.trans still)
      rw [tuned?_of_action? (taken?_eq_some_iff.mp taken).1]
      obtain ⟨_, _, _, _, _, _, _, _, rest⟩ := Action.rest_of_act done
      refine keeps.of_memory ?_
      rw [rest]
  | none =>
      rcases tuned_or_same found still taken issued with ⟨untuned, rfl⟩ | ⟨tuning, tuned, done⟩
      · rw [untuned]
        exact keeps
      · rw [tuned]
        exact Tuning.keeps_of_change listed keeps (Tuning.act_eq_ok_iff.mp done).2

/-- A device keeps the bytes that were written last to each region, also when it is opened on the
way. -/
theorem keeps_run {commands : List Command} (reachable : bench.Reachable) (bytes : Nat → UInt8)
    (before : ∀ device, bench.driver.instruments.get? handle = some device →
      device.Keeps region area bytes)
    (absent : bench.driver.instruments.get? handle = none → bytes = fun _ => 0)
    (found : (bench.run commands).1.driver.instruments.get? handle = some after)
    (once : (after.profile.memory.map MemoryArea.region).Nodup)
    (listed : after.profile.area region = .ok area) :
    after.Keeps region area fun address =>
      lastByte handle region address bench (bytes address) commands := by
  induction commands generalizing bench bytes with
  | nil => exact before after found
  | cons command rest ih =>
      have next := reachable.step command
      refine ih next (fun address =>
        (bench.wrote? handle region address command).getD (bytes address)) ?_ ?_ found
      · intro middle between
        have same : after.profile = middle.profile :=
          profile_of_run between found (next.issued between)
        cases there : bench.driver.instruments.get? handle with
        | none =>
            obtain ⟨descriptor, profile, rfl⟩ := initial_of_step there between
            have blank := Instrument.keeps_initial descriptor (same ▸ once) (same ▸ listed)
            have unwritten : (fun address => (bench.wrote? handle region address command).getD
                (bytes address)) = fun _ => 0 := by
              simp [wrote?, tuned?, there, absent there]
            rw [unwritten]
            exact blank
        | some device =>
            have issued := reachable.issued there
            have earlier : middle.profile = device.profile :=
              profile_of_step there between issued
            have area : device.profile.area region = .ok area := earlier ▸ same ▸ listed
            exact keeps_step there between issued area (before device there)
      · intro gone
        have there : bench.driver.instruments.get? handle = none := by
          cases there : bench.driver.instruments.get? handle with
          | none => rfl
          | some device =>
              have issued := reachable.issued there
              obtain ⟨middle, between⟩ := found_of_run
                (Int.lt_of_lt_of_le issued (bench.nextHandle_le_step command)) found
              rw [gone] at between
              contradiction
        simp [wrote?, tuned?, there, absent there]

/-- The memory of a connected device is what bytes by region and address say.  As many bytes are
stored as the profile describes, so an access that is located stays inside them; reading and
writing are served exactly where they are permitted, reading answers the bytes, and writing puts
its data over those of its own region. -/
structure HoldsMemory (bench : Bench) (handle : Handle) (device : Instrument)
    (bytes : Flags .memoryRegion → Nat → UInt8) : Prop where
  arrays : ∀ region area, device.profile.area region = .ok area →
    device.Keeps region area (bytes region)
  inside : ∀ region address length area offset,
    device.locate region address length = .ok (area, offset) →
    ∃ cells, device.memory.get? region = some cells ∧ cells.size = area.size.toNat ∧
      offset + length ≤ cells.size
  reads_iff : ∀ region address length,
    ((Request.readMemory handle region address length).serve bench).isOk = true ↔
      ∃ area, device.Permits MemoryAccess.read region address length area
  reads : ∀ region address length outcome,
    (Request.readMemory handle region address length).serve bench = .ok outcome →
    outcome = bench.reply
      ((List.range length).map fun index => bytes region (address.toNat + index))
  writes_iff : ∀ region address data,
    ((Request.writeMemory handle region address data).serve bench).isOk = true ↔
      ∃ area, device.Permits MemoryAccess.write region address data.length area
  writes : ∀ region address data outcome,
    (Request.writeMemory handle region address data).serve bench = .ok outcome →
    ∃ after, outcome = ⟨(), bench.put handle after, []⟩ ∧
      device.Overwrites region address data after

/-- A connected device that keeps the bytes of all its regions holds them as its memory. -/
theorem HoldsMemory.of_keeps {bytes : Flags .memoryRegion → Nat → UInt8}
    (found : bench.driver.instruments.get? handle = some device)
    (connected : device.isConnected = true)
    (keeps : ∀ region area, device.profile.area region = .ok area →
      device.Keeps region area (bytes region)) : bench.HoldsMemory handle device bytes where
  arrays := keeps
  inside region address length area offset located := by
    obtain ⟨listed, low, high, rfl⟩ := Instrument.locate_eq_ok_iff.mp located
    obtain ⟨cells, stored, size, _⟩ := keeps region area listed
    exact ⟨cells, stored, size, by omega⟩
  reads_iff region address length := by
    rw [isOk_iff]
    constructor
    · rintro ⟨_, served⟩
      obtain ⟨_, read, _⟩ := (askConnected_eq_ok_iff_of_found found connected).mp served
      obtain ⟨area, _, permits, _⟩ := Instrument.readMemory_eq_ok_iff.mp read
      exact ⟨area, permits⟩
    · rintro ⟨area, permits⟩
      obtain ⟨cells, stored, _⟩ := keeps region area permits.listed
      have read := Instrument.readMemory_eq_ok_iff.mpr ⟨area, cells, permits, stored, rfl⟩
      exact ⟨_, (askConnected_eq_ok_iff_of_found found connected).mpr ⟨_, read, rfl⟩⟩
  reads region address length outcome served := by
    obtain ⟨_, read, rfl⟩ := (askConnected_eq_ok_iff_of_found found connected).mp served
    obtain ⟨area, cells, permits, stored, rfl⟩ := Instrument.readMemory_eq_ok_iff.mp read
    obtain ⟨_, again, _, each⟩ := keeps region area permits.listed
    obtain rfl := Option.some.inj (stored.symm.trans again)
    have low := permits.low
    rw [MemoryCells.read, List.range'_eq_map_range, List.map_map]
    congr 1
    refine List.map_congr_left fun index _ => ?_
    rw [Function.comp_apply, each]
    congr 1
    omega
  writes_iff region address data := by
    rw [isOk_iff]
    constructor
    · rintro ⟨_, served⟩
      obtain ⟨_, wrote, _⟩ := (adjustConnected_eq_ok_iff_of_found found connected).mp served
      obtain ⟨area, _, permits, _⟩ := Instrument.writeMemory_eq_ok_iff.mp wrote
      exact ⟨area, permits⟩
    · rintro ⟨area, permits⟩
      obtain ⟨cells, stored, _⟩ := keeps region area permits.listed
      have wrote := Instrument.writeMemory_eq_ok_iff.mpr ⟨area, cells, permits, stored, rfl⟩
      exact ⟨_, (adjustConnected_eq_ok_iff_of_found found connected).mpr ⟨_, wrote, rfl⟩⟩
  writes region address data outcome served := by
    obtain ⟨after, wrote, same⟩ :=
      (adjustConnected_eq_ok_iff_of_found found connected).mp served
    exact ⟨after, same, Instrument.overwrites_writeMemory wrote⟩

/-- The memory of a device along any commands: each byte is the one that was written last to its
region and address by a write that was accepted, or zero if there is none. -/
theorem memory_arrays {commands : List Command}
    (found : (Bench.initial.run commands).1.driver.instruments.get? handle = some device)
    (connected : device.isConnected = true) (built : device.profile.Built) :
    (Bench.initial.run commands).1.HoldsMemory handle device fun region address =>
      lastByte handle region address .initial 0 commands := by
  refine .of_keeps found connected fun region area listed => ?_
  exact keeps_run .initial (fun _ => 0) nofun (fun _ => rfl) found built.nodup_regions listed

/-- The multifunction device with a region more, which lies within the one of its user. -/
def layered : Profile :=
  Profile.multifunction.withMemory
    ⟨.named ["SETTINGS"], 0x10, 16, MemoryAccess.read.union MemoryAccess.write⟩

/-- Both regions are written to at the same addresses, one of them twice. -/
def overwriting : List Command :=
  let device := Descriptor.ofIdentity "USB-1808X" 317 (.named ["USB"]) "01D97CFA"
  [.stimulus (.attach device layered), .request (.create device), .request (.connect 1),
   .request (.writeMemory 1 (.named ["USER"]) 0x10 [1, 2, 3]),
   .request (.writeMemory 1 (.named ["SETTINGS"]) 0x11 [9, 9]),
   .request (.writeMemory 1 (.named ["USER"]) 0x12 [7])]

/-- Reading answers the bytes that were written last to the region, and zeros beside them. -/
theorem memory_arrays_overwritten :
    ∃ device, (Bench.initial.run overwriting).1.driver.instruments.get? 1 = some device ∧
      device.isConnected = true ∧ device.profile.Built ∧
      ∃ outcome, (Request.readMemory 1 (.named ["USER"]) 0x10 4).serve
          (Bench.initial.run overwriting).1 = .ok outcome ∧ outcome.answer = [1, 2, 7, 0] := by
  have ready : ((Bench.initial.run overwriting).1.driver.instruments.get? 1).map
      Instrument.isConnected = some true := by decide +kernel
  have profile : ((Bench.initial.run overwriting).1.driver.instruments.get? 1).map
      Instrument.profile = some layered := rfl
  obtain ⟨device, found, connected⟩ := Option.map_eq_some_iff.mp ready
  rw [found, Option.map_some, Option.some.injEq] at profile
  have built : device.profile.Built := profile ▸ Profile.multifunction_built.withMemory _
  have holds := memory_arrays found connected built
  have answered : ((Request.readMemory 1 (.named ["USER"]) 0x10 4).serve
      (Bench.initial.run overwriting).1).isOk = true := by decide +kernel
  obtain ⟨outcome, served⟩ := isOk_iff.mp answered
  refine ⟨device, found, connected, built, outcome, served, ?_⟩
  rw [holds.reads _ _ _ _ served]
  decide +kernel

end Bench

end Acquisition
