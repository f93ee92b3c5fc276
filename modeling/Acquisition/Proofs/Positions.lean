import Acquisition.Proofs.Ports

/-!
# Positions of ports

A port has three positions: the one in the list that the profile reports, at which a caller
finds it (`Profile.portPosition`); the one in the same list among the entries that the driver
understands (`Profile.firstKnown?`); and the one in the list of ports that the driver keeps, by
which it tells the mask of a port.  They are the same where the driver understands every entry
up to the port (`Profile.ListsPlainly`).
-/

namespace Acquisition

/-- The code of a port is read back as the port. -/
theorem PortKind.ofCode?_code (kind : PortKind) :
    Coded.ofCode? (Coded.code kind : Int) = some kind := by
  cases kind <;> rfl

/-- As long as every value is kept, a kept value stays at its place. -/
theorem getElem?_filterMap_range' {α : Type} {keep : Nat → Option α} {value : α}
    {start count offset : Nat} (inside : offset < count)
    (total : ∀ earlier < offset, (keep (start + earlier)).isSome = true)
    (kept : keep (start + offset) = some value) :
    ((List.range' start count).filterMap keep)[offset]? = some value := by
  induction count generalizing start offset with
  | zero => contradiction
  | succ count ih =>
      rw [List.range'_succ]
      cases offset with
      | zero =>
          rw [Nat.add_zero] at kept
          rw [List.filterMap_cons_some kept, List.getElem?_cons_zero]
      | succ offset =>
          obtain ⟨first, found⟩ := Option.isSome_iff_exists.mp (total 0 (Nat.succ_pos offset))
          rw [Nat.add_zero] at found
          rw [List.filterMap_cons_some found, List.getElem?_cons_succ]
          refine ih (Nat.lt_of_succ_lt_succ inside) ?_ ?_
          · intro earlier before
            rw [Nat.add_right_comm, Nat.add_assoc]
            exact total (earlier + 1) (Nat.succ_lt_succ before)
          · rw [Nat.add_right_comm, Nat.add_assoc]
            exact kept

namespace Port

variable {kind : PortKind} {ports : List Port} {port changed : Port}
  {change : Port → Except Error Port}

theorem updateFirst_of_refused {error : Error}
    (first : ports.find? (fun port => port.kind = kind) = some port)
    (refused : change port = .error error) : updateFirst kind change ports = .error error := by
  induction ports with
  | nil => contradiction
  | cons head rest ih =>
      by_cases hit : head.kind = kind
      · rw [List.find?_cons_of_pos (by simpa using hit), Option.some.injEq] at first
        subst first
        rw [updateFirst, if_pos hit, refused]
        rfl
      · rw [List.find?_cons_of_neg (by simpa using hit)] at first
        rw [updateFirst, if_neg hit, ih first]
        rfl

theorem updateFirst_of_accepted
    (first : ports.find? (fun port => port.kind = kind) = some port)
    (accepted : change port = .ok changed) (same : changed.kind = kind) :
    ∃ after, updateFirst kind change ports = .ok after ∧
      after.find? (fun port => port.kind = kind) = some changed := by
  induction ports with
  | nil => contradiction
  | cons head rest ih =>
      by_cases hit : head.kind = kind
      · rw [List.find?_cons_of_pos (by simpa using hit), Option.some.injEq] at first
        subst first
        refine ⟨changed :: rest, ?_, List.find?_cons_of_pos (by simpa using same)⟩
        rw [updateFirst, if_pos hit, accepted]
        rfl
      · rw [List.find?_cons_of_neg (by simpa using hit)] at first
        obtain ⟨after, updated, found⟩ := ih first
        refine ⟨head :: after, ?_, (List.find?_cons_of_neg (by simpa using hit)).trans found⟩
        rw [updateFirst, if_neg hit, updated]
        rfl

end Port

namespace Profile

variable {profile : Profile} {kind : PortKind} {position remaining index : Nat}

/-! ## Readings -/

theorem integerD_of_integer {subject : Subject} {item value : Int} {default : Int}
    (read : profile.integer subject item index = .ok value) :
    profile.integerD subject item index default = value := by
  unfold integer at read
  split at read
  · next reading found =>
      obtain rfl := Except.ok.inj read
      rw [integerD, Table.getD, found, Option.getD_some]
  · contradiction

theorem integerD_of_integer_error {subject : Subject} {item : Int} {default : Int} {error : Error}
    (absent : profile.integer subject item index = .error error) :
    profile.integerD subject item index default = default := by
  unfold integer at absent
  split at absent
  · contradiction
  · next found => rw [integerD, Table.getD, found, Option.getD_none]

/-! ## The list that is reported -/

/-- The code of the port that is listed at a position. -/
def portCode (profile : Profile) (index : Nat) : Except Error Int :=
  profile.integer .digital Item.Digital.portKind index

/-- The first of some positions that follow each other at which a port is listed. -/
def searchPort (profile : Profile) (kind : PortKind) (position : Nat) : Nat → Except Error Nat
  | 0 => .error .badPortType
  | remaining + 1 => do
      let code ← profile.portCode position
      if code = Coded.code kind then return position
      else profile.searchPort kind (position + 1) remaining

/-- The position at which a caller finds a port. -/
def portPosition (profile : Profile) (kind : PortKind) : Except Error Nat := do
  let count ← profile.integer .digital Item.Digital.portCount 0
  profile.searchPort kind 0 (Number.word (Number.count count)).toNat

theorem indexCount_of_integer {subject : Subject} {item count : Int}
    (counted : profile.integer subject item 0 = .ok count) :
    profile.indexCount subject item = (Number.word (Number.count count)).toNat := by
  rw [indexCount, integerD_of_integer counted, Number.count, Int.max_comm, Int.toNat_eq_max]

/-- Positions are counted only if their number is reported. -/
theorem integer_of_indexCount
    (inside : index < profile.indexCount .digital Item.Digital.portCount) :
    ∃ count, profile.integer .digital Item.Digital.portCount 0 = .ok count ∧
      profile.indexCount .digital Item.Digital.portCount =
        (Number.word (Number.count count)).toNat := by
  cases counted : profile.integer .digital Item.Digital.portCount 0 with
  | ok count => exact ⟨count, rfl, indexCount_of_integer counted⟩
  | error error =>
      rw [indexCount, integerD_of_integer_error counted] at inside
      exact absurd inside (Nat.not_lt_zero _)

theorem searchPort_eq_ok_iff :
    profile.searchPort kind position remaining = .ok index ↔
      position ≤ index ∧ index < position + remaining ∧
        profile.portCode index = .ok (Coded.code kind : Int) ∧
        ∀ earlier, position ≤ earlier → earlier < index →
          ∃ code, profile.portCode earlier = .ok code ∧ code ≠ Coded.code kind := by
  induction remaining generalizing position with
  | zero =>
      constructor
      · intro found
        contradiction
      · rintro ⟨low, high, _⟩
        omega
  | succ remaining ih =>
      simp only [searchPort, bind_eq_ok_iff]
      constructor
      · rintro ⟨code, read, found⟩
        split at found
        · next same =>
            obtain rfl := pure_eq_ok_iff.mp found
            exact ⟨Nat.le_refl _, by omega, same ▸ read, fun earlier low high => by omega⟩
        · next other =>
            obtain ⟨low, high, there, before⟩ := ih.mp found
            refine ⟨by omega, by omega, there, ?_⟩
            intro earlier reached early
            rcases Nat.eq_or_lt_of_le reached with rfl | later
            · exact ⟨code, read, other⟩
            · exact before earlier later early
      · rintro ⟨low, high, there, before⟩
        rcases Nat.eq_or_lt_of_le low with rfl | later
        · exact ⟨_, there, if_pos rfl⟩
        · obtain ⟨code, read, other⟩ := before position (Nat.le_refl _) later
          refine ⟨code, read, ?_⟩
          rw [if_neg other]
          exact ih.mpr ⟨later, by omega, there, fun earlier reached early =>
            before earlier (by omega) early⟩

theorem lt_indexCount_of_portPosition (found : profile.portPosition kind = .ok index) :
    index < profile.indexCount .digital Item.Digital.portCount := by
  simp only [portPosition, bind_eq_ok_iff] at found
  obtain ⟨count, counted, searched⟩ := found
  obtain ⟨_, inside, _⟩ := searchPort_eq_ok_iff.mp searched
  rw [indexCount_of_integer counted]
  omega

/-! ## The entries that the driver understands -/

/-- The position of the first entry for a port that the driver understands. -/
def firstKnown? (profile : Profile) (kind : PortKind) : Option Nat :=
  (List.range (profile.indexCount .digital Item.Digital.portCount)).find? fun index =>
    (Instrument.portAt? profile index).any fun port => port.kind = kind

/-- The driver understands every entry that is listed before the one for a port. -/
def ListsPlainly (profile : Profile) (kind : PortKind) : Prop :=
  ∀ index ∈ profile.firstKnown? kind, ∀ earlier < index,
    (Instrument.portAt? profile earlier).isSome = true

instance : Decidable (profile.ListsPlainly kind) :=
  inferInstanceAs (Decidable (∀ index ∈ profile.firstKnown? kind, ∀ earlier < index, _))

theorem portAt?_eq_some_iff {port : Port} :
    Instrument.portAt? profile index = some port ↔
      ∃ code access, profile.portCode index = .ok code ∧
        Coded.ofCode? code = some port.kind ∧
        Coded.ofCode? (profile.integerD .digital Item.Digital.portAccess index
          (Coded.code PortAccess.bidirectional)) = some access ∧
        port = .initial port.kind access
          (Number.word (profile.integerD .digital Item.Digital.bitCount index 8)).toNat := by
  simp only [Instrument.portAt?, portCode, Option.bind_eq_bind, Option.bind_eq_some_iff,
    Option.pure_def, Option.some.injEq]
  constructor
  · rintro ⟨code, read, kind, known, access, chosen, rfl⟩
    cases asked : profile.integer .digital Item.Digital.portKind index with
    | error error => simp [asked, Except.toOption] at read
    | ok reading =>
        rw [asked] at read
        obtain rfl := Option.some.inj read
        exact ⟨_, access, rfl, known, chosen, rfl⟩
  · rintro ⟨code, access, read, known, chosen, same⟩
    exact ⟨code, by rw [read]; rfl, port.kind, known, access, chosen, same.symm⟩

theorem firstKnown?_eq_some_iff :
    profile.firstKnown? kind = some index ↔
      index < profile.indexCount .digital Item.Digital.portCount ∧
      (∃ port, Instrument.portAt? profile index = some port ∧ port.kind = kind) ∧
      ∀ earlier < index, ∀ port, Instrument.portAt? profile earlier = some port →
        port.kind ≠ kind := by
  simp only [firstKnown?, List.find?_range_eq_some, List.mem_range, Option.any_eq_true,
    decide_eq_true_eq, Bool.not_eq_true', Option.any_eq_false, decide_eq_false_iff_not]
  constructor
  · rintro ⟨⟨port, there, same⟩, inside, before⟩
    exact ⟨inside, ⟨port, there, same⟩, before⟩
  · rintro ⟨inside, ⟨port, there, same⟩, before⟩
    exact ⟨⟨port, there, same⟩, inside, before⟩

/-- The entry for a port that the driver understands has the code of the port. -/
theorem portCode_of_known {port : Port} (known : Instrument.portAt? profile index = some port) :
    profile.portCode index = .ok (Coded.code port.kind : Int) := by
  obtain ⟨code, _, read, found, _⟩ := portAt?_eq_some_iff.mp known
  rw [read, Coded.code_eq_of_ofCode? found]

/-- A caller finds a port where the driver understands it, if the driver understands all that is
listed before. -/
theorem portPosition_of_plain (plain : profile.ListsPlainly kind)
    (known : profile.firstKnown? kind = some index) : profile.portPosition kind = .ok index := by
  obtain ⟨inside, ⟨port, there, rfl⟩, before⟩ := firstKnown?_eq_some_iff.mp known
  obtain ⟨count, counted, same⟩ := integer_of_indexCount inside
  simp only [portPosition, counted, bind_eq_ok_iff]
  refine ⟨count, rfl, searchPort_eq_ok_iff.mpr ⟨Nat.zero_le _, ?_, portCode_of_known there, ?_⟩⟩
  · rw [Nat.zero_add, ← same]
    exact inside
  · intro earlier _ early
    obtain ⟨other, found⟩ := Option.isSome_iff_exists.mp (plain index known earlier early)
    obtain ⟨code, _, read, coded, _⟩ := portAt?_eq_some_iff.mp found
    refine ⟨code, read, ?_⟩
    rintro rfl
    rw [PortKind.ofCode?_code] at coded
    exact before earlier early other found (Option.some.inj coded).symm

/-- The driver understands the entry at which a caller finds a port, if its access is reported
and is a valid one. -/
theorem portAt?_of_portPosition {code count : Int} {access : PortAccess}
    (found : profile.portPosition kind = .ok index)
    (accessed : profile.integer .digital Item.Digital.portAccess index = .ok code)
    (chosen : Coded.ofCode? code = some access)
    (counted : profile.integer .digital Item.Digital.bitCount index = .ok count) :
    Instrument.portAt? profile index = some (.initial kind access (Number.word count).toNat) := by
  simp only [portPosition, bind_eq_ok_iff] at found
  obtain ⟨_, _, searched⟩ := found
  obtain ⟨_, _, read, _⟩ := searchPort_eq_ok_iff.mp searched
  refine portAt?_eq_some_iff.mpr ⟨_, access, read, PortKind.ofCode?_code kind, ?_, ?_⟩
  · rw [integerD_of_integer accessed, chosen]
  · rw [integerD_of_integer counted]
    rfl

/-- If a caller finds a port at a position whose entry the driver understands, then this is the
first one for the port that the driver understands. -/
theorem firstKnown?_of_portPosition {port : Port}
    (found : profile.portPosition kind = .ok index)
    (known : Instrument.portAt? profile index = some port) :
    profile.firstKnown? kind = some index := by
  have inside := lt_indexCount_of_portPosition found
  simp only [portPosition, bind_eq_ok_iff] at found
  obtain ⟨_, _, searched⟩ := found
  obtain ⟨_, _, read, before⟩ := searchPort_eq_ok_iff.mp searched
  refine firstKnown?_eq_some_iff.mpr ⟨inside, ⟨port, known, ?_⟩, ?_⟩
  · rw [portCode_of_known known] at read
    have same := PortKind.ofCode?_code port.kind
    rw [Except.ok.inj read, PortKind.ofCode?_code] at same
    exact (Option.some.inj same).symm
  · intro earlier early other there same
    obtain ⟨code, coded, differs⟩ := before earlier (Nat.zero_le _) early
    rw [portCode_of_known there, same] at coded
    exact differs (Except.ok.inj coded).symm

end Profile

namespace Instrument

variable {instrument : Instrument} {kind : PortKind} {port : Port} {index : Nat}

/-! ## The ports that the driver keeps -/

theorem port_eq_ok_iff :
    instrument.port kind = .ok port ↔
      instrument.ports.find? (fun port => port.kind = kind) = some port := by
  unfold Instrument.port
  split
  · next other found => rw [found, Except.ok.injEq, Option.some.injEq]
  · next absent => rw [absent]; simp

theorem kind_of_port (first : instrument.port kind = .ok port) : port.kind = kind := by
  simpa using List.find?_some (port_eq_ok_iff.mp first)

/-- The port that the driver keeps was made from the first entry for it that it understands. -/
theorem HasForms.firstKnown? (forms : instrument.HasForms)
    (first : instrument.port kind = .ok port) :
    ∃ index initial, instrument.profile.firstKnown? kind = some index ∧
      portAt? instrument.profile index = some initial ∧ initial.form = port.form := by
  have shown : (instrument.ports.map Port.form).find? (fun form => form.1 = kind) =
      some port.form := by
    rw [List.find?_map, show (fun form : PortKind × PortAccess × Nat => decide (form.1 = kind)) ∘
      Port.form = fun port => decide (port.kind = kind) from rfl, port_eq_ok_iff.mp first]
    rfl
  rw [forms, List.find?_map, Option.map_eq_some_iff] at shown
  obtain ⟨initial, found, same⟩ := shown
  rw [portsOf, List.find?_filterMap, Option.bind_eq_some_iff] at found
  obtain ⟨index, known, there⟩ := found
  exact ⟨index, initial, known, there, same⟩

/-- The driver keeps a port at the position of its entry, if it understands all that is listed
before. -/
theorem HasForms.getElem?_ports (forms : instrument.HasForms)
    (first : instrument.port kind = .ok port) (plain : instrument.profile.ListsPlainly kind)
    (known : instrument.profile.firstKnown? kind = some index) :
    instrument.ports[index]? = some port := by
  obtain ⟨inside, ⟨initial, there, same⟩, before⟩ := Profile.firstKnown?_eq_some_iff.mp known
  have understood := plain index known
  have listed {position : Nat} {entry : Port} (reached : position ≤ index)
      (found : portAt? instrument.profile position = some entry) :
      ∃ kept, instrument.ports[position]? = some kept ∧ kept.kind = entry.kind := by
    have placed : (portsOf instrument.profile)[position]? = some entry := by
      rw [portsOf, List.range_eq_range']
      refine getElem?_filterMap_range' (Nat.lt_of_le_of_lt reached inside) ?_ ?_
      · intro earlier early
        rw [Nat.zero_add]
        exact understood earlier (Nat.lt_of_lt_of_le early reached)
      · rw [Nat.zero_add]
        exact found
    have shown : (instrument.ports.map Port.form)[position]? = some entry.form := by
      rw [forms, List.getElem?_map, placed, Option.map_some]
    rw [List.getElem?_map, Option.map_eq_some_iff] at shown
    obtain ⟨kept, found, form⟩ := shown
    exact ⟨kept, found, congrArg Prod.fst form⟩
  obtain ⟨kept, placed, sameKind⟩ := listed (Nat.le_refl index) there
  obtain ⟨within, rfl⟩ := List.getElem?_eq_some_iff.mp placed
  have found : instrument.ports.find? (fun port => port.kind = kind) =
      some instrument.ports[index] := by
    refine List.find?_eq_some_iff_getElem.mpr ⟨by simp [sameKind, same], index, within, rfl, ?_⟩
    intro earlier early
    obtain ⟨entry, recognised⟩ := Option.isSome_iff_exists.mp (understood earlier early)
    obtain ⟨other, stands, otherKind⟩ := listed (Nat.le_of_lt early) recognised
    obtain ⟨_, rfl⟩ := List.getElem?_eq_some_iff.mp stands
    simp [otherKind, before earlier early entry recognised]
  rw [port_eq_ok_iff, found] at first
  rw [placed, first]

/-- A port has the bits that are reported at the position at which a caller finds it. -/
theorem HasForms.width_of_portPosition (forms : instrument.HasForms) {code count : Int}
    {access : PortAccess} (first : instrument.port kind = .ok port)
    (found : instrument.profile.portPosition kind = .ok index)
    (accessed : instrument.profile.integer .digital Item.Digital.portAccess index = .ok code)
    (chosen : Coded.ofCode? code = some access)
    (counted : instrument.profile.integer .digital Item.Digital.bitCount index = .ok count) :
    port.width = (Number.word count).toNat := by
  have understood := Profile.portAt?_of_portPosition found accessed chosen counted
  have known := Profile.firstKnown?_of_portPosition found understood
  obtain ⟨position, initial, firstKnown, there, same⟩ := forms.firstKnown? first
  obtain rfl := Option.some.inj (known.symm.trans firstKnown)
  obtain rfl := Option.some.inj (understood.symm.trans there)
  exact (congrArg (fun form => form.2.2) same).symm

/-! ## Work on a port -/

/-- A change of the port that the driver finds that is refused changes nothing. -/
theorem updatePort_of_refused {change : Port → Except Error Port} {error : Error}
    (first : instrument.port kind = .ok port) (refused : change port = .error error) :
    instrument.updatePort kind change = .error error := by
  rw [updatePort, Port.updateFirst_of_refused (port_eq_ok_iff.mp first) refused]
  rfl

/-- What is changed is the port that the driver finds. -/
theorem updatePort_of_accepted {change : Port → Except Error Port} {changed : Port}
    (first : instrument.port kind = .ok port) (accepted : change port = .ok changed)
    (turn : port.Turn changed) :
    ∃ after, instrument.updatePort kind change = .ok after ∧ after.port kind = .ok changed := by
  have same : changed.kind = kind :=
    (congrArg Prod.fst turn.retained.form).trans (kind_of_port first)
  obtain ⟨ports, updated, found⟩ :=
    Port.updateFirst_of_accepted (port_eq_ok_iff.mp first) accepted same
  refine ⟨{ instrument with ports := ports }, ?_, port_eq_ok_iff.mpr found⟩
  rw [updatePort, updated]
  rfl

end Instrument

end Acquisition
