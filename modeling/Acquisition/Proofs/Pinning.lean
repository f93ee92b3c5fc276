import Acquisition.Proofs.Session
import Mathlib.Data.List.Induction

/-!
# What a slot pins

What the calls about a slot have shown says what the slot pins: the buffer of the start
that was accepted last, unless the scan was seen to be idle since (`World.pinned_exact`).
While the scan is running its buffer is pinned.
-/

namespace Acquisition

/-! ## What calls show -/

/-- What a call about a slot can show. -/
inductive Sight where
  /-- A start was accepted. -/
  | accepted (buffer : ScanBuffer)
  /-- A query saw the status of the scan. -/
  | seen (status : ScanStatus)
  deriving DecidableEq

namespace World

/-- What an operation on a device shows about the slot of the target that it is about. -/
def sightOf? {α : Type} (world : World) (id : DeviceId) (operation : Operation α) :
    Option Sight :=
  match operation.start?, operation.query? with
  | some (_, buffer), _ =>
      if ((operation.perform id).on world).1.isOk then some (.accepted buffer) else none
  | none, some (target, query) =>
      ((Act.query id target query).on world).1.toOption.map fun answer => .seen answer.1
  | none, none => none

/-- What a move shows about a slot. -/
def sight? (world : World) (id : DeviceId) (target : ScanTarget) : Move → Option Sight
  | .call other operation =>
      if other = id ∧ operation.target? = some target ∧ world.offers id operation then
        world.sightOf? id operation
      else none
  | _ => none

/-- What some moves show about a slot, in order. -/
def sights (world : World) (id : DeviceId) (target : ScanTarget) : List Move → List Sight
  | [] => []
  | move :: rest =>
      (world.sight? id target move).toList ++ (world.step move).sights id target rest

end World

namespace Sight

/-- What is pinned after a sight. -/
def pinned (before : Option ScanBuffer) : Sight → Option ScanBuffer
  | accepted buffer => some buffer
  | seen .idle => none
  | seen .running => before

/-- A buffer was accepted and nothing but a running scan was seen since. -/
def Pins (sights : List Sight) (buffer : ScanBuffer) : Prop :=
  ∃ earlier later, sights = earlier ++ accepted buffer :: later ∧
    ∀ sight ∈ later, sight = seen .running

/-- The last sight is the acceptance, or the buffer was pinned before it. -/
theorem pins_concat_iff (sights : List Sight) (last : Sight) (buffer : ScanBuffer) :
    Pins (sights ++ [last]) buffer ↔
      last = accepted buffer ∨ last = seen .running ∧ Pins sights buffer := by
  constructor
  · rintro ⟨earlier, later, split, quiet⟩
    rcases List.eq_nil_or_concat later with rfl | ⟨init, sight, rfl⟩
    · exact .inl (List.cons.inj (List.append_inj' split rfl).2).1
    · rw [List.concat_eq_append, ← List.cons_append, ← List.append_assoc] at split
      obtain ⟨rfl, same⟩ := List.append_inj' split rfl
      obtain rfl := (List.cons.inj same).1
      refine .inr ⟨quiet last (by simp), earlier, init, rfl, ?_⟩
      exact fun sight member => quiet sight (by simp [member])
  · rintro (rfl | ⟨rfl, earlier, later, rfl, quiet⟩)
    · exact ⟨sights, [], rfl, by simp⟩
    · refine ⟨earlier, later ++ [seen .running], by simp, ?_⟩
      intro sight member
      rcases List.mem_append.mp member with member | member
      · exact quiet sight member
      · exact List.mem_singleton.mp member

/-- Following what is pinned from sight to sight finds the buffer that was pinned last. -/
theorem foldl_pinned_eq_some_iff (sights : List Sight) (buffer : ScanBuffer) :
    sights.foldl pinned none = some buffer ↔ Pins sights buffer := by
  induction sights using List.reverseRecOn with
  | nil => simp [Pins]
  | append_singleton sights last ih =>
      rw [List.foldl_append, List.foldl_cons, List.foldl_nil, pins_concat_iff, ← ih]
      rcases last with other | _ | _ <;> simp [pinned]

end Sight

namespace World

variable {world after : World} {id : DeviceId} {held later : Device} {target : ScanTarget}
  {move : Move}

/-! ## One move -/

/-- If the scan on a target of a device is running, its buffer is pinned. -/
def PinsRunning (world : World) (held : Device) (target : ScanTarget) : Prop :=
  ∀ run, world.bench.running? held.handle target = some run →
    (held.slot target).pinned = some run.buffer

/-- What becomes of a slot and of the scan on its target when something is seen of it. -/
def Tracks (world : World) (id : DeviceId) (target : ScanTarget) (held : Device)
    (sight : Option Sight) (after : World) : Prop :=
  ∃ later, after.devices.get? id = some later ∧ later.handle = held.handle ∧
    (later.slot target).pinned = sight.toList.foldl Sight.pinned (held.slot target).pinned ∧
    (world.PinsRunning held target → after.PinsRunning later target)

/-- What starts no scan and changes no slot shows nothing. -/
theorem Leads.tracks (leads : world.Leads none none after)
    (found : world.devices.get? id = some held) : world.Tracks id target held none after := by
  rcases leads.present id held found with ⟨later, now, keeps⟩
  have same := keeps.slots target (by simp)
  refine ⟨later, now, keeps.handle, by rw [same]; rfl, ?_⟩
  intro pins run running
  rw [keeps.handle] at running
  rcases leads.follows.running? (by simp) running with ⟨earlier, ran, buffer⟩
  rw [same, ← buffer]
  exact pins earlier ran

/-- A start that is accepted pins its buffer, and one that is refused changes nothing. -/
theorem tracks_start {α : Type} {operation : Operation α} {buffer : ScanBuffer}
    (sound : world.Sound) (found : world.devices.get? id = some held)
    (starts : operation.start? = some (target, buffer)) :
    world.Tracks id target held
      (if ((operation.perform id).on world).1.isOk then some (.accepted buffer) else none)
      ((operation.perform id).on world).2 := by
  rcases Operation.isStart_of_start? starts id world with
    ⟨error, refused⟩ | ⟨start, rfl, leads, answers⟩
  · rw [refused]
    exact (Leads.refl sound.direct).tracks found
  · rw [leads, answers]
    rcases Act.on_startScan_cases sound.direct id start with
      ⟨error, refused⟩ | ⟨held', rate, middle, after, found', accepted, accepts, sets⟩
    · rw [refused]
      exact (Leads.refl sound.direct).tracks found
    · obtain rfl := Option.some.inj (found.symm.trans found')
      rw [accepted]
      refine ⟨_, sets.found, rfl, by simp [Slot.pin, Sight.pinned, Except.isOk, Except.toBool], ?_⟩
      intro _ run running
      rcases accepts.running with ⟨started, runs, same⟩
      rw [sets.bench] at running
      obtain rfl := Option.some.inj (runs.symm.trans running)
      simp [Slot.pin, same]

/-- A query that sees an idle scan lets go of the buffer, and no other does. -/
theorem tracks_query {α : Type} {operation : Operation α} {query : Query}
    (sound : world.Sound) (found : world.devices.get? id = some held)
    (asks : operation.query? = some (target, query)) :
    world.Tracks id target held
      (((Act.query id target query).on world).1.toOption.map fun answer => .seen answer.1)
      ((operation.perform id).on world).2 := by
  rw [(Operation.perform_of_query? asks id world).1]
  rcases Act.on_query_cases sound.direct id target query with
    ⟨error, after, refused, leads⟩ | ⟨middle, held', answer, after, told, leads, found', idle, sets⟩
  · rw [refused]
    exact leads.tracks found
  · rw [told]
    have tracked : world.Tracks id target held none middle := leads.tracks found
    rcases tracked with ⟨between, there, handle, pinned, pins⟩
    obtain rfl := Option.some.inj (there.symm.trans found')
    refine ⟨_, sets.found, handle, ?_, ?_⟩
    · rcases answer with ⟨_ | _, transfer⟩
      · simp [Slot.settle, Sight.pinned, Except.toOption]
      · simpa [Slot.settle, Sight.pinned, Except.toOption] using pinned
    · intro before run running
      rw [sets.bench] at running
      change middle.bench.running? between.handle target = some run at running
      rcases answer with ⟨_ | _, transfer⟩
      · rw [idle rfl] at running
        contradiction
      · simpa [Slot.settle] using pins before run running

/-- A move that does not concern a slot leaves it alone, and starts no scan on its target. -/
theorem tracks_of_untouched (sound : world.Sound) (found : world.devices.get? id = some held)
    (other : move.slot? ≠ some (id, target))
    (unbypassed : move.bypass? ≠ some (.start held.handle target)) :
    world.Tracks id target held none (world.step move) := by
  have follows := (sound.carries move).1
  rcases follows.present id held found with ⟨later, now, remains, _⟩
  have same := remains.slots target other
  refine ⟨later, now, remains.handle, by rw [same]; rfl, ?_⟩
  intro pins run running
  rw [remains.handle] at running
  rcases follows.running? (sound.deed?_ne_start found unbypassed other) running with
    ⟨earlier, ran, buffer⟩
  rw [same, ← buffer]
  exact pins earlier ran

/-- What an operation shows about the slot that it is about is what becomes of the slot. -/
theorem tracks_perform {α : Type} {operation : Operation α} (sound : world.Sound)
    (found : world.devices.get? id = some held) (about : operation.target? = some target) :
    world.Tracks id target held (world.sightOf? id operation)
      ((operation.perform id).on world).2 := by
  unfold Operation.target? at about
  unfold sightOf?
  cases starts : operation.start? with
  | some start =>
      rw [starts] at about
      obtain rfl := Option.some.inj about
      exact tracks_start sound found starts
  | none =>
      cases asks : operation.query? with
      | some query =>
          rw [starts, asks] at about
          obtain rfl := Option.some.inj about
          exact tracks_query sound found asks
      | none => simp [starts, asks] at about

/-- What a move shows about a slot is what becomes of the slot. -/
theorem tracks_step (sound : world.Sound) (found : world.devices.get? id = some held)
    (unbypassed : move.bypass? ≠ some (.start held.handle target)) :
    world.Tracks id target held (world.sight? id target move) (world.step move) := by
  by_cases other : move.slot? = some (id, target)
  · cases move with
    | call asked operation =>
        rcases Option.map_eq_some_iff.mp other with ⟨about, aimed, same⟩
        obtain ⟨rfl, rfl⟩ := Prod.mk.inj same
        by_cases offered : world.offers asked operation = true
        · simp only [sight?, step, aimed, offered, if_true, and_self]
          exact tracks_perform sound found aimed
        · simp only [sight?, step, offered, and_false, Bool.false_eq_true, if_false]
          exact (Leads.refl sound.direct).tracks found
    | _ => contradiction
  · have unseen : world.sight? id target move = none := by
      cases move with
      | call asked operation =>
          apply if_neg
          rintro ⟨rfl, aimed, _⟩
          exact other (by simp [Move.slot?, aimed])
      | _ => rfl
    rw [unseen]
    exact tracks_of_untouched sound found other unbypassed

theorem sight?_of_absent (absent : world.devices.get? id = none) :
    world.sight? id target move = none := by
  cases move with
  | call asked operation =>
      apply if_neg
      rintro ⟨_, _, offered⟩
      simp [offers, absent] at offered
  | _ => rfl

/-! ## Many moves -/

theorem sights_append (id : DeviceId) (target : ScanTarget) (world : World)
    (first rest : List Move) :
    world.sights id target (first ++ rest) =
      world.sights id target first ++ (world.run first).sights id target rest := by
  induction first generalizing world with
  | nil => rfl
  | cons move first ih => simp only [List.cons_append, sights, ih, List.append_assoc]; rfl

/-- A device that is not there has not been seen. -/
theorem sights_of_absent {moves : List Move}
    (absent : (World.initial.run moves).devices.get? id = none) :
    World.initial.sights id target moves = [] := by
  induction moves using List.reverseRecOn with
  | nil => rfl
  | append_singleton moves move ih =>
      rw [run_concat] at absent
      have before : (World.initial.run moves).devices.get? id = none := by
        cases found : (World.initial.run moves).devices.get? id with
        | none => rfl
        | some held =>
            rcases ((sound_run moves).carries move).1.present id held found with ⟨later, now, _⟩
            rw [absent] at now
            contradiction
      rw [sights_append, ih before, sights, sights, sight?_of_absent before]
      rfl

/-- The slot of a device has what was pinned last, and pins the buffer of a running scan. -/
theorem pinned_run (moves : List Move)
    (found : (World.initial.run moves).devices.get? id = some held)
    (unbypassed : ∀ move ∈ moves, move.bypass? ≠ some (.start held.handle target)) :
    (held.slot target).pinned = (World.initial.sights id target moves).foldl Sight.pinned none ∧
      (World.initial.run moves).PinsRunning held target := by
  induction moves using List.reverseRecOn generalizing held with
  | nil => contradiction
  | append_singleton moves move ih =>
      rw [run_concat] at found ⊢
      rw [List.forall_mem_append, List.forall_mem_singleton] at unbypassed
      have sound := sound_run moves
      cases before : (World.initial.run moves).devices.get? id with
      | none =>
          -- The device is new: its slots are empty and its handle has had no scan.
          have follows := (sound.carries move).1
          rcases follows.fresh id held before found with ⟨empty, _, handle, _⟩
          rw [handle] at unbypassed
          rw [sights_append, sights_of_absent before, sights, sights, sight?_of_absent before]
          refine ⟨by simp [Device.slot, empty, Table.getD, Slot.initial], ?_⟩
          intro run running
          rw [handle] at running
          rcases follows.running? (sound.deed?_ne_start_of_fresh unbypassed.2) running with
            ⟨earlier, ran, _⟩
          rcases Option.bind_eq_some_iff.mp ran with ⟨device, there, _⟩
          exact absurd (sound.reachable.issued there) (Int.lt_irrefl _)
      | some earlier =>
          rcases (sound.carries move).1.present id earlier before with ⟨later, now, remains, _⟩
          obtain rfl := Option.some.inj (now.symm.trans found)
          rw [remains.handle] at unbypassed
          rcases ih before unbypassed.1 with ⟨same, pins⟩
          rcases tracks_step sound before unbypassed.2 with ⟨last, there, _, pinned, pinning⟩
          obtain rfl := Option.some.inj (there.symm.trans found)
          rw [pinned, same, sights_append, List.foldl_append, sights, sights, List.append_nil]
          exact ⟨rfl, pinning pins⟩

/-! ## What shows nothing -/

/-- An operation that is refused shows nothing. -/
theorem sight?_of_refused {α : Type} {operation : Operation α} {error : Error}
    (refused : ((operation.perform id).on world).1 = .error error) :
    world.sight? id target (.call id operation) = none := by
  change (if _ then world.sightOf? id operation else none) = none
  split
  · unfold sightOf?
    split
    · rw [refused]
      rfl
    · next asked query _ asks =>
        have answers := (Operation.perform_of_query? asks id world).2
        rw [refused] at answers
        cases told : ((Act.query id asked query).on world).1 with
        | error other => rfl
        | ok answer =>
            rw [told] at answers
            contradiction
    · rfl
  · rfl

/-- An operation that is about no scan shows nothing. -/
theorem sight?_of_unscanned {α : Type} {operation : Operation α} (other : DeviceId)
    (unscanned : operation.target? = none) :
    world.sight? id target (.call other operation) = none := by
  apply if_neg
  simp [unscanned]

/-- A slot pins the buffer of the start that was accepted last, unless a query has seen the
scan idle since; a running scan has its buffer pinned; and what shows no acceptance and no
idle scan changes nothing that is pinned, which is so for every call that is refused and
for what stops scans without asking for their status. -/
theorem pinned_exact (moves : List Move)
    (found : (World.initial.run moves).devices.get? id = some held)
    (unbypassed : ∀ move ∈ moves, move.bypass? ≠ some (.start held.handle target)) :
    (∀ buffer, (held.slot target).pinned = some buffer ↔
      ∃ earlier later,
        World.initial.sights id target moves = earlier ++ .accepted buffer :: later ∧
        ∀ sight ∈ later, sight = .seen .running) ∧
    (∀ run, (World.initial.run moves).bench.running? held.handle target = some run →
      (held.slot target).pinned = some run.buffer) ∧
    (∀ move, move.bypass? ≠ some (.start held.handle target) →
      (World.initial.run moves).sight? id target move = none ∨
        (World.initial.run moves).sight? id target move = some (.seen .running) →
      ∃ later, ((World.initial.run moves).step move).devices.get? id = some later ∧
        (later.slot target).pinned = (held.slot target).pinned) ∧
    (∀ {α : Type} (operation : Operation α) (error : Error),
      ((operation.perform id).on (World.initial.run moves)).1 = .error error →
      (World.initial.run moves).sight? id target (.call id operation) = none) ∧
    ∀ move, move ∈ [.call id .stopAll, .call id .disconnect, .stimulus (.unplug held.handle)] →
      (World.initial.run moves).sight? id target move = none := by
  rcases pinned_run moves found unbypassed with ⟨pinned, pins⟩
  refine ⟨?_, pins, ?_, ?_, ?_⟩
  · intro buffer
    rw [pinned]
    exact Sight.foldl_pinned_eq_some_iff _ _
  · intro move bypass shown
    rcases tracks_step (sound_run moves) found bypass with ⟨later, now, _, same, _⟩
    refine ⟨later, now, same.trans ?_⟩
    rcases shown with shown | shown <;> rw [shown] <;> rfl
  · exact fun operation error refused => sight?_of_refused refused
  · simp only [List.forall_mem_cons, List.not_mem_nil, false_implies, implies_true, and_true]
    exact ⟨sight?_of_unscanned id rfl, sight?_of_unscanned id rfl, rfl⟩

/-- A scan is started, seen to be idle and started again with another buffer; then a query
sees it running, a start is refused and a wait for the running scan times out. -/
def restarted : List Move :=
  let scan (storage : Nat) (options : Flags .scanOption) : Operation Float :=
    .scanAnalogIn 0 0 .singleEnded .bip10Volts 2 1000 options .empty ⟨storage, 1⟩
  connected ++ [.edit (.allocateReals #[0, 0]), .edit (.allocateReals #[0, 0]),
    .call 0 (scan 0 .empty), .stimulus (.advance 1 .analogIn 2), .call 0 (.scanStatus .analogIn),
    .call 0 (scan 1 ScanOption.continuous), .stimulus (.advance 1 .analogIn 3),
    .call 0 (.scanStatus .analogIn), .call 0 (scan 0 .empty),
    .call 0 (.waitScan .analogIn .waitUntilDone 0 1), .call 0 .isConnected]

theorem pinned_exact_restarted :
    ∃ held, (World.initial.run restarted).devices.get? 0 = some held ∧ held.handle = 1 ∧
      (∀ move ∈ restarted, move.bypass? ≠ some (.start held.handle .analogIn)) ∧
      World.initial.sights 0 .analogIn restarted =
        [.accepted (.reals ⟨0, 1⟩), .seen .idle, .accepted (.reals ⟨1, 1⟩), .seen .running] ∧
      (held.slot .analogIn).pinned = some (.reals ⟨1, 1⟩) ∧
      ∀ run, (World.initial.run restarted).bench.running? 1 .analogIn = some run →
        (held.slot .analogIn).pinned = some run.buffer := by
  have there : ((World.initial.run restarted).devices.get? 0).map Device.handle = some 1 := by
    decide +kernel
  have shown : World.initial.sights 0 .analogIn restarted =
      [.accepted (.reals ⟨0, 1⟩), .seen .idle, .accepted (.reals ⟨1, 1⟩), .seen .running] := by
    decide +kernel
  have unbypassed : ∀ move ∈ restarted, move.bypass? = none := by decide +kernel
  rcases Option.map_eq_some_iff.mp there with ⟨held, found, handle⟩
  have facades : ∀ move ∈ restarted, move.bypass? ≠ some (.start held.handle .analogIn) := by
    intro move member
    simp [unbypassed move member]
  rcases pinned_exact restarted found facades with ⟨exact, running, _⟩
  refine ⟨held, found, handle, facades, shown, ?_, handle ▸ running⟩
  apply (exact _).mpr
  rw [shown]
  exact ⟨[.accepted (.reals ⟨0, 1⟩), .seen .idle], [.seen .running], rfl, by simp⟩

end World

end Acquisition
