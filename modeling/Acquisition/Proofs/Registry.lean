import Acquisition.Proofs.Closing

/-!
# The registry of events

A device remembers which events have a handler item by item, the driver bit by bit.  The two
sets are the same as long as no mask that is disabled cuts bits out of an item
(`Device.splits`); in any case the device remembers all that is bound (`World.registers_run`).

Main statement: `World.registry_agrees`.
-/

namespace Acquisition

/-! ## Items and bits -/

namespace Device

variable {held : Device} {kinds : Flags .event} {bit : Nat}

/-- Whether some item that is remembered shares bits with a mask without being an item of it. -/
def splits (held : Device) (kinds : Flags .event) : Bool :=
  held.subscriptions.any fun item => item.intersects kinds && !kinds.toList.contains item

theorem enabledEvents_subscribe (held : Device) (kinds : Flags .event) :
    (held.subscribe kinds).enabledEvents = held.enabledEvents.union kinds := by
  apply Flags.ext_has
  intro bit
  have items : (kinds.toList.any fun item => item.has bit) = kinds.has bit := by
    rw [← Flags.has_unionAll, Flags.unionAll_toList]
  rw [Flags.has_union, enabledEvents, enabledEvents, subscribe, Flags.has_unionAll,
    Flags.has_unionAll, List.any_append, items]

/-- What is not in a mask is remembered after the mask has been disabled. -/
theorem has_enabledEvents_unsubscribe (enabled : held.enabledEvents.has bit = true)
    (other : kinds.has bit = false) : (held.unsubscribe kinds).enabledEvents.has bit = true := by
  rw [enabledEvents, Flags.has_unionAll] at enabled ⊢
  obtain ⟨item, remembered, there⟩ := List.any_eq_true.mp enabled
  refine List.any_eq_true.mpr ⟨item, List.mem_filter.mpr ⟨remembered, ?_⟩, there⟩
  rw [Bool.not_eq_true', ← Bool.not_eq_true, List.contains_iff_mem]
  intro listed
  rw [Flags.has_of_mem_toList listed there] at other
  contradiction

/-- Disabling a mask that splits no item takes its bits. -/
theorem enabledEvents_unsubscribe (whole : held.splits kinds = false) :
    (held.unsubscribe kinds).enabledEvents = held.enabledEvents.remove kinds := by
  apply Flags.ext_has
  intro bit
  rw [Bool.eq_iff_iff, Flags.has_remove, Bool.and_eq_true, Bool.not_eq_true']
  constructor
  · intro left
    rw [enabledEvents, Flags.has_unionAll] at left
    obtain ⟨item, kept, there⟩ := List.any_eq_true.mp left
    obtain ⟨remembered, unlisted⟩ := List.mem_filter.mp kept
    constructor
    · rw [enabledEvents, Flags.has_unionAll]
      exact List.any_eq_true.mpr ⟨item, remembered, there⟩
    · rw [← Bool.not_eq_true]
      intro shared
      have cut : held.splits kinds = true := by
        refine List.any_eq_true.mpr ⟨item, remembered, ?_⟩
        rw [unlisted, Bool.and_true]
        exact Flags.intersects_iff.mpr ⟨bit, there, shared⟩
      rw [whole] at cut
      contradiction
  · rintro ⟨enabled, other⟩
    exact has_enabledEvents_unsubscribe enabled other

/-- A mask with an item that is remembered meets what is remembered. -/
theorem intersects_of_isSubscribed (subscribed : held.isSubscribed kinds = true) :
    held.enabledEvents.intersects kinds = true := by
  obtain ⟨item, listed, remembered⟩ := List.any_eq_true.mp subscribed
  obtain ⟨bit, there⟩ := Flags.isEmpty_eq_false_iff.mp (Flags.isEmpty_of_mem_toList listed)
  refine Flags.intersects_iff.mpr ⟨bit, ?_, Flags.has_of_mem_toList listed there⟩
  rw [enabledEvents, Flags.has_unionAll]
  exact List.any_eq_true.mpr ⟨item, List.contains_iff_mem.mp remembered, there⟩

/-! ## A device and what is behind its handle -/

/-- The device remembers what is bound behind its handle, and nothing else if no item has been
split.  None of the handlers disables events. -/
structure Registers (held : Device) (device : Instrument) (whole : Bool) : Prop where
  keeps : ∀ handler, device.Binds handler → handler.reaction.disables = false
  within : ∀ bit, device.boundKinds.has bit = true → held.enabledEvents.has bit = true
  same : whole = true → device.boundKinds = held.enabledEvents

namespace Registers

variable {device : Instrument} {whole : Bool}

/-- Nothing is remembered of a device without bindings. -/
theorem of_empty (unbound : device.bindings = []) (unsubscribed : held.subscriptions = []) :
    held.Registers device whole := by
  have bound : device.boundKinds = .empty := by
    rw [Instrument.boundKinds, unbound]
    rfl
  have remembered : held.enabledEvents = .empty := by
    rw [enabledEvents, unsubscribed]
    rfl
  constructor
  · rintro handler ⟨binding, member, _⟩
    rw [unbound] at member
    contradiction
  · intro bit there
    rw [bound, Flags.has_empty] at there
    contradiction
  · exact fun _ => bound.trans remembered.symm

/-- Only what is bound and what is remembered matters. -/
theorem congr {other : Instrument} {later : Device} (registers : held.Registers device whole)
    (bound : other.bound = device.bound) (same : later.subscriptions = held.subscriptions) :
    later.Registers other whole := by
  have kinds : other.boundKinds = device.boundKinds := Instrument.boundKinds_of_bound bound
  have remembered : later.enabledEvents = held.enabledEvents := by
    rw [enabledEvents, same, enabledEvents]
  constructor
  · exact fun handler binds => registers.keeps handler (binds.congr bound)
  · rw [kinds, remembered]
    exact registers.within
  · rw [kinds, remembered]
    exact registers.same

theorem enable (registers : held.Registers device whole) {period : Nat} {handler : Handler}
    (keeps : handler.reaction.disables = false) :
    (held.subscribe kinds).Registers
      { device with bindings := device.bindings ++ [⟨kinds, period, period, handler⟩] } whole := by
  have bound : Binding.boundKinds (device.bindings ++ [⟨kinds, period, period, handler⟩]) =
      device.boundKinds.union kinds :=
    Binding.boundKinds_enableEvents device.bindings kinds period handler
  constructor
  · rintro other ⟨binding, member, rfl⟩
    rcases List.mem_append.mp member with earlier | new
    · exact registers.keeps _ ⟨binding, earlier, rfl⟩
    · rw [List.mem_singleton.mp new]
      exact keeps
  · intro bit there
    rw [Instrument.boundKinds, bound, Flags.has_union, Bool.or_eq_true] at there
    rw [enabledEvents_subscribe, Flags.has_union, Bool.or_eq_true]
    exact there.imp_left (registers.within bit)
  · intro intact
    rw [Instrument.boundKinds, bound, registers.same intact, enabledEvents_subscribe]

theorem disable (registers : held.Registers device whole) (kinds : Flags .event) :
    (held.unsubscribe kinds).Registers (device.disableEvents kinds)
      (whole && !held.splits kinds) := by
  have bound : (device.disableEvents kinds).boundKinds = device.boundKinds.remove kinds :=
    Binding.boundKinds_disableEvents device.bindings kinds
  constructor
  · rintro other ⟨binding, member, rfl⟩
    obtain ⟨earlier, there, rfl⟩ := List.mem_map.mp (List.mem_filter.mp member).1
    exact registers.keeps _ ⟨earlier, there, rfl⟩
  · intro bit there
    rw [bound, Flags.has_remove, Bool.and_eq_true, Bool.not_eq_true'] at there
    exact has_enabledEvents_unsubscribe (registers.within bit there.1) there.2
  · intro intact
    rw [Bool.and_eq_true, Bool.not_eq_true'] at intact
    rw [bound, registers.same intact.1, enabledEvents_unsubscribe intact.2]

end Registers

end Device

/-! ## Enabling and disabling -/

namespace Instrument

variable {device : Instrument} {kinds : Flags .event} {period : Nat}

/-- Accept event kinds with a period, whatever is bound already. -/
def checkUnbound (device : Instrument) (kinds : Flags .event) (period : Nat) : Except Error Unit :=
  { device with bindings := [] }.checkBinding kinds period

/-- A binding is also refused when it meets what is bound. -/
theorem checkBinding_eq (device : Instrument) (kinds : Flags .event) (period : Nat) :
    device.checkBinding kinds period = (do
      device.checkUnbound kinds period
      if device.boundKinds.intersects kinds then .error .eventAlreadyEnabled else .ok ()) := by
  have supported : { device with bindings := [] }.supportedEvents = device.supportedEvents := rfl
  rw [boundKinds, ← Binding.any_intersects]
  by_cases unknown : (kinds.isEmpty || !device.supportedEvents.contains kinds) = true
  · simp only [checkUnbound, checkBinding, supported, unknown, if_true]
    rfl
  · by_cases undue : kinds.contains EventKind.dataAvailable = true ∧ period = 0
    · simp only [checkUnbound, checkBinding, supported, unknown, undue]
      rfl
    · simp only [checkUnbound, checkBinding, supported, unknown, undue, List.any_nil]
      rfl

theorem checkUnbound_ne (device : Instrument) (kinds : Flags .event) (period : Nat) :
    device.checkUnbound kinds period ≠ .error .eventAlreadyEnabled := by
  unfold checkUnbound checkBinding
  split
  · simp
  · split <;> simp

end Instrument

namespace Act

variable {world : World} {id : DeviceId} {held : Device} {device : Instrument}
  {kinds : Flags .event} {period : Nat} {handler : Handler}

/-- An item that has a handler is refused before the driver is asked. -/
theorem on_enableEvents_of_subscribed (found : world.devices.get? id = some held)
    (kept : held.isReleased = false) (subscribed : held.isSubscribed kinds = true) :
    (enableEvents id kinds period handler).on world = (.error .eventAlreadyEnabled, world) := by
  unfold enableEvents
  rw [on_bind_ok (on_live found kept), on_bind_ok (on_device found), subscribed]
  rfl

section Driver

variable (direct : world.IsDirect) (found : world.devices.get? id = some held)
  (kept : held.isReleased = false)
  (there : world.bench.driver.instruments.get? held.handle = some device)

include direct found kept there

theorem on_enableEvents_of_refused (unsubscribed : held.isSubscribed kinds = false) {error : Error}
    (refused : device.checkBinding kinds period = .error error) :
    (enableEvents id kinds period handler).on world = (.error error, world) := by
  have rejected : device.enableEvents kinds period handler = .error error := by
    rw [Instrument.enableEvents, refused]
    rfl
  unfold enableEvents
  rw [on_bind_ok (on_live found kept), on_bind_ok (on_device found), unsubscribed,
    if_neg Bool.false_ne_true]
  exact on_bind_error (on_send_adjust_of_refused _ direct there rfl rejected)

theorem on_enableEvents (handler : Handler) (unsubscribed : held.isSubscribed kinds = false)
    (accepted : device.checkBinding kinds period = .ok ()) :
    ∃ after, (enableEvents id kinds period handler).on world = (.ok (), after) ∧
      after.bench.driver.instruments.get? held.handle =
        some { device with bindings := device.bindings ++ [⟨kinds, period, period, handler⟩] } ∧
      after.devices.get? id = some (held.subscribe kinds) := by
  have enabled : device.enableEvents kinds period handler =
      .ok { device with bindings := device.bindings ++ [⟨kinds, period, period, handler⟩] } := by
    rw [Instrument.enableEvents, accepted]
    rfl
  obtain ⟨middle, sent, behind, same⟩ :=
    on_send_adjust (.enableEvents held.handle kinds period handler) direct there rfl enabled
  unfold enableEvents
  rw [on_bind_ok (on_live found kept), on_bind_ok (on_device found), unsubscribed,
    if_neg Bool.false_ne_true, on_bind_ok sent, on_bind_ok (on_updateDevice (same ▸ found) _),
    on_note]
  exact ⟨_, rfl, behind, Table.get?_set_self _ _ _⟩

/-- Enabling events answers what the device knows of its items, and then what the driver does. -/
theorem answer_enableEvents (kinds : Flags .event) (period : Nat) (handler : Handler) :
    ((enableEvents id kinds period handler).on world).1 =
      if held.isSubscribed kinds then .error .eventAlreadyEnabled
      else device.checkBinding kinds period := by
  cases subscribed : held.isSubscribed kinds with
  | true => rw [on_enableEvents_of_subscribed found kept subscribed, if_pos rfl]
  | false =>
      rw [if_neg Bool.false_ne_true]
      cases checked : device.checkBinding kinds period with
      | error error =>
          rw [on_enableEvents_of_refused direct found kept there subscribed checked]
      | ok accepted =>
          obtain ⟨_, enabled, _⟩ :=
            on_enableEvents direct found kept there handler subscribed checked
          rw [enabled]

theorem on_disableEvents (kinds : Flags .event) :
    ∃ after, (disableEvents id kinds).on world = (.ok (), after) ∧
      after.bench.driver.instruments.get? held.handle = some (device.disableEvents kinds) ∧
      after.devices.get? id = some (held.unsubscribe kinds) := by
  obtain ⟨middle, sent, behind, same⟩ :=
    on_send_adjust (.disableEvents held.handle kinds) direct there rfl rfl
  unfold disableEvents
  rw [on_bind_ok (on_live found kept), on_bind_ok sent,
    on_bind_ok (on_updateDevice (same ▸ found) _), on_note]
  exact ⟨_, rfl, behind, Table.get?_set_self _ _ _⟩

end Driver

end Act

/-! ## Moves -/

namespace Move

/-- Whether a move enables or disables events on a device. -/
def rebinds (id : DeviceId) : Move → Bool
  | .call other operation => other = id && operation.bindsEvents
  | _ => false

/-- Whether a move reaches for the events behind a handle past the device, or has a handler of
the device do so. -/
def disturbs (id : DeviceId) (handle : Handle) : Move → Bool
  | .request asked => (Command.request asked).rebinds? = some handle
  | .call other (.enableEvents _ _ handler) => other = id && handler.reaction.disables
  | _ => false

end Move

namespace World

variable {world : World} {id : DeviceId} {held later : Device} {device : Instrument}
  {whole : Bool} {move : Move}

/-- Whether a move disables a mask on a device that splits an item. -/
def splits (world : World) (id : DeviceId) : Move → Bool
  | .call other (.disableEvents kinds) =>
      other = id && (world.devices.get? id).any fun held => held.splits kinds
  | _ => false

/-- Whether none of some moves splits an item of a device. -/
def isWhole (id : DeviceId) : World → List Move → Bool
  | _, [] => true
  | world, move :: rest => !world.splits id move && isWhole id (world.step move) rest

theorem isWhole_concat (world : World) (moves : List Move) (move : Move) :
    world.isWhole id (moves ++ [move]) =
      (world.isWhole id moves && !(world.run moves).splits id move) := by
  induction moves generalizing world with
  | nil => exact Bool.and_comm _ _
  | cons first rest ih =>
      rw [List.cons_append, isWhole, ih, isWhole, Bool.and_assoc]
      rfl

/-- A move that neither enables nor disables events on a device splits no item of it. -/
theorem splits_of_not_rebinds (other : move.rebinds id = false) : world.splits id move = false := by
  cases move with
  | call asked operation =>
      cases operation with
      | disableEvents kinds =>
          have ne : decide (asked = id) = false := by simpa [Move.rebinds, Operation.bindsEvents] using other
          rw [splits, ne, Bool.false_and]
      | _ => rfl
  | _ => rfl

theorem Sound.isTame (sound : world.Sound) (found : world.devices.get? id = some held)
    (there : world.bench.driver.instruments.get? held.handle = some device)
    (registers : held.Registers device whole) : world.bench.IsTame held.handle where
  issued := sound.issued found
  keeps other now := by
    obtain rfl := Option.some.inj (now.symm.trans there)
    exact registers.keeps

/-- A move that neither enables nor disables events on a device leaves its events alone. -/
theorem spares_step (sound : world.Sound) (found : world.devices.get? id = some held)
    (tame : world.bench.IsTame held.handle) (other : move.rebinds id = false)
    (undisturbed : move.disturbs id held.handle = false) :
    world.SparesEvents id held.handle (world.step move) := by
  suffices leaves : world.LeavesEvents id held.handle (world.step move) from
    leaves sound.direct tame
  cases move with
  | take descriptor => exact Act.leavesEvents_openDevice descriptor world
  | call asked operation =>
      simp only [step]
      split
      · next offered =>
          cases binds : operation.bindsEvents with
          | false => exact Act.leavesEvents_perform asked binds world
          | true =>
              have ne : id ≠ asked := by
                rintro rfl
                simp [Move.rebinds, binds] at other
              obtain ⟨held', found', _⟩ := found_of_offers offered
              exact Act.leavesEvents_rebind binds found' ne fun same =>
                ne (sound.apart found found' same.symm)
      · exact .refl world
  | close asked => exact (Act.leavesEvents_routine _ _ asked).close world
  | drop asked => exact (Act.leavesEvents_routine _ _ asked).drop world
  | request asked =>
      exact Act.LeavesEvents.perform (by simpa [Move.disturbs] using undisturbed) world
  | stimulus stimulus => exact Act.LeavesEvents.stimulate stimulus world
  | edit edit =>
      intro direct tame
      exact .of_step (.edit edit) tame (Command.unbound_of_eq_none rfl)
        ⟨direct.faults, direct.rival⟩ rfl rfl rfl

section Rebind

variable (sound : world.Sound) (found : world.devices.get? id = some held)
  (kept : held.isReleased = false)
  (there : world.bench.driver.instruments.get? held.handle = some device)
  (registers : held.Registers device whole)

include sound found kept there registers

theorem registers_enableEvents {kinds : Flags .event} {period : Nat} {handler : Handler}
    (keeps : handler.reaction.disables = false)
    (now : ((Act.enableEvents id kinds period handler).on world).2.devices.get? id = some later) :
    ∃ after, ((Act.enableEvents id kinds period handler).on world).2.bench.driver.instruments.get?
      later.handle = some after ∧ later.Registers after whole := by
  cases subscribed : held.isSubscribed kinds with
  | true =>
      rw [Act.on_enableEvents_of_subscribed found kept subscribed] at now ⊢
      obtain rfl := Option.some.inj (found.symm.trans now)
      exact ⟨device, there, registers⟩
  | false =>
      cases checked : device.checkBinding kinds period with
      | error error =>
          rw [Act.on_enableEvents_of_refused sound.direct found kept there subscribed checked]
            at now ⊢
          obtain rfl := Option.some.inj (found.symm.trans now)
          exact ⟨device, there, registers⟩
      | ok accepted =>
          obtain ⟨after, enabled, behind, remembered⟩ :=
            Act.on_enableEvents sound.direct found kept there handler subscribed checked
          rw [enabled] at now ⊢
          obtain rfl := Option.some.inj (remembered.symm.trans now)
          exact ⟨_, behind, registers.enable keeps⟩

theorem registers_disableEvents {kinds : Flags .event}
    (now : ((Act.disableEvents id kinds).on world).2.devices.get? id = some later) :
    ∃ after, ((Act.disableEvents id kinds).on world).2.bench.driver.instruments.get?
      later.handle = some after ∧ later.Registers after (whole && !held.splits kinds) := by
  obtain ⟨after, disabled, behind, remembered⟩ :=
    Act.on_disableEvents sound.direct found kept there kinds
  rw [disabled] at now ⊢
  obtain rfl := Option.some.inj (remembered.symm.trans now)
  exact ⟨_, behind, registers.disable kinds⟩

/-- Whatever a move does, an unreleased device remembers what is bound behind its handle. -/
theorem registers_step (unreturned : move.bypass? ≠ some (.release held.handle))
    (undisturbed : move.disturbs id held.handle = false)
    (now : (world.step move).devices.get? id = some later) (still : later.isReleased = false) :
    ∃ after, (world.step move).bench.driver.instruments.get? later.handle = some after ∧
      later.Registers after (whole && !world.splits id move) := by
  cases rebinds : move.rebinds id with
  | false =>
      have tame := sound.isTame found there registers
      have spares := spares_step sound found tame rebinds undisturbed
      obtain ⟨last, here, keeps⟩ := spares.present held (sound.numbered found) found
      obtain rfl := Option.some.inj (here.symm.trans now)
      obtain ⟨after, behind⟩ := found_of_step sound found there unreturned now still
      obtain ⟨first, known, bound⟩ := spares.bench.bound after behind
      obtain rfl := Option.some.inj (known.symm.trans there)
      have same : last.subscriptions = held.subscriptions := by
        rcases keeps.subscriptions with released | same
        · rw [still] at released
          contradiction
        · exact same
      rw [keeps.handle, splits_of_not_rebinds rebinds, Bool.not_false, Bool.and_true]
      exact ⟨after, behind, registers.congr bound same⟩
  | true =>
      cases move with
      | call asked operation =>
          cases operation with
          | enableEvents kinds period handler =>
              obtain rfl : asked = id := by simpa [Move.rebinds, Operation.bindsEvents] using rebinds
              have offered : world.offers asked (.enableEvents kinds period handler) = true := by
                rw [offers, found]
                rfl
              have keeps : handler.reaction.disables = false := by
                simpa [Move.disturbs] using undisturbed
              have unsplit : world.splits asked
                  (.call asked (.enableEvents kinds period handler)) = false := rfl
              simp only [step, offered, if_true] at now ⊢
              rw [unsplit, Bool.not_false, Bool.and_true]
              exact registers_enableEvents sound found kept there registers keeps now
          | disableEvents kinds =>
              obtain rfl : asked = id := by simpa [Move.rebinds, Operation.bindsEvents] using rebinds
              have offered : world.offers asked (.disableEvents kinds) = true := by
                rw [offers, found]
                rfl
              simp only [step, offered, if_true] at now ⊢
              rw [splits, decide_eq_true rfl, Bool.true_and, found, Option.any_some]
              exact registers_disableEvents sound found kept there registers now
          | _ => simp [Move.rebinds, Operation.bindsEvents] at rebinds
      | _ => contradiction

end Rebind

/-- An unreleased device that is left to its caller remembers what is bound behind its handle. -/
theorem registers_run (moves : List Move)
    (found : (World.initial.run moves).devices.get? id = some held)
    (kept : held.isReleased = false)
    (unreturned : ∀ move ∈ moves, move.bypass? ≠ some (.release held.handle))
    (undisturbed : ∀ move ∈ moves, move.disturbs id held.handle = false) :
    ∃ device, (World.initial.run moves).bench.driver.instruments.get? held.handle = some device ∧
      held.Registers device (World.initial.isWhole id moves) := by
  induction moves using List.reverseRecOn generalizing held with
  | nil => contradiction
  | append_singleton moves move ih =>
      rw [run_concat] at found ⊢
      rw [List.forall_mem_append, List.forall_mem_singleton] at unreturned undisturbed
      have sound := sound_run moves
      have follows := (sound.carries move).1
      cases before : (World.initial.run moves).devices.get? id with
      | none =>
          have fresh := follows.fresh id held before found
          obtain ⟨device, there, unbound⟩ := fresh.behind
          exact ⟨device, there, .of_empty unbound fresh.subscriptions⟩
      | some earlier =>
          obtain ⟨last, now, remains, released⟩ := follows.present id earlier before
          obtain rfl := Option.some.inj (now.symm.trans found)
          have unreleased : earlier.isReleased = false := by
            cases marked : earlier.isReleased with
            | false => rfl
            | true =>
                rw [released marked] at kept
                contradiction
          rw [remains.handle] at unreturned undisturbed
          obtain ⟨device, there, registers⟩ := ih before unreleased unreturned.1 undisturbed.1
          rw [isWhole_concat]
          exact registers_step sound before unreleased there registers unreturned.2 undisturbed.2
            found kept

/-- An unreleased device that is left to its caller remembers what is enabled at the driver, as long
as no mask that is disabled splits an item; and enabling a mask is refused because of what is
enabled exactly when it meets that, unless it would be refused anyhow. -/
theorem registry_agrees (moves : List Move)
    (found : (World.initial.run moves).devices.get? id = some held)
    (kept : held.isReleased = false)
    (unreturned : ∀ move ∈ moves, move.bypass? ≠ some (.release held.handle))
    (undisturbed : ∀ move ∈ moves, move.disturbs id held.handle = false)
    (whole : World.initial.isWhole id moves = true) :
    let world := World.initial.run moves
    world.bench.driver.enabledEvents held.handle = .ok held.enabledEvents ∧
    ∃ device, world.bench.driver.instruments.get? held.handle = some device ∧
      ∀ kinds period handler,
        let answer := ((Act.enableEvents id kinds period handler).on world).1
        (answer = .error .eventAlreadyEnabled → held.enabledEvents.intersects kinds = true) ∧
        (held.enabledEvents.intersects kinds = true →
          answer = .error .eventAlreadyEnabled ∨
            ∃ error, answer = .error error ∧ device.checkUnbound kinds period = .error error) := by
  intro world
  obtain ⟨device, there, registers⟩ := registers_run moves found kept unreturned undisturbed
  have same := registers.same whole
  constructor
  · have bound : world.bench.driver.enabledEvents held.handle = .ok device.boundKinds := by
      rw [Driver.enabledEvents, Driver.instrument_eq_ok_iff.mpr there]
      rfl
    rw [bound, same]
  · refine ⟨device, there, fun kinds period handler => ?_⟩
    have answered : ((Act.enableEvents id kinds period handler).on world).1 = _ :=
      Act.answer_enableEvents (sound_run moves).direct found kept there kinds period handler
    rw [device.checkBinding_eq, same] at answered
    simp only [answered]
    cases subscribed : held.isSubscribed kinds with
    | true => exact ⟨fun _ => Device.intersects_of_isSubscribed subscribed, fun _ => .inl rfl⟩
    | false =>
        rw [if_neg Bool.false_ne_true]
        cases checked : device.checkUnbound kinds period with
        | error error =>
            refine ⟨fun told => ?_, fun _ => .inr ⟨error, rfl, rfl⟩⟩
            obtain rfl := Except.error.inj told
            exact absurd checked (device.checkUnbound_ne kinds period)
        | ok accepted =>
            cases shares : held.enabledEvents.intersects kinds with
            | true => exact ⟨fun _ => rfl, fun _ => .inl rfl⟩
            | false =>
                constructor
                · intro told
                  cases told
                · intro met
                  contradiction

/-- A device with two event kinds beside the named ones is attached and opened. -/
def opened : List Move :=
  let device := Descriptor.ofIdentity "USB-1808X" 317 (.named ["USB"]) "01D97CFA"
  let profile := Profile.multifunction.withInteger .device Item.Device.eventKinds 0 0x7f
  [.stimulus (.attach device profile), .take device]

/-- Named and unnamed kinds are enabled together and disabled one after the other, and a kind that
has a handler is refused. -/
def watched : List Move :=
  opened ++ [.call 0 (.enableEvents ⟨0x61⟩ 10 ⟨"first", .record⟩),
    .call 0 (.enableEvents ⟨0x14⟩ 0 ⟨"second", .record⟩),
    .call 0 (.enableEvents ⟨0x40⟩ 0 ⟨"third", .record⟩), .call 0 (.disableEvents ⟨0x11⟩)]

theorem registry_agrees_watched :
    ∃ held, (World.initial.run watched).devices.get? 0 = some held ∧ held.isReleased = false ∧
      (∀ move ∈ watched, move.bypass? ≠ some (.release held.handle)) ∧
      (∀ move ∈ watched, move.disturbs 0 held.handle = false) ∧
      World.initial.isWhole 0 watched = true ∧
      held.enabledEvents = ⟨0x64⟩ ∧
      (World.initial.run watched).bench.driver.enabledEvents held.handle = .ok ⟨0x64⟩ := by
  have there : ((World.initial.run watched).devices.get? 0).map
      (fun held => (held.handle, held.isReleased, held.enabledEvents)) = some (1, false, ⟨0x64⟩) := by
    decide +kernel
  have unbypassed : ∀ move ∈ watched, move.bypass? = none := by decide +kernel
  have undisturbed : ∀ move ∈ watched, move.disturbs 0 1 = false := by decide +kernel
  have whole : World.initial.isWhole 0 watched = true := by decide +kernel
  rcases Option.map_eq_some_iff.mp there with ⟨held, found, same⟩
  obtain ⟨handle, kept, enabled⟩ : held.handle = 1 ∧ held.isReleased = false ∧
      held.enabledEvents = ⟨0x64⟩ := by simpa using same
  have unreturned : ∀ move ∈ watched, move.bypass? ≠ some (.release held.handle) := by
    intro move member
    simp [unbypassed move member]
  rw [← handle] at undisturbed
  obtain ⟨agrees, _⟩ := registry_agrees watched found kept unreturned undisturbed whole
  exact ⟨held, found, kept, unreturned, undisturbed, whole, enabled, enabled ▸ agrees⟩

/-- Two unnamed kinds are enabled as one item, and one of them is disabled. -/
def split : List Move :=
  opened ++ [.call 0 (.enableEvents ⟨0x60⟩ 0 ⟨"both", .record⟩), .call 0 (.disableEvents ⟨0x20⟩)]

/-- A device goes on remembering an item of which bits have been disabled. -/
theorem not_registry_agrees_split :
    ¬∀ (moves : List Move) (id : DeviceId) (held : Device),
      (World.initial.run moves).devices.get? id = some held → held.isReleased = false →
      (∀ move ∈ moves, move.bypass? ≠ some (.release held.handle)) →
      (∀ move ∈ moves, move.disturbs id held.handle = false) →
      (World.initial.run moves).bench.driver.enabledEvents held.handle =
        .ok held.enabledEvents := by
  intro claim
  have there : ((World.initial.run split).devices.get? 0).map
      (fun held => (held.handle, held.isReleased, held.enabledEvents)) = some (1, false, ⟨0x60⟩) := by
    decide +kernel
  have bound : (World.initial.run split).bench.driver.enabledEvents 1 = .ok ⟨0x40⟩ := by
    decide +kernel
  have unbypassed : ∀ move ∈ split, move.bypass? = none := by decide +kernel
  have undisturbed : ∀ move ∈ split, move.disturbs 0 1 = false := by decide +kernel
  rcases Option.map_eq_some_iff.mp there with ⟨held, found, same⟩
  obtain ⟨handle, kept, enabled⟩ : held.handle = 1 ∧ held.isReleased = false ∧
      held.enabledEvents = ⟨0x60⟩ := by simpa using same
  have unreturned : ∀ move ∈ split, move.bypass? ≠ some (.release held.handle) := by
    intro move member
    simp [unbypassed move member]
  rw [← handle] at undisturbed bound
  have agrees := claim split 0 held found kept unreturned undisturbed
  rw [bound, enabled] at agrees
  revert agrees
  decide

end World

end Acquisition
