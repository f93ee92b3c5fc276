import Acquisition.Buffer.Store

/-!
# What happens to storages

A caller edits storages: it allocates them and puts samples into their cells.
The shape of a store is how many cells its storages have.  Putting a sample keeps
it, and an edit can only make it longer.
-/

namespace Acquisition

/-- What a caller does to storages. -/
inductive Edit where
  | allocateReals (cells : Array Float)
  | allocateWords (cells : Array UInt64)
  | putReal (buffer : Buffer Float) (index : Nat) (value : Float)
  | putWord (buffer : Buffer UInt64) (index : Nat) (value : UInt64)

namespace Edit

/-- The store after an edit. -/
def apply (store : Store) : Edit → Store
  | allocateReals cells => (store.allocate cells).2
  | allocateWords cells => (store.allocate cells).2
  | putReal buffer index value => buffer.put index value store
  | putWord buffer index value => buffer.put index value store

end Edit

/-! ## Shapes -/

namespace Store

/-- How many cells each storage of either kind has. -/
def shape (store : Store) : Array Nat × Array Nat :=
  (store.reals.map Array.size, store.words.map Array.size)

/-- Changing one array for another of its size keeps all sizes. -/
theorem map_size_modify {α : Type} (storages : Array (Array α)) (storage : Nat)
    (change : Array α → Array α) (keeps : ∀ cells, (change cells).size = cells.size) :
    (storages.modify storage change).map Array.size = storages.map Array.size := by
  apply Array.ext_getElem?
  intro index
  simp only [Array.getElem?_map, Array.getElem?_modify]
  split
  · cases storages[index]? <;> simp [keeps]
  · rfl

@[simp]
theorem shape_put_reals (store : Store) (buffer : Buffer Float) (index : Nat) (value : Float) :
    (buffer.put index value store).shape = store.shape := by
  refine Prod.ext ?_ rfl
  exact map_size_modify store.reals _ _ fun _ => Array.size_setIfInBounds

@[simp]
theorem shape_put_words (store : Store) (buffer : Buffer UInt64) (index : Nat)
    (value : UInt64) : (buffer.put index value store).shape = store.shape := by
  refine Prod.ext rfl ?_
  exact map_size_modify store.words _ _ fun _ => Array.size_setIfInBounds

/-- Putting a sample keeps the shape. -/
@[simp]
theorem shape_put (store : Store) (buffer : ScanBuffer) (index : Nat) (value : Float) :
    (buffer.put store index value).shape = store.shape := by
  cases buffer with
  | reals buffer => exact store.shape_put_reals buffer index value
  | words buffer => exact store.shape_put_words buffer index value.toUInt64

/-- How many cells a buffer has can be read off the shape. -/
theorem size_eq_shape (store : Store) (buffer : ScanBuffer) :
    buffer.size store = match buffer with
      | .reals buffer => store.shape.1[buffer.storage]?.getD 0
      | .words buffer => store.shape.2[buffer.storage]?.getD 0 := by
  cases buffer with
  | reals buffer =>
      simp only [ScanBuffer.size, Buffer.view, Samples.size, cells, Sample.bank, shape,
        Array.getElem?_map]
      cases store.reals[buffer.storage]? <;> rfl
  | words buffer =>
      simp only [ScanBuffer.size, Buffer.view, Samples.size, cells, Sample.bank, shape,
        Array.getElem?_map]
      cases store.words[buffer.storage]? <;> rfl

/-- Stores of one shape have buffers of the same sizes. -/
theorem size_eq_of_shape_eq {left right : Store} (same : left.shape = right.shape)
    (buffer : ScanBuffer) : buffer.size left = buffer.size right := by
  rw [size_eq_shape, size_eq_shape, same]

/-- What an edit makes of the shape depends on the shape alone. -/
theorem shape_edit_congr {left right : Store} (same : left.shape = right.shape) (edit : Edit) :
    (edit.apply left).shape = (edit.apply right).shape := by
  cases edit with
  | allocateReals cells =>
      have first := congrArg Prod.fst same
      have second := congrArg Prod.snd same
      simp only [shape] at first second
      simp [shape, Edit.apply, allocate, Sample.withBank, Sample.bank, first, second]
  | allocateWords cells =>
      have first := congrArg Prod.fst same
      have second := congrArg Prod.snd same
      simp only [shape] at first second
      simp [shape, Edit.apply, allocate, Sample.withBank, Sample.bank, first, second]
  | putReal buffer index value => simpa [Edit.apply] using same
  | putWord buffer index value => simpa [Edit.apply] using same

/-! ## Growth -/

/-- Every storage that has cells in one store has as many in the other. -/
def Extends (before after : Store) : Prop :=
  ∀ buffer : ScanBuffer, buffer.size before ≠ 0 → buffer.size after = buffer.size before

theorem Extends.of_shape_eq {before after : Store} (same : after.shape = before.shape) :
    before.Extends after :=
  fun buffer _ => size_eq_of_shape_eq same buffer

/-- Growth in two steps is growth. -/
theorem Extends.trans {first middle last : Store} (left : first.Extends middle)
    (right : middle.Extends last) : first.Extends last := by
  intro buffer nonempty
  have kept := left buffer nonempty
  exact (right buffer (kept ▸ nonempty)).trans kept

/-- A buffer that is large enough stays so. -/
theorem Extends.le_size {before after : Store} (growth : before.Extends after)
    {buffer : ScanBuffer} {count : Nat} (fits : count ≤ buffer.size before) :
    count ≤ buffer.size after := by
  by_cases empty : buffer.size before = 0
  · omega
  · rw [growth buffer empty]
    exact fits

/-- A new storage changes no size but its own. -/
theorem getD_push_eq (sizes : Array Nat) (size : Nat) {storage : Nat}
    (nonempty : sizes[storage]?.getD 0 ≠ 0) :
    (sizes.push size)[storage]?.getD 0 = sizes[storage]?.getD 0 := by
  have inside : storage < sizes.size := by
    apply Nat.lt_of_not_le
    intro outside
    simp [Array.getElem?_eq_none outside] at nonempty
  simp [Array.getElem?_push, Nat.ne_of_lt inside]

/-- No edit changes the size of a storage that has cells. -/
theorem extends_edit (store : Store) (edit : Edit) : store.Extends (edit.apply store) := by
  cases edit with
  | allocateReals cells =>
      intro buffer nonempty
      rw [size_eq_shape] at nonempty ⊢
      rw [size_eq_shape]
      cases buffer with
      | reals buffer =>
          simp only [Edit.apply, allocate, Sample.withBank, Sample.bank, shape, Array.map_push]
            at nonempty ⊢
          exact getD_push_eq _ _ nonempty
      | words buffer => rfl
  | allocateWords cells =>
      intro buffer nonempty
      rw [size_eq_shape] at nonempty ⊢
      rw [size_eq_shape]
      cases buffer with
      | reals buffer => rfl
      | words buffer =>
          simp only [Edit.apply, allocate, Sample.withBank, Sample.bank, shape, Array.map_push]
            at nonempty ⊢
          exact getD_push_eq _ _ nonempty
  | putReal buffer index value => exact .of_shape_eq (by simp [Edit.apply])
  | putWord buffer index value => exact .of_shape_eq (by simp [Edit.apply])

end Store

end Acquisition
