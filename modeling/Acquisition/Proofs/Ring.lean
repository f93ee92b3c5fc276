import Acquisition.Buffer.Samples

/-!
# Rows in a ring

A scan lays its rows out in a ring of its own: as many cells as a row has columns,
times the samples per channel.  Reading back goes by the buffer: its channels, and all
of its cells.  `returns_iff` says when the two agree.
-/

namespace Acquisition

universe u

variable {α : Type u}

/-! ## Writing -/

/-- The last rows lie in a ring of `samples` rows of `width` cells each. -/
structure Laid (cells : Array α) (rows : List (List α)) (width samples : Nat) : Prop where
  length : ∀ row ∈ rows, row.length = width
  stored : ∀ i row, rows[i]? = some row → rows.length ≤ i + samples →
    ∀ j, j < width → cells[i % samples * width + j]? = row[j]?

/-- Rows that are less than a round apart lie at different places. -/
theorem mod_ne_mod {samples i j : Nat} (before : i < j) (near : j < i + samples) :
    i % samples ≠ j % samples := by
  intro same
  have distance : (j - i) % samples = 0 := Nat.sub_mod_eq_zero_of_mod_eq same.symm
  rw [Nat.mod_eq_of_lt (by omega)] at distance
  omega

/-- Cells of different rows are different. -/
theorem cell_outside_row {width place other j : Nat} (ne : place ≠ other) (inside : j < width) :
    place * width + j < other * width ∨ other * width + width ≤ place * width + j := by
  rcases Nat.lt_or_gt_of_ne ne with below | above
  · have reach : (place + 1) * width ≤ other * width := Nat.mul_le_mul_right _ below
    rw [Nat.add_mul] at reach
    omega
  · have reach : (other + 1) * width ≤ place * width := Nat.mul_le_mul_right _ above
    rw [Nat.add_mul] at reach
    omega

namespace Laid

variable {cells after : Array α} {rows : List (List α)} {width samples : Nat}

theorem nil (cells : Array α) (width samples : Nat) : Laid cells [] width samples where
  length := by simp
  stored := by simp

/-- A row written at its place comes after the rows before it. -/
theorem append (laid : Laid cells rows width samples) {row : List α}
    (whole : row.length = width)
    (written : ∀ j, j < width → after[rows.length % samples * width + j]? = row[j]?)
    (kept : ∀ cell, cell < rows.length % samples * width ∨
      rows.length % samples * width + width ≤ cell → after[cell]? = cells[cell]?) :
    Laid after (rows ++ [row]) width samples where
  length := by
    intro other member
    rcases List.mem_append.mp member with earlier | last
    · exact laid.length other earlier
    · rw [List.mem_singleton.mp last]
      exact whole
  stored := by
    intro i other found near j inside
    rw [List.length_append, List.length_singleton] at near
    by_cases last : i = rows.length
    · subst last
      rw [List.getElem?_concat_length, Option.some.injEq] at found
      rw [← found]
      exact written j inside
    · have earlier : i < rows.length := by
        have bound := (List.getElem?_eq_some_iff.mp found).1
        rw [List.length_append, List.length_singleton] at bound
        omega
      rw [List.getElem?_append_left earlier] at found
      have lower : i % samples ≠ rows.length % samples := mod_ne_mod earlier (by omega)
      rw [kept _ (cell_outside_row lower inside)]
      exact laid.stored i other found (by omega) j inside

end Laid

/-! ## Reading -/

namespace Samples

variable {samples : Samples α}

/-- Reading back gives the last rows, at most `most` of them and the oldest first. -/
structure Returns (samples : Samples α) (transfer : Transfer) (rows : List (List α))
    (most : Nat) : Prop where
  recent : ∀ count, samples.recent transfer count =
    rows.drop (rows.length - min count (min rows.length most))
  latest : samples.latest? transfer = rows.getLast?

/-- Every row that is read has a sample for each channel. -/
theorem length_row (nonempty : 0 < samples.size) (start : Nat) :
    (samples.row start).length = samples.channels := by
  have found : ∀ channel ∈ List.range samples.channels,
      (samples.get? ((start + channel) % samples.size)).isSome = true := by
    intro channel _
    have inside : (start + channel) % samples.size < samples.cells.size := Nat.mod_lt _ nonempty
    simp [get?, inside]
  rw [row, List.length_filterMap_eq_countP, List.countP_eq_length.mpr found, List.length_range]

/-- A row is read off the cells that hold it. -/
theorem row_eq {start : Nat} {row : List α} (whole : row.length = samples.channels)
    (inside : start + samples.channels ≤ samples.size)
    (stored : ∀ j, j < samples.channels → samples.cells[start + j]? = row[j]?) :
    samples.row start = row := by
  have read : ∀ count, count ≤ samples.channels →
      ((List.range count).filterMap fun channel =>
        samples.get? ((start + channel) % samples.size)) = row.take count := by
    intro count bound
    induction count with
    | zero => rfl
    | succ count ih =>
        have cell : samples.get? ((start + count) % samples.size) = row[count]? := by
          rw [Nat.mod_eq_of_lt (by omega)]
          exact stored count bound
        rw [List.range_succ, List.filterMap_append, ih (by omega), List.take_add_one]
        cases found : row[count]? <;> simp [cell, found]
  rw [Samples.row, read _ (Nat.le_refl _), ← whole, List.take_length]

/-! ## Going back -/

theorem sub_mod_of_le {number back most : Nat} (le : back ≤ number % most) :
    (number - back) % most = number % most - back := by
  have split := Nat.div_add_mod number most
  have rest : number - back = most * (number / most) + (number % most - back) := by omega
  by_cases empty : most = 0
  · subst empty
    simp
  · have below := Nat.mod_lt number (Nat.pos_of_ne_zero empty)
    rw [rest, Nat.mul_add_mod, Nat.mod_eq_of_lt (by omega)]

theorem sub_mod_of_lt {number back most : Nat} (lt : number % most < back) (near : back < most)
    (old : back ≤ number) : (number - back) % most = number % most + most - back := by
  have split := Nat.div_add_mod number most
  obtain ⟨rounds, counted⟩ : ∃ rounds, number / most = rounds + 1 := by
    cases quotient : number / most with
    | zero =>
        rw [quotient] at split
        omega
    | succ rounds => exact ⟨rounds, rfl⟩
  rw [counted, Nat.mul_add, Nat.mul_one] at split
  have rest : number - back = most * rounds + (number % most + most - back) := by omega
  rw [rest, Nat.mul_add_mod, Nat.mod_eq_of_lt (by omega)]

/-- Going back by rows ends at the place of an earlier row, if no cell lies outside of the
ring or the ring has not been filled. -/
theorem rowBefore_eq {count back width most : Nat} (channels : samples.channels = width)
    (positive : 0 < width) (fits : width * most ≤ samples.size)
    (unwrapped : count ≤ most ∨ samples.size = width * most)
    (old : back < count) (kept : back < most) :
    samples.rowBefore ((count - 1) % most * width) back = (count - 1 - back) % most * width := by
  have scale {left right : Nat} (lt : left < right) : left * width < right * width :=
    Nat.mul_lt_mul_of_pos_right lt positive
  rw [Nat.mul_comm] at fits
  have place := Nat.mod_lt (count - 1) (Nat.zero_lt_of_lt kept)
  have near : back * width < samples.size := Nat.lt_of_lt_of_le (scale kept) fits
  rw [rowBefore, channels, Nat.mod_eq_of_lt near]
  by_cases reach : back ≤ (count - 1) % most
  · rw [sub_mod_of_le reach, Nat.sub_mul]
    have start := Nat.mul_le_mul_right width reach
    have bound := Nat.lt_of_lt_of_le (scale place) fits
    have turn : (count - 1) % most * width + samples.size - back * width =
        (count - 1) % most * width - back * width + samples.size := by omega
    rw [turn, Nat.add_mod_right, Nat.mod_eq_of_lt (by omega)]
  · have crossed : (count - 1) % most < back := Nat.lt_of_not_le reach
    have size : samples.size = most * width := by
      rcases unwrapped with first | exact
      · rw [Nat.mod_eq_of_lt (by omega)] at crossed
        omega
      · rw [exact, Nat.mul_comm]
    rw [sub_mod_of_lt crossed kept (by omega), Nat.sub_mul, Nat.add_mul, size]
    have start := scale crossed
    rw [Nat.mod_eq_of_lt (by omega)]

/-! ## Reading back -/

/-- What a scan has written and what it says about it agree. -/
structure Written (samples : Samples α) (transfer : Transfer) (rows : List (List α))
    (width most : Nat) : Prop where
  laid : Laid samples.cells rows width most
  width_pos : 0 < width
  most_pos : 0 < most
  fits : width * most ≤ samples.size
  counted : transfer.scanCount = rows.length
  index : transfer.index =
    if transfer.scanCount = 0 then -1
    else (((transfer.scanCount - 1) % most * width : Nat) : Int)

section Written

variable {transfer : Transfer} {rows : List (List α)} {width most : Nat}

theorem Written.size_pos (written : samples.Written transfer rows width most) :
    0 < samples.size :=
  Nat.lt_of_lt_of_le (Nat.mul_pos written.width_pos written.most_pos) written.fits

theorem Written.latestIndex?_nil (written : samples.Written transfer [] width most) :
    transfer.latestIndex? = none := by
  have index := written.index
  rw [if_pos (by simpa using written.counted)] at index
  simp [Transfer.latestIndex?, index]

/-- Before the first row nothing is read. -/
theorem Written.returns_nil (written : samples.Written transfer [] width most) :
    samples.Returns transfer [] most where
  recent count := by simp [recent, written.latestIndex?_nil]
  latest := by simp [latest?, written.latestIndex?_nil]

theorem Written.latestIndex?_eq (written : samples.Written transfer rows width most)
    (nonempty : rows ≠ []) :
    transfer.latestIndex? = some ((rows.length - 1) % most * width) := by
  have index := written.index
  have counted := List.length_pos_iff.mpr nonempty
  rw [written.counted, if_neg (by omega)] at index
  rw [Transfer.latestIndex?, index, if_pos (Int.natCast_nonneg _), Int.toNat_natCast]

/-- An earlier row is read where it was written. -/
theorem Written.row_eq (written : samples.Written transfer rows width most)
    (channels : samples.channels = width)
    (unwrapped : rows.length ≤ most ∨ samples.size = width * most) {back : Nat} {row : List α}
    (old : back < rows.length) (kept : back < most)
    (found : rows[rows.length - 1 - back]? = some row) :
    samples.row (samples.rowBefore ((rows.length - 1) % most * width) back) = row := by
  rw [rowBefore_eq channels written.width_pos written.fits unwrapped old kept]
  have place := Nat.mod_lt (rows.length - 1 - back) written.most_pos
  have reach : (_ + 1) * width ≤ most * width := Nat.mul_le_mul_right width place
  have fits := written.fits
  rw [Nat.mul_comm] at fits
  rw [Nat.add_mul, Nat.one_mul] at reach
  refine Samples.row_eq ?_ (by omega) ?_
  · rw [channels]
    exact written.laid.length row (List.mem_of_getElem? found)
  · rw [channels]
    exact written.laid.stored _ row found (by omega)

/-- A buffer whose rows are those of the scan gives them back, if no cell lies outside of
the ring or the ring has not been filled. -/
theorem Written.returns (written : samples.Written transfer rows width most)
    (channels : samples.channels = width)
    (unwrapped : rows.length ≤ most ∨ samples.size = width * most) :
    samples.Returns transfer rows most := by
  have filled : samples.isEmpty = false := by
    simpa [isEmpty] using Nat.ne_of_gt written.size_pos
  by_cases nonempty : rows = []
  · subst nonempty
    exact written.returns_nil
  have start := written.latestIndex?_eq nonempty
  have counted := List.length_pos_iff.mpr nonempty
  have available (count : Nat) :
      samples.availableRows transfer count = min count (min rows.length most) := by
    have most_le : most ≤ samples.perChannel := by
      rw [perChannel, channels, Nat.le_div_iff_mul_le written.width_pos, Nat.mul_comm]
      exact written.fits
    rw [availableRows, written.counted]
    rcases unwrapped with first | exact
    · omega
    · rw [perChannel, channels, exact, Nat.mul_div_cancel_left _ written.width_pos]
  constructor
  · intro count
    simp only [recent, start, filled, Bool.false_eq_true, if_false]
    apply List.ext_getElem
    · simp only [List.length_map, List.length_reverse, List.length_range, available,
        List.length_drop]
      omega
    · intro i left right
      simp only [List.length_map, List.length_reverse, List.length_range, available] at left
      simp only [List.getElem_map, List.getElem_reverse, List.getElem_range, List.length_range,
        available, List.getElem_drop]
      refine written.row_eq channels unwrapped (by omega) (by omega) ?_
      rw [List.getElem?_eq_some_iff]
      refine ⟨by omega, ?_⟩
      congr 1
      omega
  · simp only [latest?, start, filled, Bool.false_eq_true, if_false]
    rcases Option.isSome_iff_exists.mp (List.getLast?_isSome.mpr nonempty) with ⟨row, last⟩
    have read := written.row_eq channels unwrapped counted written.most_pos
      (List.getLast?_eq_getElem? ▸ last)
    rw [rowBefore_eq channels written.width_pos written.fits unwrapped counted written.most_pos,
      Nat.sub_zero] at read
    rw [last, read]

/-- Rows come back exactly when the buffer is cut into the rows of the scan, and the scan
has not come round or its ring is the whole buffer. -/
theorem Written.returns_iff (written : samples.Written transfer rows width most)
    (whole : samples.channels ∣ samples.size) :
    samples.Returns transfer rows most ↔
      rows = [] ∨
      samples.channels = width ∧ (rows.length ≤ most ∨ samples.size = width * most) := by
  constructor
  · intro returns
    by_cases nonempty : rows = []
    · exact .inl nonempty
    refine .inr ?_
    have filled : samples.isEmpty = false := by
      simpa [isEmpty] using Nat.ne_of_gt written.size_pos
    have start := written.latestIndex?_eq nonempty
    have channels : samples.channels = width := by
      have latest := returns.latest
      simp only [latest?, start, filled, Bool.false_eq_true, if_false] at latest
      rw [← length_row written.size_pos]
      exact written.laid.length _ (List.mem_of_getLast? latest.symm)
    refine ⟨channels, ?_⟩
    by_cases wrapped : rows.length ≤ most
    · exact .inl wrapped
    by_cases exact : samples.size = width * most
    · exact .inr exact
    -- One more row than the ring holds comes back.
    exfalso
    have recent := congrArg List.length (returns.recent (most + 1))
    have fits := written.fits
    rcases whole with ⟨count, size⟩
    rw [channels] at size
    have more : most < count := by
      apply Nat.lt_of_mul_lt_mul_left (a := width)
      omega
    have perChannel : samples.perChannel = count := by
      rw [Samples.perChannel, channels, size, Nat.mul_div_cancel_left _ written.width_pos]
    simp only [Samples.recent, start, filled, Bool.false_eq_true, if_false, List.length_map,
      List.length_reverse, List.length_range, availableRows, written.counted, perChannel,
      List.length_drop] at recent
    omega
  · rintro (rfl | ⟨channels, unwrapped⟩)
    · exact written.returns_nil
    · exact written.returns channels unwrapped

end Written

end Samples

end Acquisition
