import Acquisition.Proofs.Ports

/-!
# Where the records of scans come from

Whatever is recorded of a scan, its columns and its buffer are those of the start that was
accepted (`ScanRun.Stems`), on every reachable bench (`stems_invariant`).  So a digital scan has
columns of ports that the device has, a counter scan has one column for each of its counters,
and both work on a buffer of words.
-/

namespace Acquisition

/-- A start asked for the columns and the buffer, of a device that reports a profile. -/
def ScanRun.Stems (run : ScanRun) (target : ScanTarget) (profile : Profile) : Prop :=
  ∃ (scan : ScanStart) (asked : Instrument), scan.target = target ∧ asked.HasForms ∧
    asked.profile = profile ∧ scan.columns asked = .ok run.columns ∧ run.buffer = scan.buffer

theorem ScanRun.Stems.of_continues {run later : ScanRun} {target : ScanTarget} {profile : Profile}
    (stems : run.Stems target profile) (continues : run.Continues later) :
    later.Stems target profile := by
  obtain ⟨scan, asked, aimed, forms, same, columns, buffer⟩ := stems
  exact ⟨scan, asked, aimed, forms, same, continues.columns ▸ columns,
    continues.buffer.trans buffer⟩

namespace Instrument

/-- The device has the ports that it reports, and each of its records stems from a start. -/
structure Stems (instrument : Instrument) : Prop where
  forms : instrument.HasForms
  records : ∀ target run, instrument.scans.get? target = some run →
    run.Stems target instrument.profile

variable {instrument : Instrument} {store : Store}

theorem Stems.act {action : Action} {result : Instrument × Store × List Firing}
    (stems : instrument.Stems) (done : action.act instrument store = .ok result) :
    result.1.Stems where
  forms := stems.forms.act done
  records target run found := by
    rw [profile_of_act done]
    rcases Action.record_of_act done found with ⟨earlier, before, continues⟩ |
      ⟨scan, columns, rfl, aimed, asked, rfl⟩
    · exact (stems.records target earlier before).of_continues continues
    · refine ⟨scan, instrument, aimed, stems.forms, rfl, ?_, scan.plan_buffer columns⟩
      rw [asked]
      exact congrArg Except.ok (scan.plan_columns columns).symm

/-- Every record of a reachable bench stems from a start. -/
theorem stems_invariant : Invariant fun instrument _ => instrument.Stems where
  opened _ _ _ := ⟨rfl, nofun⟩
  adjusted adjustment stems := {
    forms := stems.forms.adjust adjustment
    records := by
      intro target run found
      rw [adjustment.alike.profile]
      rw [adjustment.alike.scans] at found
      exact stems.records target run found }
  acted done stems := stems.act done
  grown _ stems := stems

/-! ## Columns -/

theorem mem_portColumns {low high : Int} {columns : List Column}
    (asked : instrument.portColumns low high = .ok columns) {column : Column}
    (member : column ∈ columns) : ∃ kind ∈ instrument.ports.map Port.kind, column = .port kind := by
  simp only [portColumns] at asked
  split at asked
  · contradiction
  · obtain rfl := Except.ok.inj asked
    obtain ⟨port, kept, rfl⟩ := List.mem_map.mp member
    exact ⟨port.kind, List.mem_map_of_mem (List.mem_filter.mp kept).1, rfl⟩

/-- A column of a run of channel numbers belongs to one of them. -/
theorem mem_columnsFrom {column : Int → Except Error Column} {low : Int} {count : Nat}
    {columns : List Column} (asked : columnsFrom column low count = .ok columns) {found : Column}
    (member : found ∈ columns) : ∃ channel, low ≤ channel ∧ column channel = .ok found := by
  induction count generalizing low columns with
  | zero =>
      obtain rfl := Except.ok.inj asked
      contradiction
  | succ count ih =>
      simp only [columnsFrom, bind_eq_ok_iff, pure_eq_ok_iff] at asked
      obtain ⟨first, head, rest, tail, rfl⟩ := asked
      rcases List.mem_cons.mp member with rfl | later
      · exact ⟨low, Int.le_refl low, head⟩
      · obtain ⟨channel, above, places⟩ := ih tail later
        exact ⟨channel, Int.le_trans (Int.le_add_one (Int.le_refl low)) above, places⟩

/-- Different channel numbers have different columns. -/
theorem nodup_columnsFrom {column : Int → Except Error Column} {place : Int → Column}
    (injective : ∀ {first second}, place first = place second → first = second)
    (each : ∀ channel found, column channel = .ok found → found = place channel)
    {low : Int} {count : Nat} {columns : List Column}
    (asked : columnsFrom column low count = .ok columns) : columns.Nodup := by
  induction count generalizing low columns with
  | zero =>
      obtain rfl := Except.ok.inj asked
      exact List.nodup_nil
  | succ count ih =>
      simp only [columnsFrom, bind_eq_ok_iff, pure_eq_ok_iff] at asked
      obtain ⟨first, head, rest, tail, rfl⟩ := asked
      refine List.nodup_cons.mpr ⟨?_, ih tail⟩
      intro member
      obtain ⟨channel, above, places⟩ := mem_columnsFrom tail member
      have same := injective ((each low first head).symm.trans (each channel first places))
      omega

end Instrument

namespace ScanRun.Stems

variable {run : ScanRun} {target : ScanTarget} {profile : Profile}

/-- The columns of a digital scan are ports that the profile reports. -/
theorem ports (stems : run.Stems target profile)
    (digital : target = .digitalIn ∨ target = .digitalOut) :
    ∃ words, run.buffer = .words words ∧ ∀ column ∈ run.columns,
      ∃ kind ∈ (Instrument.portsOf profile).map Port.kind, column = .port kind := by
  obtain ⟨scan, asked, rfl, forms, rfl, columns, buffer⟩ := stems
  rw [← forms.kinds, buffer]
  cases scan with
  | digitalIn request words =>
      exact ⟨words, rfl, fun column member => Instrument.mem_portColumns columns member⟩
  | digitalOut request words =>
      simp only [ScanStart.columns, bind_eq_ok_iff] at columns
      obtain ⟨found, listed, checked⟩ := columns
      split at checked
      · contradiction
      · obtain rfl := pure_eq_ok_iff.mp checked
        exact ⟨words, rfl, fun column member => Instrument.mem_portColumns listed member⟩
  | _ => simp [ScanStart.target] at digital

/-- The columns of a counter scan are counters that the profile reports, each of them once. -/
theorem counters (stems : run.Stems .counterIn profile) :
    ∃ words, run.buffer = .words words ∧ run.columns.Nodup ∧ ∀ column ∈ run.columns,
      ∃ counter, column = .counter counter ∧ ∀ device : Instrument, device.profile = profile →
        device.checkCounter counter = .ok () := by
  obtain ⟨scan, asked, aimed, _, rfl, columns, buffer⟩ := stems
  rw [buffer]
  cases scan with
  | counters request flags words =>
      simp only [ScanStart.columns, Instrument.columnsBetween] at columns
      split at columns
      · contradiction
      refine ⟨words, rfl, ?_, ?_⟩
      · refine Instrument.nodup_columnsFrom (fun same => Column.counter.inj same) ?_ columns
        intro channel found placed
        obtain ⟨_, _, same⟩ := bind_eq_ok_iff.mp placed
        exact (pure_eq_ok_iff.mp same).symm
      · intro column member
        obtain ⟨counter, _, placed⟩ := Instrument.mem_columnsFrom columns member
        obtain ⟨⟨⟩, checked, same⟩ := bind_eq_ok_iff.mp placed
        refine ⟨counter, (pure_eq_ok_iff.mp same).symm, ?_⟩
        intro device reports
        rw [← checked, Instrument.checkCounter, Instrument.checkCounter, reports]
  | _ => cases aimed

end ScanRun.Stems

end Acquisition
