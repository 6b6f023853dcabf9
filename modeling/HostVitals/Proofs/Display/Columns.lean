import Mathlib.Data.List.Forall2
import HostVitals.Display.Temperatures
import HostVitals.Proofs.Display.Rows

/-!
# Columns of the sensor section

The readings are shown in two columns, the labels and the temperatures.  The first column is as wide
as the longest label, counted in characters, so that no label is cut and all temperatures start at
the same place.

Main results:

- `labelWidth_le_iff`, `exists_labelWidth`: the column is as wide as the longest label.
- `writeSpans_reading`: the row of a reading.
- `sensors_aligned`: the rows of the section.
-/

namespace HostVitals.Display

open HostVitals.Number HostVitals.Text

section

variable {rs : List Reading} {r : Reading}

/-! ## Width of the labels -/

theorem foldl_width_le_iff (rs : List Reading) (start bound : Nat) :
    rs.foldl (fun width r => max width r.label.toList.length) start ≤ bound ↔
      start ≤ bound ∧ ∀ r ∈ rs, r.label.length ≤ bound := by
  induction rs generalizing start with
  | nil => simp
  | cons r rs ih =>
      rw [List.foldl_cons, ih, Nat.max_le, List.forall_mem_cons, and_assoc, String.length_toList]

/-- The column is no wider than a bound when no label is longer than that. -/
theorem labelWidth_le_iff {bound : Nat} :
    labelWidth rs ≤ bound ↔ ∀ r ∈ rs, r.label.length ≤ bound := by
  rw [labelWidth, foldl_width_le_iff]
  exact and_iff_right (Nat.zero_le bound)

theorem length_le_labelWidth (h : r ∈ rs) : r.label.length ≤ labelWidth rs :=
  labelWidth_le_iff.1 (Nat.le_refl _) r h

/-- The column is as wide as one of the labels. -/
theorem exists_labelWidth (hne : rs ≠ []) : ∃ r ∈ rs, r.label.length = labelWidth rs := by
  by_contra hnone
  -- then a narrower column would do
  have hless : ∀ r ∈ rs, r.label.length < labelWidth rs := by
    intro r hr
    refine Nat.lt_of_le_of_ne (length_le_labelWidth hr) ?_
    intro heq
    exact hnone ⟨r, hr, heq⟩
  obtain ⟨r, hr⟩ := List.exists_mem_of_ne_nil rs hne
  have hpos := hless r hr
  have hnarrow : labelWidth rs ≤ labelWidth rs - 1 :=
    labelWidth_le_iff.2 (fun r hr => Nat.le_sub_one_of_lt (hless r hr))
  omega

/-! ## Rows -/

/-- A row of two columns: four blanks, a label, more blanks up to the column of the temperatures,
and a temperature. -/
def IsRow (column : Nat) (r : Reading) (row : List Char) : Prop :=
  ∃ padding, row = "    ".toList ++ r.label.toList ++ List.replicate padding ' ' ++ "  ".toList ++
      (fixedPlaces 1 r.value ++ "°C".toList) ∧
    ("    ".toList ++ r.label.toList ++ List.replicate padding ' ' ++ "  ".toList).length = column

theorem writeSpans_reading (width : Nat) (r : Reading) :
    writeSpans false (reading width r) = "    ".toList ++ r.label.toList ++
      List.replicate (width - r.label.length) ' ' ++ "  ".toList ++
        (fixedPlaces 1 r.value ++ "°C".toList) := by
  simp [writeSpans, reading, say, padded, temperature, String.length_toList]

theorem isRow_reading {width : Nat} (h : r.label.length ≤ width) :
    IsRow (6 + width) r (writeSpans false (reading width r)) := by
  refine ⟨width - r.label.length, writeSpans_reading width r, ?_⟩
  simp only [List.length_append, List.length_replicate, String.length_toList]
  have hindent : "    ".length = 4 := by decide
  have hgap : "  ".length = 2 := by decide
  omega

theorem newline_not_mem_reading {width : Nat} (h : '\n' ∉ r.label.toList) :
    '\n' ∉ writeSpans false (reading width r) := by
  have hblanks : '\n' ∉ List.replicate (width - r.label.toList.length) ' ' := by
    simp [List.mem_replicate]
  have hdegrees := newline_not_mem_temperature r.value
  simp [writeSpans, reading, say, padded, h, hblanks, hdegrees]

/-- The section has its header and then one row for each reading, in their order, when no label has
a line feed and none is longer than a column can be.  Each row has four blanks, the whole label,
blanks for padding, two more blanks and the temperature.  In all rows the same number of characters
stands in front of the temperature: six, and as many as the longest label has. -/
theorem sensors_aligned (hne : rs ≠ []) (hline : ∀ r ∈ rs, '\n' ∉ r.label.toList)
    (hshort : ∀ r ∈ rs, r.label.length ≤ 65535) :
    ∃ (shown : List Line) (rows : List (List Char)) (longest : Nat),
      sensors rs = .ok shown ∧
      pieces isNewline (writeLines false shown) =
        [[], "Sensors".toList, List.replicate 60 '-'] ++ rows ++ [[]] ∧
      (∃ r ∈ rs, r.label.length = longest) ∧
      (∀ r ∈ rs, r.label.length ≤ longest) ∧
      List.Forall₂ (IsRow (6 + longest)) rs rows := by
  have hwidth : ¬widestColumn < labelWidth rs := Nat.not_lt.2 (labelWidth_le_iff.2 hshort)
  have hshown : sensors rs = .ok (header "Sensors" ++ rs.map (reading (labelWidth rs))) := by
    rw [sensors, if_neg (by simpa using hne), if_neg hwidth]
  refine ⟨_, (rs.map (reading (labelWidth rs))).map (writeSpans false), labelWidth rs, hshown, ?_,
    exists_labelWidth hne, fun _ => length_le_labelWidth, ?_⟩
  · apply pieces_section (by decide)
    rw [List.forall_mem_map]
    exact fun r hr => newline_not_mem_reading (hline r hr)
  · rw [List.map_map, List.forall₂_map_right_iff, List.forall₂_same]
    exact fun r hr => isRow_reading (length_le_labelWidth hr)

end

/-- Two readings, of which the second has the longer label although the first takes more bytes. -/
def accented : List Reading :=
  [⟨"ÄÖÜß", .nan, celsius⟩, ⟨"CPU die", .ofInt 42, celsius⟩]

/-- Their temperatures start at the same place. -/
theorem sensors_aligned_accented :
    accented ≠ [] ∧ (∀ r ∈ accented, '\n' ∉ r.label.toList) ∧
      (∀ r ∈ accented, r.label.length ≤ 65535) ∧
      ∃ (shown : List Line) (rows : List (List Char)), sensors accented = .ok shown ∧
        pieces isNewline (writeLines false shown) =
          [[], "Sensors".toList, List.replicate 60 '-'] ++ rows ++ [[]] ∧
        List.Forall₂ (IsRow 13) accented rows := by
  have hne : accented ≠ [] := by decide
  have hline : ∀ r ∈ accented, '\n' ∉ r.label.toList := by decide
  have hshort : ∀ r ∈ accented, r.label.length ≤ 65535 := by decide
  obtain ⟨shown, rows, longest, hshown, hrows, ⟨r, hr, hlongest⟩, hle, haligned⟩ :=
    sensors_aligned hne hline hshort
  have hseven : longest = 7 := by
    have hlower := hle ⟨"CPU die", .ofInt 42, celsius⟩ (by simp [accented])
    have hupper : ∀ r ∈ accented, r.label.length ≤ 7 := by decide
    have hmost := hupper r hr
    have hlength : "CPU die".length = 7 := by decide
    simp only [hlength] at hlower
    omega
  subst hseven
  exact ⟨hne, hline, hshort, shown, rows, hshown, hrows, haligned⟩

/-- The digits of 45.25 degrees, where the half goes to the even digit, and of 99.95 and -0.04
degrees. -/
example :
    fixedPlaces 1 (.ofBits 0x4046A00000000000) = "45.2".toList ∧
      fixedPlaces 1 (.ofBits 0x4058FCCCCCCCCCCD) = "100.0".toList ∧
      fixedPlaces 1 (.ofBits 0xBFA47AE147AE147B) = "-0.0".toList := by
  decide +kernel

end HostVitals.Display
