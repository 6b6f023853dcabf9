import HostVitals.Proofs.Text.Trimming
import HostVitals.Sensor

/-!
# Tidied labels

The label of a sensor key has no underscores, no blanks around it and no mark in front.  A text of
that form is its own label, so that tidying a label once more changes nothing.  Marks, underscores
and blanks in front of a key make no difference for its label, in whatever order they stand, and
neither do underscores and blanks behind it.

Main results:

- `tidied_tidy`: the form of a label.
- `Tidied.tidy_eq`: a text of that form is left as it is.
- `labelOfKey_labelOfKey`: tidying twice is tidying once.
- `exists_passes`: dropping the marks one by one comes to an end.
- `tidy_prefaced`, `tidy_append_gaps`: what may stand around a key.
- `labelOfKey_normal_form`: labels are a normal form of keys.
- `labelled_readings`: every reading has a label, and its value is in degrees Celsius.
-/

namespace HostVitals

open HostVitals.Number HostVitals.Text

/-- The label for the characters of a sensor key. -/
def tidy (cs : List Char) : List Char :=
  dropMarks (trim (replaceChar '_' ' ' cs))

theorem labelOfKey_eq (key : String) : labelOfKey key = String.ofList (tidy key.toList) := rfl

/-- The form of a label. -/
structure Tidied (cs : List Char) : Prop where
  trimmed : Trimmed cs
  plain : '_' ∉ cs
  unmarked : ∀ rest, cs ≠ 'T' :: 'C' :: rest

/-! ## Marks -/

theorem dropMarks_suffix_self (cs : List Char) : dropMarks cs <:+ cs := by
  fun_induction dropMarks cs with
  | case1 rest ih =>
      exact ((ih.trans (trimStart_suffix_self rest)).trans (List.suffix_cons 'C' rest)).trans
        (List.suffix_cons 'T' ('C' :: rest))
  | case2 cs _ => exact List.suffix_refl cs

theorem startsPlain_dropMarks {cs : List Char} (h : StartsPlain cs) :
    StartsPlain (dropMarks cs) := by
  fun_induction dropMarks cs with
  | case1 rest ih => exact ih (startsPlain_trimStart rest)
  | case2 cs _ => exact h

theorem trimmed_dropMarks {cs : List Char} (h : Trimmed cs) : Trimmed (dropMarks cs) where
  starts := startsPlain_dropMarks h.starts
  ends := h.ends.cutStart (dropMarks_suffix_self cs)

theorem dropMarks_eq_self {cs : List Char} (h : ∀ rest, cs ≠ 'T' :: 'C' :: rest) :
    dropMarks cs = cs := by
  fun_cases dropMarks cs with
  | case1 rest => exact absurd rfl (h rest)
  | case2 => rfl

/-! ## Tidying -/

theorem not_mem_replaceChar {old new : Char} (h : new ≠ old) (cs : List Char) :
    old ∉ replaceChar old new cs := by
  simp only [replaceChar, List.mem_map, not_exists, not_and]
  intro c _
  split
  · exact h
  · assumption

theorem replaceChar_eq_self {old new : Char} {cs : List Char} (h : old ∉ cs) :
    replaceChar old new cs = cs := by
  have hsame : ∀ c ∈ cs, (if c = old then new else c) = id c := by
    intro c hc
    rw [if_neg]
    · rfl
    · rintro rfl
      exact h hc
  rw [replaceChar, List.map_congr_left hsame, List.map_id]

/-- A label has the form of labels. -/
theorem tidied_tidy (cs : List Char) : Tidied (tidy cs) where
  trimmed := trimmed_dropMarks (trimmed_trim _)
  plain := by
    have hplain : '_' ∉ replaceChar '_' ' ' cs := not_mem_replaceChar (by decide) cs
    intro hmem
    exact hplain ((trim_sublist _).mem ((dropMarks_suffix_self _).mem hmem))
  unmarked := fun rest => dropMarks_not_marked _ rest

/-- A text that has the form of labels is its own label. -/
theorem Tidied.tidy_eq {cs : List Char} (h : Tidied cs) : tidy cs = cs := by
  rw [tidy, replaceChar_eq_self h.plain, h.trimmed.trim_eq, dropMarks_eq_self h.unmarked]

/-- Tidying a label once more changes nothing. -/
theorem labelOfKey_labelOfKey (key : String) : labelOfKey (labelOfKey key) = labelOfKey key := by
  rw [labelOfKey_eq, labelOfKey_eq, String.toList_ofList, (tidied_tidy key.toList).tidy_eq]

/-! ## Marks, one by one -/

/-- Dropping a mark and the blanks after it, as often as there is a mark in front, leads from one
text to another. -/
inductive Passes : Nat → List Char → List Char → Prop
  | stop {cs : List Char} (h : ∀ rest, cs ≠ 'T' :: 'C' :: rest) : Passes 0 cs cs
  | pass {n : Nat} {rest cs : List Char} (h : Passes n (trimStart rest) cs) :
      Passes (n + 1) ('T' :: 'C' :: rest) cs

/-- Each pass takes two characters at least, so that they come to an end. -/
theorem exists_passes (cs : List Char) :
    ∃ n, 2 * n ≤ cs.length ∧ Passes n cs (dropMarks cs) := by
  fun_induction dropMarks cs with
  | case1 rest ih =>
      obtain ⟨n, hlength, hpasses⟩ := ih
      have hshort : (trimStart rest).length ≤ rest.length := (trimStart_suffix_self rest).length_le
      refine ⟨n + 1, ?_, .pass hpasses⟩
      simp only [List.length_cons]
      omega
  | case2 cs hplain => exact ⟨0, Nat.zero_le _, .stop hplain⟩

/-! ## Around a key -/

/-- A character that is a blank, or becomes one. -/
def IsGap (c : Char) : Prop :=
  c = '_' ∨ isBlank c = true

/-- Marks, underscores and blanks, in any order. -/
inductive Preface : List Char → Prop
  | none : Preface []
  | mark {rest : List Char} (h : Preface rest) : Preface ('T' :: 'C' :: rest)
  | gap {c : Char} {rest : List Char} (hc : IsGap c) (h : Preface rest) : Preface (c :: rest)

theorem IsGap.isBlank {c : Char} (h : IsGap c) : isBlank (if c = '_' then ' ' else c) = true := by
  rcases h with rfl | hblank
  · decide
  · split
    · decide
    · exact hblank

theorem replaceChar_append (old new : Char) (as bs : List Char) :
    replaceChar old new (as ++ bs) = replaceChar old new as ++ replaceChar old new bs :=
  List.map_append

/-- Underscores and blanks behind a key make no difference. -/
theorem tidy_append_gaps {after : List Char} (h : ∀ c ∈ after, IsGap c) (cs : List Char) :
    tidy (cs ++ after) = tidy cs := by
  have hblank : ∀ c ∈ replaceChar '_' ' ' after, isBlank c = true := by
    rw [replaceChar, List.forall_mem_map]
    exact fun c hc => (h c hc).isBlank
  rw [tidy, replaceChar_append, trim_append_blanks hblank, tidy]

/-- Nor does an underscore or a blank in front of it. -/
theorem tidy_cons_gap {c : Char} (h : IsGap c) (cs : List Char) : tidy (c :: cs) = tidy cs := by
  rw [tidy, replaceChar, List.map_cons, trim_cons_blank h.isBlank]
  rfl

/-- Nor does a mark, which is dropped with the blanks after it. -/
theorem tidy_cons_mark (cs : List Char) : tidy ('T' :: 'C' :: cs) = tidy cs := by
  have hkept : replaceChar '_' ' ' ('T' :: 'C' :: cs) = 'T' :: 'C' :: replaceChar '_' ' ' cs := rfl
  have hfirst : isBlank 'T' = false := by decide
  have hsecond : isBlank 'C' = false := by decide
  have hstarts : StartsPlain ('T' :: 'C' :: replaceChar '_' ' ' cs) := by
    rintro c ⟨⟩
    exact hfirst
  -- The blanks behind the mark are dropped only after those at the end.
  rw [tidy, hkept, trim, hstarts.trimStart_eq, trimEnd_cons_plain hfirst,
    trimEnd_cons_plain hsecond, dropMarks, trimStart_trimEnd, tidy]

/-- Nor do marks, underscores and blanks in any order. -/
theorem tidy_prefaced {before : List Char} (h : Preface before) (cs : List Char) :
    tidy (before ++ cs) = tidy cs := by
  induction h with
  | none => rfl
  | mark _ ih => rw [List.cons_append, List.cons_append, tidy_cons_mark, ih]
  | gap hc _ ih => rw [List.cons_append, tidy_cons_gap hc, ih]

/-- Labels are a normal form of keys.  A label comes about by dropping marks one by one, which comes
to an end; it has no underscore, no blank around it and no mark in front.  A key of that form is its
own label, and so is a label.  Marks, underscores and blanks in front of a key, in any order, and
underscores and blanks behind it make no difference. -/
theorem labelOfKey_normal_form (key : String) :
    (∃ passes, 2 * passes ≤ key.length ∧
      Passes passes (trim (replaceChar '_' ' ' key.toList)) (labelOfKey key).toList) ∧
    Tidied (labelOfKey key).toList ∧
    labelOfKey (labelOfKey key) = labelOfKey key ∧
    (Tidied key.toList → labelOfKey key = key) ∧
    ∀ before after : String, Preface before.toList → (∀ c ∈ after.toList, IsGap c) →
      labelOfKey (before ++ key ++ after) = labelOfKey key := by
  refine ⟨?_, ?_, labelOfKey_labelOfKey key, ?_, ?_⟩
  · obtain ⟨passes, hlength, hpasses⟩ := exists_passes (trim (replaceChar '_' ' ' key.toList))
    have hshort := (trim_sublist (replaceChar '_' ' ' key.toList)).length_le
    rw [replaceChar, List.length_map, String.length_toList] at hshort
    rw [labelOfKey_eq, String.toList_ofList]
    exact ⟨passes, Nat.le_trans hlength hshort, hpasses⟩
  · rw [labelOfKey_eq, String.toList_ofList]
    exact tidied_tidy key.toList
  · intro htidied
    rw [labelOfKey_eq, htidied.tidy_eq, String.ofList_toList]
  · intro before after hbefore hafter
    rw [labelOfKey_eq, String.toList_append, String.toList_append, tidy_append_gaps hafter,
      tidy_prefaced hbefore, labelOfKey_eq]

/-- A key with all of these around it, and its label. -/
theorem labelOfKey_normal_form_mixed :
    labelOfKey ("_TC\u2003TC_" ++ "TC_nvme_Composite" ++ " _\t") = "nvme Composite" ∧
      Tidied "nvme Composite".toList ∧ labelOfKey "nvme Composite" = "nvme Composite" := by
  have hlabel : labelOfKey "TC_nvme_Composite" = "nvme Composite" := by decide +kernel
  have hspace : IsGap '\u2003' := .inr (by decide)
  have hbefore : Preface "_TC\u2003TC_".toList :=
    .gap (.inl rfl) (.mark (.gap hspace (.mark (.gap (.inl rfl) .none))))
  have hafter : ∀ c ∈ " _\t".toList, IsGap c := by simp [IsGap, isBlank]
  obtain ⟨-, htidied, -, -, haround⟩ := labelOfKey_normal_form "TC_nvme_Composite"
  rw [hlabel] at htidied haround
  obtain ⟨-, -, -, hsame, -⟩ := labelOfKey_normal_form "nvme Composite"
  exact ⟨haround _ _ hbefore hafter, htidied, hsame htidied⟩

/-- Every reading has a label, and its value is in degrees Celsius. -/
theorem labelled_readings {temperatures : List RawTemperature} {r : Reading}
    (h : r ∈ readings temperatures) : labelOfKey r.label = r.label ∧ r.unit = celsius := by
  simp only [readings, List.mem_map] at h
  obtain ⟨t, _, rfl⟩ := h
  exact ⟨labelOfKey_labelOfKey t.key, rfl⟩

end HostVitals
