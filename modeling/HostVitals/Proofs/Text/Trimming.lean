import HostVitals.Proofs.Text.Words

/-!
# Trimmed texts

A text is trimmed when it neither starts nor ends with a blank.  Trimming a text makes it so, and
leaves a trimmed text as it is.

Main results:

- `trimmed_trim`: what was trimmed is trimmed.
- `Trimmed.trim_eq`: a trimmed text is left as it is.
- `StartsPlain.cutEnd`, `EndsPlain.cutStart`: a text that starts plainly does so when it is cut
  off at its end, and the other way round.
- `trim_append_blanks`, `trim_blanks_append`: blanks around a text make no difference.
- `trimStart_trimEnd`: the two ends may be trimmed in either order.
-/

namespace HostVitals.Text

/-- The text does not start with a blank. -/
def StartsPlain (cs : List Char) : Prop :=
  ∀ c ∈ cs.head?, isBlank c = false

/-- The text does not end with a blank. -/
def EndsPlain (cs : List Char) : Prop :=
  ∀ c ∈ cs.getLast?, isBlank c = false

/-- The text neither starts nor ends with a blank. -/
structure Trimmed (cs : List Char) : Prop where
  starts : StartsPlain cs
  ends : EndsPlain cs

section

variable {cs ds : List Char}

theorem StartsPlain.cutEnd (h : StartsPlain cs) (hcut : ds <+: cs) : StartsPlain ds := by
  obtain ⟨rest, rfl⟩ := hcut
  cases ds with
  | nil => simp [StartsPlain]
  | cons d ds => exact h

theorem EndsPlain.cutStart (h : EndsPlain cs) (hcut : ds <:+ cs) : EndsPlain ds := by
  obtain ⟨before, rfl⟩ := hcut
  intro c hc
  apply h c
  rw [List.getLast?_append, hc]
  rfl

/-! ## The start -/

theorem startsPlain_trimStart (cs : List Char) : StartsPlain (trimStart cs) := by
  intro c hc
  have hhead := List.head?_dropWhile_not isBlank cs
  rw [trimStart] at hc
  rw [hc] at hhead
  exact hhead

theorem StartsPlain.trimStart_eq (h : StartsPlain cs) : trimStart cs = cs := by
  cases cs with
  | nil => rfl
  | cons c cs => simp [trimStart, h c rfl]

theorem trimStart_suffix_self (cs : List Char) : trimStart cs <:+ cs :=
  List.dropWhile_suffix isBlank

/-! ## The end -/

theorem trimEnd_prefix_self (cs : List Char) : trimEnd cs <+: cs := by
  induction cs with
  | nil => exact List.prefix_refl _
  | cons c cs ih =>
      simp only [trimEnd]
      split
      · split
        · exact List.nil_prefix
        · simp
      · next d ds htail =>
          rw [htail] at ih
          exact (List.prefix_cons_inj c).2 ih

theorem endsPlain_trimEnd (cs : List Char) : EndsPlain (trimEnd cs) := by
  induction cs with
  | nil => simp [trimEnd, EndsPlain]
  | cons c cs ih =>
      simp only [trimEnd]
      split
      · by_cases hc : isBlank c <;> simp [hc, EndsPlain]
      · next d ds htail =>
          rw [htail] at ih
          exact ih

theorem EndsPlain.trimEnd_eq (h : EndsPlain cs) : trimEnd cs = cs := by
  induction cs with
  | nil => rfl
  | cons c cs ih =>
      have htail := ih (h.cutStart (List.suffix_cons c cs))
      simp only [trimEnd, htail]
      cases cs with
      | nil => simp [h c rfl]
      | cons d ds => rfl

theorem trimEnd_cons_plain {c : Char} (hc : isBlank c = false) (cs : List Char) :
    trimEnd (c :: cs) = c :: trimEnd cs := by
  simp only [trimEnd]
  split
  · next hnone => simp [hc, hnone]
  · next hsome => rw [hsome]

theorem trimEnd_eq_nil (h : ∀ c ∈ cs, isBlank c = true) : trimEnd cs = [] := by
  induction cs with
  | nil => rfl
  | cons c cs ih =>
      have htail := ih (fun d hd => h d (List.mem_cons_of_mem c hd))
      simp [trimEnd, htail, h c List.mem_cons_self]

/-- Blanks at the end make no difference. -/
theorem trimEnd_append_blanks (h : ∀ c ∈ ds, isBlank c = true) :
    trimEnd (cs ++ ds) = trimEnd cs := by
  induction cs with
  | nil => exact trimEnd_eq_nil h
  | cons c cs ih => simp only [List.cons_append, trimEnd, ih]

/-! ## Both ends -/

theorem trimmed_trim (cs : List Char) : Trimmed (trim cs) where
  starts := (startsPlain_trimStart cs).cutEnd (trimEnd_prefix_self _)
  ends := endsPlain_trimEnd _

theorem Trimmed.trim_eq (h : Trimmed cs) : trim cs = cs := by
  rw [trim, h.starts.trimStart_eq, h.ends.trimEnd_eq]

/-- A text without a blank is trimmed. -/
theorem BlankFree.trimmed (h : BlankFree cs) : Trimmed cs where
  starts := fun c hc => h c (List.mem_of_mem_head? hc)
  ends := fun c hc => h c (List.mem_of_getLast? hc)

/-- A blank in front makes no difference. -/
theorem trim_cons_blank {c : Char} (hc : isBlank c = true) (cs : List Char) :
    trim (c :: cs) = trim cs := by
  simp [trim, trimStart, hc]

/-- Nor do several blanks in front. -/
theorem trim_blanks_append (h : ∀ c ∈ cs, isBlank c = true) : trim (cs ++ ds) = trim ds := by
  rw [trim, trimStart, List.dropWhile_append_of_pos h]
  rfl

/-- Nor do blanks behind the text. -/
theorem trim_append_blanks (h : ∀ c ∈ ds, isBlank c = true) : trim (cs ++ ds) = trim cs := by
  simp only [trim, trimStart, List.dropWhile_append]
  split
  · next hblank =>
      have hdropped : (ds ++ []).dropWhile isBlank = [] := List.dropWhile_append_of_pos h
      rw [List.append_nil] at hdropped
      rw [List.isEmpty_iff.1 hblank, hdropped]
  · exact trimEnd_append_blanks h

/-- The two ends may be trimmed in either order. -/
theorem trimStart_trimEnd (cs : List Char) : trimStart (trimEnd cs) = trim cs := by
  induction cs with
  | nil => rfl
  | cons c cs ih =>
      by_cases hc : isBlank c = true
      · rw [trim_cons_blank hc, ← ih]
        simp only [trimEnd]
        split
        · next hrest => simp [hrest, hc]
        · next hrest => simp [hrest, trimStart, hc]
      · have hplain : isBlank c = false := by simpa using hc
        rw [trim, trimEnd_cons_plain hplain]
        simp [trimStart, hplain, trimEnd_cons_plain hplain]

theorem trim_sublist (cs : List Char) : (trim cs).Sublist cs :=
  (trimEnd_prefix_self _).sublist.trans (trimStart_suffix_self cs).sublist

end

end HostVitals.Text
