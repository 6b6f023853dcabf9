import HostVitals.Proofs.Settings.Decoding

/-!
# Loading the settings

The settings in a file are those that its bytes stand for, or the standard settings, and never some
of either.  What is wrong with a file does not matter, nor where in the file it is; it is warned of
unless the file is blank.

Main results:

- `not_standsFor_of_blank`, `not_standsFor_of_illFit`: files that stand for no settings.
- `ofContent_of_standsFor`, `ofContent_of_not_standsFor`, `warnings_ofContent`: the settings in a
  file, and when there is a warning.
- `load_decoded_or_standard`: what is loaded from a path.
-/

namespace HostVitals.Config

open HostVitals.Files HostVitals.Json HostVitals.Text

/-! ## Blank files -/

/-- A blank is a character by itself, and not the first one of a value. -/
theorem opensValue_of_blank {b : UInt8} (h : isBlankByte b = true) :
    b.toNat < 0x80 ∧ opensValue (Char.ofNat b.toNat) = false := by
  simp only [isBlankByte, Bool.or_eq_true, beq_iff_eq] at h
  rcases h with (((rfl | rfl) | rfl) | rfl) | rfl <;> decide

/-- No value starts in a blank file. -/
theorem opensValue_of_mem_symbols {bytes : List UInt8} (h : ∀ b ∈ bytes, isBlankByte b = true)
    {c : Char} (hc : some c ∈ Utf8.symbols bytes) : opensValue c = false := by
  induction bytes with
  | nil => cases hc
  | cons b bytes ih =>
      obtain ⟨hlow, hopens⟩ := opensValue_of_blank (h b List.mem_cons_self)
      rw [Utf8.symbols_cons_of_lt hlow, List.mem_cons] at hc
      rcases hc with hc | hc
      · rw [Option.some.inj hc]
        exact hopens
      · exact ih (fun b hb => h b (List.mem_cons_of_mem _ hb)) hc

/-- A blank file stands for no settings. -/
theorem not_standsFor_of_blank {bytes : List UInt8} (h : ∀ b ∈ bytes, isBlankByte b = true)
    (config : Config) : ¬StandsFor bytes config := by
  rintro ⟨v, _, _, _, _, _, hspells, -⟩
  obtain ⟨c, hc, hopens⟩ := hspells.opens
  rw [opensValue_of_mem_symbols h hc] at hopens
  cases hopens

/-! ## The content of a file -/

/-- Bytes are decoded unless they stand for no settings. -/
theorem decode_eq_none_iff {bytes : List UInt8} :
    decode bytes = none ↔ ∀ config, ¬StandsFor bytes config := by
  rw [Option.eq_none_iff_forall_ne_some]
  exact forall_congr' fun config => not_congr decode_eq_some_iff

/-- Settings that the bytes stand for are given without a warning. -/
theorem ofContent_of_standsFor {bytes : List UInt8} {config : Config}
    (h : StandsFor bytes config) : ofContent bytes = ⟨config, 0⟩ := by
  have hfilled : ¬bytes.all isBlankByte = true :=
    fun hblank => not_standsFor_of_blank (List.all_eq_true.1 hblank) config h
  rw [ofContent, if_neg hfilled, decode_eq_some_iff.2 h]

/-- Otherwise the standard settings are given, with one warning if the file is not blank. -/
theorem ofContent_of_not_standsFor {bytes : List UInt8}
    (h : ∀ config, ¬StandsFor bytes config) :
    ofContent bytes = ⟨standard, if bytes.all isBlankByte then 0 else 1⟩ := by
  rw [ofContent]
  split
  · rfl
  · rw [decode_eq_none_iff.2 h]

/-- There is one warning at most, and there is one exactly when a file that is not blank stands for
no settings. -/
theorem warnings_ofContent (bytes : List UInt8) :
    ((ofContent bytes).warnings = 0 ∨ (ofContent bytes).warnings = 1) ∧
      ((ofContent bytes).warnings = 1 ↔
        (∃ b ∈ bytes, isBlankByte b = false) ∧ ∀ config, ¬StandsFor bytes config) := by
  have hfilled : (∃ b ∈ bytes, isBlankByte b = false) ↔ ¬bytes.all isBlankByte = true := by
    simp
  by_cases hstands : ∃ config, StandsFor bytes config
  · obtain ⟨config, hconfig⟩ := hstands
    rw [ofContent_of_standsFor hconfig]
    exact ⟨.inl rfl, iff_of_false (by simp) (fun h => h.2 config hconfig)⟩
  · have hnone : ∀ config, ¬StandsFor bytes config := fun config h => hstands ⟨config, h⟩
    rw [ofContent_of_not_standsFor hnone, hfilled]
    by_cases hblank : bytes.all isBlankByte = true
    · rw [if_pos hblank]
      exact ⟨.inl rfl, iff_of_false (by simp) (fun h => h.1 hblank)⟩
    · rw [if_neg hblank]
      exact ⟨.inr rfl, iff_of_true rfl ⟨hblank, hnone⟩⟩

/-- An object in which one value does not fit its field stands for no settings, whatever else there
is in it. -/
theorem not_standsFor_of_illFit {bytes : List UInt8} {members : List (Option String × Value)}
    (hspells : SpellsSpaced (.object members) (Utf8.symbols bytes)) {name : String} {value : Value}
    (hmem : (some name, value) ∈ members) (h : IllFit name value) (config : Config) :
    ¬StandsFor bytes config := by
  refine decode_eq_none_iff.1 ?_ config
  rw [decode_of_spells hspells, ofJson_illFit h hmem]

/-! ## Loading -/

/-- Settings cannot be loaded exactly when something at the path cannot be read as a file. -/
theorem load_eq_error_iff {root : Node} {path workingDirectory : String} {error : LoadError} :
    load root path workingDirectory = .error error ↔ error.path = path ∧
      ∃ node, root.find path workingDirectory = .ok node ∧
        node.readBytes = .error error.cause := by
  obtain ⟨place, cause⟩ := error
  unfold load
  cases root.find path workingDirectory with
  | error cause => simp [ofFound]
  | ok node =>
      simp only [ofFound, Except.ok.injEq, exists_eq_left']
      cases node.readBytes with
      | error cause => simp [eq_comm]
      | ok bytes => simp

/-- Loading the settings from a path, which is followed from the root or from the working directory,
fails exactly when there is something that cannot be read as a file.  Where there is nothing the
standard settings are loaded, without a warning.  From a file those settings are loaded that its
bytes stand for, and the standard ones altogether when it stands for none, as when it is blank, or
when there is one bad field among good ones.  There is one warning at most, and there is one exactly
when a file that is not blank stands for no settings. -/
theorem load_decoded_or_standard (root : Node) (path workingDirectory : String) :
    (∀ error, load root path workingDirectory = .error error ↔ error.path = path ∧
      ∃ node, root.find path workingDirectory = .ok node ∧
        node.readBytes = .error error.cause) ∧
      (∀ cause, root.find path workingDirectory = .error cause →
        load root path workingDirectory = .ok ⟨standard, 0⟩) ∧
      (∀ node bytes, root.find path workingDirectory = .ok node → node.readBytes = .ok bytes →
        ∃ loaded, load root path workingDirectory = .ok loaded ∧
          (∀ config, StandsFor bytes config → loaded.config = config) ∧
          ((∀ config, ¬StandsFor bytes config) → loaded.config = standard) ∧
          ((∀ b ∈ bytes, isBlankByte b = true) → loaded.config = standard) ∧
          (∀ members name value, SpellsSpaced (.object members) (Utf8.symbols bytes) →
            (some name, value) ∈ members → IllFit name value → loaded.config = standard) ∧
          (loaded.warnings = 0 ∨ loaded.warnings = 1) ∧
          (loaded.warnings = 1 ↔
            (∃ b ∈ bytes, isBlankByte b = false) ∧ ∀ config, ¬StandsFor bytes config)) := by
  refine ⟨fun error => load_eq_error_iff, fun cause hfind => load_missing hfind, ?_⟩
  intro node bytes hfind hread
  have hload : load root path workingDirectory = .ok (ofContent bytes) := by
    rw [load, hfind, ofFound, hread]
  have hstandard : (∀ config, ¬StandsFor bytes config) → (ofContent bytes).config = standard := by
    intro hnone
    rw [ofContent_of_not_standsFor hnone]
  refine ⟨ofContent bytes, hload, ?_, hstandard, ?_, ?_, warnings_ofContent bytes⟩
  · intro config hconfig
    rw [ofContent_of_standsFor hconfig]
  · intro hblank
    exact hstandard (not_standsFor_of_blank hblank)
  · intro members name value hspells hmem hill
    exact hstandard (not_standsFor_of_illFit hspells hmem hill)

/-- A home directory with a settings file that can be read and one that cannot. -/
def settingsHome : Node :=
  .directory [("home", .directory
    [("config.json", .file (Utf8.encode "\x7b\"command_timeout_ms\": 7\x7d".toList) false),
      ("private.json", .unreadable .permissionDenied)])]

/-- The settings file is found from its directory and from the root, but not from another
directory. -/
example :
    (load settingsHome "./config.json" "/home").toOption =
        some ⟨{ standard with commandMillis := 7 }, 0⟩ ∧
      (load settingsHome "/home/config.json").toOption =
        some ⟨{ standard with commandMillis := 7 }, 0⟩ ∧
      (load settingsHome "./config.json").toOption = some .standard := by
  decide +kernel

/-- A file that is there but cannot be read is an error. -/
example :
    load settingsHome "private.json" "/home" =
      .error ⟨"private.json", .system .permissionDenied⟩ := by
  rfl

end HostVitals.Config
