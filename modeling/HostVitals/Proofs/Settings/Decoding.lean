import HostVitals.Config
import HostVitals.Proofs.Json.Fields
import HostVitals.Proofs.Json.Grammar
import HostVitals.Proofs.Json.Snapshots
import HostVitals.Proofs.Text.Utf8

/-!
# Settings in documents

The settings are read from any spelling of a record that gives them.  What the record leaves out has
its standard value, and what it adds does not matter; but a setting that is given twice, or whose
value does not fit, spoils the whole record.

Main results:

- `toUInt64_eq_none_iff`: the values that do not fit a number of 64 bits.
- `decode_eq_some_iff`: the bytes that stand for settings, and for which.
- `decode_kept`: settings that are written in part, and those that are not read at all.
-/

namespace HostVitals.Json

open HostVitals.Number

/-! ## Numbers of 64 bits -/

/-- A value that is no whole number from zero up to the greatest of 64 bits, written in digits
alone. -/
inductive Value.Unfit : Value → Prop
  | null : Value.Unfit .null
  | bool (b : Bool) : Value.Unfit (.bool b)
  | text (t : Option String) : Value.Unfit (.text t)
  | array (items : List Value) : Value.Unfit (.array items)
  | object (members : List (Option String × Value)) : Value.Unfit (.object members)
  | negative {n : Numeral} (h : n.negative = true) : Value.Unfit (.number n)
  | fraction {n : Numeral} (h : n.fraction ≠ []) : Value.Unfit (.number n)
  | exponent {n : Numeral} (h : n.exponent ≠ none) : Value.Unfit (.number n)
  | great {n : Numeral} (h : 0xffffffffffffffff < digitsValue n.whole) : Value.Unfit (.number n)

/-- Exactly the unfit values are not read as numbers of 64 bits. -/
theorem toUInt64_eq_none_iff {v : Value} : v.toUInt64? = none ↔ v.Unfit := by
  cases v with
  | null => exact iff_of_true rfl .null
  | bool b => exact iff_of_true rfl (.bool b)
  | text t => exact iff_of_true rfl (.text t)
  | array items => exact iff_of_true rfl (.array items)
  | object members => exact iff_of_true rfl (.object members)
  | number n =>
      have hread : (Value.number n).toUInt64? = none ↔
          ∀ m, n.toNat? = some m → ¬m ≤ 0xffffffffffffffff := by
        simp [Value.toUInt64?, Value.toNat?, Option.filter_eq_none_iff]
      rw [hread]
      unfold Numeral.toNat?
      constructor
      · intro h
        split at h
        · next hmarked =>
          simp only [Bool.or_eq_true, Bool.not_eq_true', List.isEmpty_eq_false_iff,
            Option.isSome_iff_ne_none] at hmarked
          rcases hmarked with (hnegative | hfraction) | hexponent
          · exact .negative hnegative
          · exact .fraction hfraction
          · exact .exponent hexponent
        · exact .great (Nat.not_le.1 (h _ rfl))
      · intro h m hm
        split at hm
        · cases hm
        · next hplain =>
          cases hm
          simp only [Bool.or_eq_true, Bool.not_eq_true', List.isEmpty_eq_false_iff,
            Option.isSome_iff_ne_none, not_or, Bool.not_eq_true] at hplain
          cases h with
          | negative h => exact absurd h (by simp [hplain.1.1])
          | fraction h => exact absurd h hplain.1.2
          | exponent h => exact absurd h hplain.2
          | great h => exact Nat.not_le.2 h

end HostVitals.Json

namespace HostVitals.Config

open HostVitals.Json HostVitals.Text

/-! ## Settings that are given -/

/-- The settings that are taken from what is given for the five fields. -/
structure TakenFrom (profileSeconds fastMillis slowMillis commandMillis supplyRoot : Option Value)
    (config : Config) : Prop where
  profileSeconds :
    Takes Value.toUInt64? standard.profileSeconds profileSeconds config.profileSeconds
  fastMillis : Takes Value.toUInt64? standard.fastMillis fastMillis config.fastMillis
  slowMillis : Takes Value.toUInt64? standard.slowMillis slowMillis config.slowMillis
  commandMillis : Takes Value.toUInt64? standard.commandMillis commandMillis config.commandMillis
  supplyRoot : Takes Value.toText? standard.supplyRoot supplyRoot config.supplyRoot

/-- A value has the form of settings when it gives values for the fields from which they are
taken. -/
theorem ofJson_eq_some_iff {v : Value} {config : Config} :
    ofJson? v = some config ↔ ∃ profileSeconds fastMillis slowMillis commandMillis supplyRoot,
      Gives fields v [profileSeconds, fastMillis, slowMillis, commandMillis, supplyRoot] ∧
        config.TakenFrom profileSeconds fastMillis slowMillis commandMillis supplyRoot := by
  simp only [← slots_eq_some_iff]
  unfold ofJson?
  cases slots fields v with
  | none => simp
  | some held =>
      simp only [Option.bind_eq_bind, Option.bind_some, Option.map_some, Option.some.injEq]
      split
      · next a b c d e =>
        simp only [Option.bind_eq_some_iff, defaulted_eq_some_iff, Option.pure_def,
          Option.some.injEq, List.map_cons, List.map_nil]
        constructor
        · rintro ⟨_, ha, _, hb, _, hc, _, hd, _, he, rfl⟩
          exact ⟨_, _, _, _, _, rfl, ha, hb, hc, hd, he⟩
        · rintro ⟨_, _, _, _, _, heq, htaken⟩
          cases heq
          exact ⟨_, htaken.profileSeconds, _, htaken.fastMillis, _, htaken.slowMillis, _,
            htaken.commandMillis, _, htaken.supplyRoot, rfl⟩
      · next hother =>
        refine iff_of_false (by simp) ?_
        rintro ⟨_, _, _, _, _, heq, -⟩
        simp only [List.map_eq_cons_iff, List.map_eq_nil_iff] at heq
        obtain ⟨a, _, rfl, -, b, _, rfl, -, c, _, rfl, -, d, _, rfl, -, e, _, rfl, -, rfl⟩ := heq
        exact hother a b c d e rfl

/-- Bytes stand for settings when they spell a record from which these are taken. -/
def StandsFor (bytes : List UInt8) (config : Config) : Prop :=
  ∃ v profileSeconds fastMillis slowMillis commandMillis supplyRoot,
    SpellsSpaced v (Utf8.symbols bytes) ∧
      Gives fields v [profileSeconds, fastMillis, slowMillis, commandMillis, supplyRoot] ∧
      config.TakenFrom profileSeconds fastMillis slowMillis commandMillis supplyRoot

/-- The bytes that are decoded, and as which settings. -/
theorem decode_eq_some_iff {bytes : List UInt8} {config : Config} :
    decode bytes = some config ↔ StandsFor bytes config := by
  simp only [decode, ofBytes, Option.bind_eq_some_iff, document_eq_some_iff, ofJson_eq_some_iff,
    StandsFor, exists_and_left]

/-- Bytes that spell a value are decoded as what has its form. -/
theorem decode_of_spells {bytes : List UInt8} {v : Value}
    (h : SpellsSpaced v (Utf8.symbols bytes)) : decode bytes = ofJson? v := by
  rw [decode, ofBytes, document_eq_some_iff.2 h, Option.bind_some]

/-- The document that is written for a value is decoded as what has its form. -/
theorem decode_toText {v : Value} (h : v.WellFormed) :
    decode (Utf8.encode v.toText.toList) = ofJson? v := by
  have hread := ofText_toText h
  rw [ofText] at hread
  rw [decode, ofBytes, Utf8.symbols_encode, hread, Option.bind_some]

/-! ## Settings that are written in part -/

/-- The members that are written for settings. -/
def members (config : Config) : List (Option String × Value) :=
  [member "power_cache_ttl_secs" (.ofNat config.profileSeconds.toNat),
    member "fast_probe_timeout_ms" (.ofNat config.fastMillis.toNat),
    member "slow_probe_timeout_ms" (.ofNat config.slowMillis.toNat),
    member "command_timeout_ms" (.ofNat config.commandMillis.toNat),
    member "power_supply_root" (.ofText config.supplyRoot)]

theorem toJson_eq (config : Config) : config.toJson = .object config.members := rfl

theorem members_plain (config : Config) :
    ∀ member ∈ config.members, member.1.isSome = true ∧ member.2.Plain := by
  simp [members, member, plain_ofNat, plain_ofText]

/-- The settings whose fields are kept, with the standard values of all others. -/
def keeping (config : Config) (kept : String → Bool) : Config where
  profileSeconds :=
    if kept "power_cache_ttl_secs" then config.profileSeconds else standard.profileSeconds
  fastMillis := if kept "fast_probe_timeout_ms" then config.fastMillis else standard.fastMillis
  slowMillis := if kept "slow_probe_timeout_ms" then config.slowMillis else standard.slowMillis
  commandMillis :=
    if kept "command_timeout_ms" then config.commandMillis else standard.commandMillis
  supplyRoot := if kept "power_supply_root" then config.supplyRoot else standard.supplyRoot

theorem fields_nodup : fields.Nodup := by decide

/-- A field that is kept has its value, and one that is left out its standard value. -/
theorem takes_kept {α : Type} {read : Value → Option α} {standard a : α} {value : Value}
    (hread : read value = some a) (kept : Bool) :
    Takes read standard (if kept then some value else none) (if kept then a else standard) := by
  cases kept with
  | true => exact hread
  | false => exact rfl

section

variable (config : Config) (kept : String → Bool) {foreign written : List (Option String × Value)}
  (hforeign : ∀ member ∈ foreign, IsForeign (fields.map some) member)
  (hwritten : written.Perm
    (config.members.filter (fun member => member.1.any kept) ++ foreign))

include hforeign hwritten

/-- Some of the members, in any order and with foreign members among them, have the form of the
settings that are kept. -/
theorem ofJson_kept : ofJson? (.object written) = some (config.keeping kept) := by
  have hgives := Gives.of_perm (rfl : config.members.map Prod.fst = fields.map some) fields_nodup
    (fun name => name.any kept) hforeign hwritten
  have htext : Value.toText? (.ofText config.supplyRoot) = some config.supplyRoot := rfl
  refine ofJson_eq_some_iff.2 ⟨_, _, _, _, _, hgives, ?_⟩
  exact
    { profileSeconds := takes_kept (toUInt64_ofNat _) _
      fastMillis := takes_kept (toUInt64_ofNat _) _
      slowMillis := takes_kept (toUInt64_ofNat _) _
      commandMillis := takes_kept (toUInt64_ofNat _) _
      supplyRoot := takes_kept htext _ }

theorem wellFormed_kept : (Value.object written).WellFormed := by
  have hplain : ∀ member ∈ written, member.1.isSome = true ∧ member.2.Plain := by
    intro member hmember
    rcases List.mem_append.1 (hwritten.mem_iff.1 hmember) with hmember | hmember
    · exact members_plain config member (List.mem_filter.1 hmember).1
    · obtain ⟨name, value, rfl, -, hvalue⟩ := hforeign member hmember
      exact ⟨rfl, hvalue⟩
  exact .object (fun member hmember => (hplain member hmember).1)
    (fun member hmember => (hplain member hmember).2.wellFormed)

end

/-- All members that are written are kept when all fields are. -/
theorem keeping_all (config : Config) : config.keeping (fun _ => true) = config := rfl

/-- The settings that are written are decoded as they were. -/
theorem decode_toJson (config : Config) :
    decode (Utf8.encode config.toJson.toText.toList) = some config := by
  have hall : config.members.Perm
      (config.members.filter (fun member => member.1.any (fun _ => true)) ++ []) := by
    rw [List.append_nil, List.filter_eq_self.2]
    intro member hmember
    obtain ⟨name, hname⟩ := Option.isSome_iff_exists.1 (members_plain config member hmember).1
    rw [hname]
    rfl
  have hnone : ∀ member ∈ ([] : List (Option String × Value)),
      IsForeign (fields.map some) member := by simp
  rw [toJson_eq, decode_toText (wellFormed_kept config _ hnone hall),
    ofJson_kept config _ hnone hall, keeping_all]

/-! ## Settings that are not read -/

/-- The fields with a number. -/
def numericFields : List String :=
  ["power_cache_ttl_secs", "fast_probe_timeout_ms", "slow_probe_timeout_ms", "command_timeout_ms"]

/-- An object with a field twice has no form of settings. -/
theorem ofJson_repeated {name : String} (hname : name ∈ fields) (first second : Value)
    (before between after : List (Option String × Value)) :
    ofJson? (.object (before ++ (some name, first) :: between ++ (some name, second) :: after)) =
      none := by
  refine Option.eq_none_iff_forall_ne_some.2 fun config h => ?_
  obtain ⟨a, b, c, d, e, hgives, -⟩ := ofJson_eq_some_iff.1 h
  exact Gives.not_repeated hname first second _ hgives

/-- A value from which the setting of a field is not read. -/
inductive IllFit : String → Value → Prop
  | number {name : String} {value : Value} (hname : name ∈ numericFields) (h : value.Unfit) :
      IllFit name value
  | path {value : Value} (h : ∀ text, value ≠ .ofText text) : IllFit "power_supply_root" value

/-- What is not read cannot be taken. -/
theorem not_takes {α : Type} {read : Value → Option α} {value : Value} {given : Option Value}
    (hamong : value ∈ given.toList) (hread : read value = none) (ordinary a : α) :
    ¬Takes read ordinary given a := by
  rw [Option.mem_toList] at hamong
  subst hamong
  rw [Takes, hread]
  intro htakes
  cases htakes

theorem toText_eq_none_iff {v : Value} : v.toText? = none ↔ ∀ text, v ≠ .ofText text := by
  unfold Value.toText?
  split
  · next t => cases t <;> simp [Value.ofText]
  · next hother => exact iff_of_true rfl (fun text heq => hother _ heq)

/-- An object with a value that does not fit its field has no form of settings. -/
theorem ofJson_illFit {name : String} {value : Value} (h : IllFit name value)
    {members : List (Option String × Value)} (hmem : (some name, value) ∈ members) :
    ofJson? (.object members) = none := by
  refine Option.eq_none_iff_forall_ne_some.2 fun config hconfig => ?_
  obtain ⟨a, b, c, d, e, hgives, htaken⟩ := ofJson_eq_some_iff.1 hconfig
  have hamong := mem_valuesOf hmem
  cases hgives with
  | object hnamed hvalues =>
      simp only [fields, List.map_cons, List.cons.injEq] at hvalues
      obtain ⟨ha, hb, hc, hd, he, -⟩ := hvalues
      cases h with
      | number hname hunfit =>
          have hread := toUInt64_eq_none_iff.2 hunfit
          simp only [numericFields, List.mem_cons, List.not_mem_nil, or_false] at hname
          rcases hname with rfl | rfl | rfl | rfl
          · exact not_takes (ha ▸ hamong) hread _ _ htaken.profileSeconds
          · exact not_takes (hb ▸ hamong) hread _ _ htaken.fastMillis
          · exact not_takes (hc ▸ hamong) hread _ _ htaken.slowMillis
          · exact not_takes (hd ▸ hamong) hread _ _ htaken.commandMillis
      | path htext =>
          exact not_takes (he ▸ hamong) (toText_eq_none_iff.2 htext) _ _ htaken.supplyRoot

/-- An object with the members for some of the settings, in any order and with foreign members among
them, is decoded from any spelling of it as these settings, with the standard values of all others;
and there is a spelling, the document that is written for it.  The document that is written for
settings is decoded as these.  But an object is not decoded at all when it has a field twice, or a
number that does not fit, whatever else there is in it. -/
theorem decode_kept (config : Config) :
    (∀ (kept : String → Bool) (foreign written : List (Option String × Value)),
      (∀ member ∈ foreign, IsForeign (fields.map some) member) →
      written.Perm (config.members.filter (fun member => member.1.any kept) ++ foreign) →
        (∀ bytes, SpellsSpaced (.object written) (Utf8.symbols bytes) →
          decode bytes = some (config.keeping kept)) ∧
        decode (Utf8.encode (Value.object written).toText.toList) = some (config.keeping kept)) ∧
      decode (Utf8.encode config.toJson.toText.toList) = some config ∧
      (∀ name ∈ fields, ∀ first second before between after bytes,
        SpellsSpaced (.object
          (before ++ (some name, first) :: between ++ (some name, second) :: after))
          (Utf8.symbols bytes) → decode bytes = none) ∧
      (∀ name ∈ numericFields, ∀ value : Value, value.Unfit → ∀ members,
        (some name, value) ∈ members → ∀ bytes,
        SpellsSpaced (.object members) (Utf8.symbols bytes) → decode bytes = none) := by
  refine ⟨?_, decode_toJson config, ?_, ?_⟩
  · intro kept foreign written hforeign hwritten
    have hform := ofJson_kept config kept hforeign hwritten
    refine ⟨fun bytes hbytes => (decode_of_spells hbytes).trans hform, ?_⟩
    exact (decode_toText (wellFormed_kept config kept hforeign hwritten)).trans hform
  · intro name hname first second before between after bytes hbytes
    exact (decode_of_spells hbytes).trans (ofJson_repeated hname first second before between after)
  · intro name hname value hvalue members hmem bytes hbytes
    exact (decode_of_spells hbytes).trans (ofJson_illFit (.number hname hvalue) hmem)

/-- Two settings are given here, one of them with an escape in it. -/
example : decode (Utf8.encode
    "\x7b \"power_supply_root\": \"\\u002ftmp\", \"x\":[], \"power_cache_ttl_secs\":5\x7d".toList) =
      some { standard with profileSeconds := 5, supplyRoot := "/tmp" } := by
  decide +kernel

end HostVitals.Config
