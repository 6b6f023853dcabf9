import HostVitals.JsonForms
import HostVitals.Proofs.Json.Records

/-!
# Snapshots that are read back

A snapshot is read back from its document, and from every variant of it, as far as the texts of its
numbers and of its time are.  A number that is not finite is written as `null`, and then there is
nothing to read back.

Main results:

- `wellFormed_toJson`: the forms of all records are well-formed.
- `Battery.ofJson_variant`, `Thermal.ofJson_variant`, `Reading.ofJson_variant`: the parts of a
  snapshot are read back from their variants.
- `Snapshot.ofJson_variant`, `Snapshot.ofJson_variant_eq_none`: so are snapshots, unless there is a
  number in them that is not finite.
- `Snapshot.reads_back`: the same for the documents of snapshots.
-/

namespace HostVitals

open HostVitals.Json HostVitals.Number HostVitals.Time

/-! ## Plain values -/

namespace Json

theorem plain_ofText (text : String) : (Value.ofText text).Plain := .text text

theorem plain_ofOptionalText (text : Option String) : (Value.ofOptionalText text).Plain := by
  cases text with
  | none => exact .null
  | some text => exact .text text

theorem plain_ofNat (n : Nat) : (Value.ofNat n).Plain := .number (wellFormed_ofNat n)

theorem plain_ofBinary64 (x : Binary64) : (Value.ofBinary64 x).Plain := by
  unfold Value.ofBinary64
  cases h : Numeral.ofBinary64? x with
  | none => exact .null
  | some n => exact .number (wellFormed_of_ofBinary64 h)

/-- Values without parts have no variants. -/
theorem Variants.eq_of_plain {vs ws : List Value} (h : Variants vs ws)
    (hplain : ∀ v ∈ vs, v.Plain) : ws = vs := by
  induction vs generalizing ws with
  | nil =>
      cases h
      rfl
  | cons v vs ih =>
      cases h with
      | cons hfirst hrest =>
          rw [hfirst.eq_of_plain (hplain v List.mem_cons_self),
            ih hrest (fun u hu => hplain u (List.mem_cons_of_mem _ hu))]

/-- The fields of a record of plain values are found as they were written. -/
theorem Variant.slots_eq_of_plain {names : List String} {members : List (Option String × Value)}
    {w : Value} (h : Variant (.object members) w) (hnames : members.map Prod.fst = names.map some)
    (hnodup : names.Nodup) (hplain : ∀ value ∈ members.map Prod.snd, value.Plain) :
    slots names w = some (members.map (fun member => .given member.2)) := by
  obtain ⟨values, hvalues, hslots⟩ := h.slots_eq hnames hnodup
  rw [hslots, hvalues.eq_of_plain hplain, List.map_map]
  rfl

/-- An object of named plain members is well-formed. -/
theorem wellFormed_of_plain {members : List (Option String × Value)}
    (hnames : ∀ member ∈ members, member.1.isSome = true)
    (hplain : ∀ value ∈ members.map Prod.snd, value.Plain) :
    Value.WellFormed (.object members) :=
  .object hnames (fun _ hmember => (hplain _ (List.mem_map_of_mem hmember)).wellFormed)

/-- A text is optional. -/
theorem optional_ofOptionalText (text : Option String) :
    (Slot.given (.ofOptionalText text)).optional Value.toText? = some text := by
  cases text <;> rfl

/-- A whole number is read back where it is not too great. -/
theorem toNat_valueOfNat {greatest n : Nat} (h : n ≤ greatest) :
    (Value.ofNat n).toNat? greatest = some n := by
  simp only [Value.toNat?, Value.ofNat, toNat_ofNat, Option.filter_some, decide_eq_true h, if_true]

/-- A count of 32 bits is read back. -/
theorem toUInt32_ofNat (n : UInt32) : (Value.ofNat n.toNat).toUInt32? = some n := by
  rw [Value.toUInt32?, toNat_valueOfNat (Nat.le_of_lt_succ n.toNat_lt), Option.map_some,
    UInt32.ofNat_toNat]

/-- A count of 64 bits is read back. -/
theorem toUInt64_ofNat (n : UInt64) : (Value.ofNat n.toNat).toUInt64? = some n := by
  rw [Value.toUInt64?, toNat_valueOfNat (Nat.le_of_lt_succ n.toNat_lt), Option.map_some,
    UInt64.ofNat_toNat]

/-- A number that is not finite is read back as none. -/
theorem toBinary64_of_not_finite {x : Binary64} (h : x.isFinite = false) :
    (Value.ofBinary64 x).toBinary64? = none := by
  cases x with
  | nan => rfl
  | signed negative rank =>
      have hinfinite : rank = Rank.infinity := by
        simp only [Binary64.isFinite, decide_eq_false_iff_not, Nat.not_lt] at h
        exact Fin.ext (Nat.le_antisymm (Nat.le_of_lt_succ rank.isLt) h)
      simp [Value.ofBinary64, Numeral.ofBinary64?, hinfinite, Value.toBinary64?]

/-- A number is read back from the text that is written for it. -/
def ReadsSame (x : Binary64) : Prop :=
  (ofText (Value.ofBinary64 x).toText).bind Value.toBinary64? = some x

theorem ReadsSame.toBinary64_eq {x : Binary64} (h : ReadsSame x) :
    (Value.ofBinary64 x).toBinary64? = some x := by
  rwa [ReadsSame, ofText_toText (plain_ofBinary64 x).wellFormed] at h

end Json

/-! ## Batteries, fan and temperature, readings -/

theorem Battery.plain_fields (battery : Battery) :
    ∀ value ∈ [Value.ofBinary64 battery.percent, .ofText battery.status,
      .ofOptionalText battery.timeLeft, .ofOptionalText battery.health,
      .ofNat battery.cycleCount.toNat], value.Plain := by
  simp only [List.forall_mem_cons]
  exact ⟨plain_ofBinary64 _, plain_ofText _, plain_ofOptionalText _, plain_ofOptionalText _,
    plain_ofNat _, by simp⟩

/-- A battery is read back from every variant of its form, as far as its charge is. -/
theorem Battery.ofJson_variant {battery : Battery} {w : Value} (h : Variant battery.toJson w) :
    ofJson? w = (Value.ofBinary64 battery.percent).toBinary64?.map
      (fun percent => { battery with percent }) := by
  have hslots : slots fields w = some [.given (.ofBinary64 battery.percent),
      .given (.ofText battery.status), .given (.ofOptionalText battery.timeLeft),
      .given (.ofOptionalText battery.health), .given (.ofNat battery.cycleCount.toNat)] :=
    h.slots_eq_of_plain rfl (by decide) battery.plain_fields
  simp only [ofJson?, hslots, Option.bind_eq_bind, Option.bind_some, Slot.required,
    optional_ofOptionalText, toUInt32_ofNat, Value.ofText, Value.toText?]
  cases (Value.ofBinary64 battery.percent).toBinary64? <;> rfl

theorem Thermal.plain_fields (thermal : Thermal) :
    ∀ value ∈ [Value.ofNat thermal.fanSpeed.toNat, .ofBinary64 thermal.temperature,
      thermal.source.toJson], value.Plain := by
  simp only [List.forall_mem_cons]
  exact ⟨plain_ofNat _, plain_ofBinary64 _, plain_ofText _, by simp⟩

/-- Fan and temperature are read back, as far as the temperature is. -/
theorem Thermal.ofJson_variant {thermal : Thermal} {w : Value} (h : Variant thermal.toJson w) :
    ofJson? w = (Value.ofBinary64 thermal.temperature).toBinary64?.map
      (fun temperature => { thermal with temperature }) := by
  have hslots : slots fields w = some [.given (.ofNat thermal.fanSpeed.toNat),
      .given (.ofBinary64 thermal.temperature), .given thermal.source.toJson] :=
    h.slots_eq_of_plain rfl (by decide) thermal.plain_fields
  simp only [ofJson?, hslots, Option.bind_eq_bind, Option.bind_some, Slot.required,
    Slot.defaulted, toUInt32_ofNat, TemperatureSource.ofJson_toJson]
  cases (Value.ofBinary64 thermal.temperature).toBinary64? <;> rfl

theorem Reading.plain_fields (reading : Reading) :
    ∀ value ∈ [Value.ofText reading.label, .ofBinary64 reading.value, .ofText reading.unit],
      value.Plain := by
  simp only [List.forall_mem_cons]
  exact ⟨plain_ofText _, plain_ofBinary64 _, plain_ofText _, by simp⟩

/-- A reading is read back, as far as its value is. -/
theorem Reading.ofJson_variant {reading : Reading} {w : Value} (h : Variant reading.toJson w) :
    ofJson? w = (Value.ofBinary64 reading.value).toBinary64?.map
      (fun value => { reading with value }) := by
  have hslots : slots fields w = some [.given (.ofText reading.label),
      .given (.ofBinary64 reading.value), .given (.ofText reading.unit)] :=
    h.slots_eq_of_plain rfl (by decide) reading.plain_fields
  simp only [ofJson?, hslots, Option.bind_eq_bind, Option.bind_some, Slot.required, Value.ofText,
    Value.toText?]
  cases (Value.ofBinary64 reading.value).toBinary64? <;> rfl

/-! ## Well-formed forms -/

theorem Battery.wellFormed_toJson (battery : Battery) : battery.toJson.WellFormed :=
  wellFormed_of_plain (by simp [member]) battery.plain_fields

theorem Thermal.wellFormed_toJson (thermal : Thermal) : thermal.toJson.WellFormed :=
  wellFormed_of_plain (by simp [member]) thermal.plain_fields

theorem Reading.wellFormed_toJson (reading : Reading) : reading.toJson.WellFormed :=
  wellFormed_of_plain (by simp [member]) reading.plain_fields

/-- The form of a list is well-formed when those of its items are. -/
theorem wellFormed_list {α : Type} {write : α → Value} (hwrite : ∀ a, (write a).WellFormed)
    (as : List α) : Value.WellFormed (.array (as.map write)) :=
  .array (List.forall_mem_map.2 (fun a _ => hwrite a))

/-- The form of a snapshot is well-formed, however its time is written. -/
theorem Snapshot.wellFormed_toJsonAt (snapshot : Snapshot) (time : String) :
    (snapshot.toJsonAt time).WellFormed := by
  refine .object (by simp [member]) ?_
  simp only [List.forall_mem_cons]
  exact ⟨(plain_ofText time).wellFormed, (plain_ofText _).wellFormed,
    wellFormed_list Battery.wellFormed_toJson _, (plain_ofOptionalText _).wellFormed,
    snapshot.thermal.wellFormed_toJson, wellFormed_list Reading.wellFormed_toJson _,
    (plain_ofOptionalText _).wellFormed, by simp⟩

/-! ## Snapshots -/

/-- The numbers of binary64 in a snapshot. -/
def Snapshot.floats (snapshot : Snapshot) : List Binary64 :=
  snapshot.batteries.map Battery.percent ++ snapshot.thermal.temperature ::
    snapshot.sensors.map Reading.value

/-- The fields of a snapshot are found in every variant of its form. -/
theorem Snapshot.slots_variant {snapshot : Snapshot} {w : Value} (h : Variant snapshot.toJson w) :
    ∃ batteries thermal sensors, Variants (snapshot.batteries.map Battery.toJson) batteries ∧
      Variant snapshot.thermal.toJson thermal ∧
      Variants (snapshot.sensors.map Reading.toJson) sensors ∧
      slots fields w = some [.given (.ofText snapshot.collectedAt.rfc3339),
        .given (.ofText snapshot.platform), .given (.array batteries),
        .given (.ofOptionalText snapshot.batteryError), .given thermal, .given (.array sensors),
        .given (.ofOptionalText snapshot.sensorError)] := by
  obtain ⟨values, hvalues, hslots⟩ := @Variant.slots_eq fields _ _ h rfl (by decide)
  obtain ⟨time, _, rfl, htime, hvalues⟩ := hvalues.of_cons
  obtain ⟨platform, _, rfl, hplatform, hvalues⟩ := hvalues.of_cons
  obtain ⟨batteries, _, rfl, hbatteries, hvalues⟩ := hvalues.of_cons
  obtain ⟨batteryError, _, rfl, hbatteryError, hvalues⟩ := hvalues.of_cons
  obtain ⟨thermal, _, rfl, hthermal, hvalues⟩ := hvalues.of_cons
  obtain ⟨sensors, _, rfl, hsensors, hvalues⟩ := hvalues.of_cons
  obtain ⟨sensorError, _, rfl, hsensorError, hvalues⟩ := hvalues.of_cons
  obtain rfl := hvalues.of_nil
  obtain ⟨foundBatteries, rfl, hfoundBatteries⟩ := hbatteries.of_array
  obtain ⟨foundSensors, rfl, hfoundSensors⟩ := hsensors.of_array
  obtain rfl := htime.eq_of_plain (plain_ofText _)
  obtain rfl := hplatform.eq_of_plain (plain_ofText _)
  obtain rfl := hbatteryError.eq_of_plain (plain_ofOptionalText _)
  obtain rfl := hsensorError.eq_of_plain (plain_ofOptionalText _)
  exact ⟨foundBatteries, thermal, foundSensors, hfoundBatteries, hthermal, hfoundSensors, hslots⟩

/-- A snapshot is read back from every variant of its form, as far as the texts of its numbers and
of its time are. -/
theorem Snapshot.ofJson_variant {snapshot : Snapshot} {w : Value} (h : Variant snapshot.toJson w)
    (hfloats : ∀ x ∈ snapshot.floats, (Value.ofBinary64 x).toBinary64? = some x)
    (htime : Instant.ofRfc3339? snapshot.collectedAt.rfc3339 = some snapshot.collectedAt) :
    ofJson? w = some snapshot := by
  obtain ⟨batteries, thermal, sensors, hbatteries, hthermal, hsensors, hslots⟩ := slots_variant h
  simp only [floats, List.forall_mem_append, List.forall_mem_cons, List.forall_mem_map] at hfloats
  obtain ⟨hpercents, htemperature, hvalues⟩ := hfloats
  have hreadBatteries : batteries.mapM Battery.ofJson? = some snapshot.batteries :=
    mapM_variants hbatteries (fun battery hbattery _ hvariant => by
      rw [Battery.ofJson_variant hvariant, hpercents battery hbattery]
      rfl)
  have hreadThermal : Thermal.ofJson? thermal = some snapshot.thermal := by
    rw [Thermal.ofJson_variant hthermal, htemperature]
    rfl
  have hreadSensors : sensors.mapM Reading.ofJson? = some snapshot.sensors :=
    mapM_variants hsensors (fun reading hreading _ hvariant => by
      rw [Reading.ofJson_variant hvariant, hvalues reading hreading]
      rfl)
  simp only [ofJson?, hslots, Option.bind_eq_bind, Option.bind_some, Slot.required,
    optional_ofOptionalText, Value.ofText, Value.toText?, Value.toList?, htime, hreadBatteries,
    hreadThermal, hreadSensors]
  rfl

/-- A snapshot with a number that is not finite is not read back. -/
theorem Snapshot.ofJson_variant_eq_none {snapshot : Snapshot} {w : Value}
    (h : Variant snapshot.toJson w) {x : Binary64} (hx : x ∈ snapshot.floats)
    (hfinite : x.isFinite = false) : ofJson? w = none := by
  obtain ⟨batteries, thermal, sensors, hbatteries, hthermal, hsensors, hslots⟩ := slots_variant h
  have hnone := toBinary64_of_not_finite hfinite
  have hparts : batteries.mapM Battery.ofJson? = none ∨ Thermal.ofJson? thermal = none ∨
      sensors.mapM Reading.ofJson? = none := by
    simp only [floats, List.mem_append, List.mem_cons, List.mem_map] at hx
    rcases hx with ⟨battery, hbattery, rfl⟩ | rfl | ⟨reading, hreading, rfl⟩
    · exact .inl (mapM_variants_eq_none hbatteries hbattery (fun _ hvariant => by
        rw [Battery.ofJson_variant hvariant, hnone]
        rfl))
    · refine .inr (.inl ?_)
      rw [Thermal.ofJson_variant hthermal, hnone]
      rfl
    · exact .inr (.inr (mapM_variants_eq_none hsensors hreading (fun _ hvariant => by
        rw [Reading.ofJson_variant hvariant, hnone]
        rfl)))
  simp only [ofJson?, hslots, Option.bind_eq_bind, Option.bind_some, Slot.required, Value.toList?]
  rcases hparts with hnone | hnone | hnone <;> simp [hnone]

/-- A snapshot whose numbers are finite and are read back from their texts, and whose time is, is
read back from its document, and from every document of a variant: one with the members of its
objects in any order, and with plain members of other names among them.  A snapshot with a number
that is not finite is not read back. -/
theorem Snapshot.reads_back (snapshot : Snapshot) :
    ((∀ x ∈ snapshot.floats, x.isFinite = true ∧ ReadsSame x) →
      Instant.ofRfc3339? snapshot.collectedAt.rfc3339 = some snapshot.collectedAt →
        (ofText snapshot.toJson.toText).bind ofJson? = some snapshot ∧
        ∀ w, Variant snapshot.toJson w → ofText w.toText = some w ∧
          ∀ text, ofText text = some w → (ofText text).bind ofJson? = some snapshot) ∧
      ((∃ x ∈ snapshot.floats, x.isFinite = false) →
        (ofText snapshot.toJson.toText).bind ofJson? = none) := by
  have hwritten := ofText_toText (snapshot.wellFormed_toJsonAt snapshot.collectedAt.rfc3339)
  constructor
  · intro hfloats htime
    have hread : ∀ w, Variant snapshot.toJson w → ofJson? w = some snapshot := by
      intro w hvariant
      exact ofJson_variant hvariant (fun x hx => (hfloats x hx).2.toBinary64_eq) htime
    refine ⟨?_, ?_⟩
    · rw [toJson, hwritten, Option.bind_some]
      exact hread _ (.same _)
    · intro w hvariant
      refine ⟨ofText_toText (hvariant.wellFormed (snapshot.wellFormed_toJsonAt _)), ?_⟩
      intro text htext
      rw [htext, Option.bind_some]
      exact hread w hvariant
  · rintro ⟨x, hx, hfinite⟩
    rw [toJson, hwritten, Option.bind_some]
    exact ofJson_variant_eq_none (.same _) hx hfinite

/-- A snapshot with texts that need escapes, and with fields that are left out. -/
def awkwardSnapshot : Snapshot where
  collectedAt := ⟨1700000000, 123456789⟩
  platform := "a\"b\\c\x01\n😀"
  batteries := [⟨.ofInt 77, "", none, some "\t\"", 4294967295⟩]
  batteryError := none
  thermal := ⟨0, .signed true Rank.zero, .thermalLevel⟩
  sensors := [⟨"\x7f", .ofInt 30, "°C"⟩]
  sensorError := some "\ud7ff"

/-- The members of its form from back to front, with a foreign one in front. -/
def awkwardVariant : Value :=
  match awkwardSnapshot.toJson with
  | .object members => .object ((some "\"new\"", .null) :: members.reverse)
  | value => value

/-- That snapshot is read back from the document of that variant. -/
theorem Snapshot.reads_back_awkward :
    (ofText awkwardVariant.toText).bind Snapshot.ofJson? = some awkwardSnapshot := by
  have hfloats : ∀ x ∈ awkwardSnapshot.floats, x.isFinite = true ∧
      (ofText (Value.ofBinary64 x).toText).bind Value.toBinary64? = some x := by
    decide +kernel
  have htime : Instant.ofRfc3339? awkwardSnapshot.collectedAt.rfc3339 =
      some awkwardSnapshot.collectedAt := by
    decide +kernel
  have hvariant : Variant awkwardSnapshot.toJson awkwardVariant := by
    refine @Variant.object _ _ [(some "\"new\"", .null)] _ rfl (.refl _) ?_ ?_
    · simp only [List.forall_mem_cons]
      exact ⟨⟨_, _, rfl, by decide, .null⟩, by simp⟩
    · exact ((List.reverse_perm _).cons _).trans (List.perm_append_singleton _ _).symm
  have hread := (awkwardSnapshot.reads_back.1 hfloats htime).2 _ hvariant
  exact hread.2 _ hread.1

end HostVitals
